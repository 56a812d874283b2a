import Docblock.Collector

namespace Docblock

namespace Text

theorem holds_iff {text pattern : Text} : text.holds pattern = true ↔ pattern <:+: text := by
  induction text with
  | nil => simp [holds, find?]
  | cons c text induction =>
      rw [List.infix_cons_iff, ← induction]
      simp only [holds, find?]
      split
      · rename_i isPrefix
        simpa using .inl (List.isPrefixOf_iff_prefix.mp isPrefix)
      · rename_i noPrefix
        have absent : ¬pattern <+: c :: text :=
          fun isPrefix => noPrefix (List.isPrefixOf_iff_prefix.mpr isPrefix)
        simp [absent]

theorem holds_eq_false_iff {text pattern : Text} :
    text.holds pattern = false ↔ ¬pattern <:+: text := by
  rw [← holds_iff, Bool.not_eq_true]

theorem isSome_cut? (text pattern : Text) : (text.cut? pattern).isSome = text.holds pattern := by
  simp [cut?, holds]

theorem isInfix_of_concat {text pattern : Text} {c : Char} (lacks : c ∉ pattern)
    (occurs : pattern <:+: text ++ [c]) : pattern <:+: text := by
  rcases List.infix_concat_iff.mp occurs with atEnd | inside
  · rcases List.suffix_concat_iff.mp atEnd with rfl | ⟨front, rfl, -⟩
    · exact List.nil_infix
    · exact absurd (by simp) lacks
  · exact inside

end Text

namespace Markers

theorem opens_iff {markers : Markers} {text : Text} :
    markers.opens text = true ↔
      markers.opening <:+: text ∧ ¬markers.lineComment <:+: text := by
  rw [opens, Bool.and_eq_true, Text.holds_iff, Bool.not_eq_true', Text.holds_eq_false_iff]

theorem opens_eq_false_of_lineComment {markers : Markers} {text : Text}
    (commented : markers.lineComment <:+: text) : markers.opens text = false := by
  rw [← Bool.not_eq_true, opens_iff]
  exact fun opens => opens.2 commented

theorem opens_eq_false_of_joined {markers : Markers} (lacks : '\n' ∉ markers.opening) (body : Text)
    (quiet : markers.opens (body ++ ['\r']) = false) :
    markers.opens (body ++ ['\r', '\n']) = false := by
  rw [← Bool.not_eq_true, opens_iff] at quiet ⊢
  rintro ⟨opening, noComment⟩
  have split : body ++ ['\r', '\n'] = body ++ ['\r'] ++ ['\n'] := by simp
  rw [split] at opening noComment
  refine quiet ⟨Text.isInfix_of_concat lacks opening, ?_⟩
  intro comment
  exact noComment (comment.trans (List.infix_append_left))

end Markers

end Docblock
