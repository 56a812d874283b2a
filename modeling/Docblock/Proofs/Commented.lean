import Docblock.Config
import Docblock.Proofs.Earliest
import Mathlib.Data.List.Basic

namespace Docblock

namespace Text

theorem find?_append {pattern text : Text} {start : Nat} (filled : pattern ≠ [])
    (found : find? pattern text = some start) (rest : Text) :
    start + pattern.length ≤ text.length ∧ find? pattern (text ++ rest) = some start := by
  obtain ⟨stands, first⟩ := find?_eq_some_iff.mp found
  have positive := List.length_pos_iff.mpr filled
  have fits : pattern.length ≤ text.length - start := by
    simpa using stands.length_le
  refine ⟨by omega, find?_eq_some_iff.mpr ⟨?_, ?_⟩⟩
  · rw [List.drop_append_of_le_length (by omega)]
    exact stands.trans (List.prefix_append _ _)
  · intro earlier before occurs
    -- An earlier occurrence would end in front of `rest`, as the first one does.
    rw [List.drop_append_of_le_length (by omega)] at occurs
    apply first earlier before
    apply List.prefix_of_prefix_length_le occurs (List.prefix_append _ _)
    rw [List.length_drop]
    omega

theorem upTo_append {marker text : Text} (filled : marker ≠ []) (occurs : marker <:+: text)
    (rest : Text) : upTo marker (text ++ rest) = upTo marker text := by
  obtain ⟨start, found⟩ := Option.isSome_iff_exists.mp (holds_iff.mpr occurs)
  obtain ⟨fits, again⟩ := find?_append filled found rest
  have inside : start ≤ text.length := by omega
  simp [upTo, cut?, found, again, filled, List.take_append_of_le_length inside]

theorem Uncommented.upTo_eq {marker text kept : Text} (uncommented : Uncommented marker text kept) :
    upTo marker text = kept := by
  cases uncommented with
  | whole absent =>
      unfold upTo
      split
      · rfl
      · rename_i nonempty
        have missing : text.holds marker = false :=
          holds_eq_false_iff.mpr (absent.resolve_left (mt List.isEmpty_iff.mpr nonempty))
        rw [← isSome_cut?, Option.isSome_eq_false_iff, Option.isNone_iff_eq_none] at missing
        rw [missing]
        rfl
  | @cut _ comment filled first =>
      have found : find? marker (kept ++ marker ++ comment) = some kept.length := by
        apply find?_eq_some_iff.mpr
        exact ⟨by simp, first⟩
      rw [upTo, if_neg (mt List.isEmpty_iff.mp filled), cut?, found]
      simp

theorem upTo_drop (marker text : Text) {count : Nat} (before : count ≤ (upTo marker text).length) :
    upTo marker (text.drop count) = (upTo marker text).drop count := by
  apply Uncommented.upTo_eq
  have uncommented := uncommented_upTo marker text
  generalize upTo marker text = kept at before uncommented
  cases uncommented with
  | whole absent =>
      apply Uncommented.whole
      apply absent.imp_right
      intro missing occurs
      exact missing (occurs.trans (List.drop_suffix count text).isInfix)
  | @cut _ comment filled first =>
      have parts : (kept ++ marker ++ comment).drop count =
          kept.drop count ++ marker ++ comment := by
        rw [List.append_assoc, List.drop_append_of_le_length before, List.append_assoc]
      rw [parts]
      apply Uncommented.cut filled
      intro position inside
      rw [← parts, List.drop_drop]
      apply first
      rw [List.length_drop] at inside
      omega

theorem StandsAt.append {pattern text : Text} {position : Nat}
    (stands : StandsAt pattern text position) (rest : Text) :
    StandsAt pattern (text ++ rest) position := by
  intro index c held
  obtain ⟨d, found, same⟩ := stands index c held
  obtain ⟨inside, -⟩ := List.getElem?_eq_some_iff.mp found
  exact ⟨d, by rw [List.getElem?_append_left inside, found], same⟩

/-- A text does not reach over a letter that it lacks. -/
theorem standsAt_append_iff {pattern text rest : Text} {d : Char} {position : Nat}
    (lacks : ∀ c ∈ pattern, sameLetter c d = false) (before : position ≤ text.length) :
    StandsAt pattern (text ++ d :: rest) position ↔ StandsAt pattern text position := by
  refine ⟨?_, fun stands => stands.append _⟩
  intro stands
  have fits : position + pattern.length ≤ text.length := by
    by_contra beyond
    have reached : text.length - position < pattern.length := by omega
    obtain ⟨other, found, same⟩ := stands _ _ (List.getElem?_eq_getElem reached)
    rw [Nat.add_sub_cancel' before, List.getElem?_append_right (Nat.le_refl _), Nat.sub_self,
      List.getElem?_cons_zero] at found
    rw [← Option.some.inj found, lacks _ (List.getElem_mem reached)] at same
    cases same
  intro index c held
  obtain ⟨inside, -⟩ := List.getElem?_eq_some_iff.mp held
  obtain ⟨other, found, same⟩ := stands index c held
  rw [List.getElem?_append_left (by omega)] at found
  exact ⟨other, found, same⟩

end Text

namespace Sentinel

open Text

def Foreign (marker sentinel : Text) : Prop :=
  ∀ c ∈ sentinel, ∀ d ∈ marker, sameLetter c d = false

variable {marker sentinel line : Text}

theorem firstAt_append_iff {kept rest : Text} {d : Char} {position : Nat} (filled : sentinel ≠ [])
    (lacks : ∀ c ∈ sentinel, sameLetter c d = false) :
    position < kept.length ∧ FirstAt sentinel (kept ++ d :: rest) position ↔
      FirstAt sentinel kept position := by
  constructor
  · intro ⟨before, stands, least⟩
    refine ⟨(standsAt_append_iff lacks before.le).mp stands, ?_⟩
    intro other standsToo
    exact least (standsToo.append _)
  · intro ⟨stands, least⟩
    have fits := stands.stop_le filled
    have positive := List.length_pos_iff.mpr filled
    refine ⟨by omega, stands.append _, ?_⟩
    intro other standsToo
    by_cases inside : other ≤ kept.length
    · exact least ((standsAt_append_iff lacks inside).mp standsToo)
    · omega

theorem position?_eq_occurrence? (foreign : Foreign marker sentinel) :
    position? marker sentinel line = occurrence? sentinel (upTo marker line) := by
  have uncommented := uncommented_upTo marker line
  generalize upTo marker line = kept at uncommented
  apply Option.ext
  intro position
  rw [position?, Option.filter_eq_some_iff, Bool.not_eq_true', shadowed_eq_false_iff,
    occurrence?_eq_some_iff, occurrence?_eq_some_iff, and_assoc]
  apply and_congr_right
  intro filled
  cases uncommented with
  | whole absent =>
      apply and_iff_left
      intro marked earlier before occurs
      apply absent.resolve_left marked
      exact occurs.isInfix.trans (List.drop_suffix earlier line).isInfix
  | @cut _ comment marked first =>
      have clear : (marker ≠ [] → ∀ earlier ≤ position,
          ¬marker <+: (kept ++ marker ++ comment).drop earlier) ↔ position < kept.length := by
        constructor
        · intro clear
          by_contra behind
          exact clear marked kept.length (Nat.le_of_not_lt behind) (by simp)
        · intro before _ earlier early
          exact first earlier (Nat.lt_of_le_of_lt early before)
      rw [clear, and_comm]
      obtain ⟨d, rest, rfl⟩ := List.exists_cons_of_ne_nil marked
      rw [List.append_assoc, List.cons_append]
      apply firstAt_append_iff filled
      intro c member
      exact foreign c member d List.mem_cons_self

theorem find?_eq_find?_upTo {sentinels : List Sentinel}
    (foreign : ∀ sentinel ∈ sentinels, Foreign marker sentinel.text) :
    find? marker line sentinels = find? [] (upTo marker line) sentinels := by
  unfold find?
  congr 1
  apply List.filterMap_congr
  intro sentinel member
  have plain : Foreign [] sentinel.text := by
    intro c _ d impossible
    cases impossible
  rw [match?, match?, position?_eq_occurrence? (foreign sentinel member),
    position?_eq_occurrence? plain]
  rfl

theorem remainder_eq_drop_upTo {sentinels : List Sentinel} {found : Match}
    (foreign : ∀ sentinel ∈ sentinels, Foreign marker sentinel.text)
    (matched : find? marker line sentinels = some found) :
    found.remainder marker line = Text.strip ((upTo marker line).drop found.stop) := by
  rw [find?_eq_find?_upTo foreign] at matched
  have inside := (find?_eq_some_iff_decides.mp matched).stop_le
  obtain ⟨kept, uncommented, remainder⟩ := uncommented_remainder marker line found
  rw [remainder, ← uncommented.upTo_eq, upTo_drop marker line inside]

/-- What is written behind the marker of a line comment neither starts a section nor ends up in
one. -/
theorem find?_ignores_comment (marker before first second : Text) (sentinels : List Sentinel)
    (filled : marker ≠ [])
    (foreign : ∀ sentinel ∈ sentinels, ∀ c ∈ sentinel.text, ∀ d ∈ marker, sameLetter c d = false) :
    find? marker (before ++ marker ++ first) sentinels =
        find? marker (before ++ marker ++ second) sentinels ∧
      ∀ found, find? marker (before ++ marker ++ first) sentinels = some found →
        found.remainder marker (before ++ marker ++ first) =
          found.remainder marker (before ++ marker ++ second) := by
  have occurs : marker <:+: before ++ marker := (List.suffix_append before marker).isInfix
  have same : upTo marker (before ++ marker ++ first) =
      upTo marker (before ++ marker ++ second) := by
    rw [upTo_append filled occurs, upTo_append filled occurs]
  have found_same : find? marker (before ++ marker ++ first) sentinels =
      find? marker (before ++ marker ++ second) sentinels := by
    rw [find?_eq_find?_upTo foreign, find?_eq_find?_upTo foreign, same]
  refine ⟨found_same, ?_⟩
  intro found matched
  rw [remainder_eq_drop_upTo foreign matched, remainder_eq_drop_upTo foreign (found_same ▸ matched),
    same]

/-- The marker already starts inside the text in front of it, and each comment has a sentinel. -/
theorem find?_ignores_comment_overlap :
    let marker := "//".toList
    let before := "a Summary: s /".toList
    let first := " Returns: r".toList
    let second := "/ // Parameters:".toList
    let sentinels := ({} : Config).sectionSentinels
    let found : Match := ⟨.summary, 2, 10⟩
    marker ≠ [] ∧
    (∀ sentinel ∈ sentinels, ∀ c ∈ sentinel.text, ∀ d ∈ marker, sameLetter c d = false) ∧
    find? marker (before ++ marker ++ first) sentinels = some found ∧
    find? marker (before ++ marker ++ second) sentinels = some found ∧
    found.remainder marker (before ++ marker ++ first) = "s".toList ∧
    found.remainder marker (before ++ marker ++ second) = "s".toList := by
  intro marker before first second sentinels found
  have filled : marker ≠ [] := by decide
  have foreign : ∀ sentinel ∈ sentinels, ∀ c ∈ sentinel.text, ∀ d ∈ marker,
      sameLetter c d = false := by
    have checked : sentinels.all (fun sentinel => sentinel.text.all fun c =>
        marker.all fun d => !sameLetter c d) = true := by decide +kernel
    simpa only [List.all_eq_true, Bool.not_eq_true'] using checked
  have matched : find? marker (before ++ marker ++ first) sentinels = some found := by
    decide +kernel
  have remains : found.remainder marker (before ++ marker ++ first) = "s".toList := by
    decide +kernel
  obtain ⟨same, remainders⟩ :=
    find?_ignores_comment marker before first second sentinels filled foreign
  exact ⟨filled, foreign, matched, same ▸ matched, remains, remainders found matched ▸ remains⟩

end Sentinel

end Docblock
