import Docblock.Proofs.Lines
import Docblock.Proofs.Provenance
import Docblock.Proofs.Scan

namespace Docblock

open Text

structure Tags.Unbroken (tags : Tags) : Prop where
  summary : Text.Unbroken tags.summary
  param : Text.Unbroken tags.param
  returns : Text.Unbroken tags.returns
  paramAttr : Text.Unbroken tags.paramAttr

namespace Fragment

variable {config : Config} {fragment : Fragment}

theorem unbroken_content (tags : config.tags.Unbroken)
    (drawn : fragment.Over config fun c => isBreak c = false) {content : Text}
    (member : content ∈ fragment.openTag :: fragment.bodyLines ++ [fragment.closeTag]) :
    Text.Unbroken content := by
  apply drawn.content _ (by simp [signs, isBreak]) member
  simp only [Tags.texts, List.forall_mem_cons, List.not_mem_nil, false_implies, implies_true,
    and_true]
  exact ⟨tags.summary, tags.param, tags.returns, tags.paramAttr⟩

theorem render_line (tags : config.tags.Unbroken)
    (drawn : fragment.Over config fun c => isBreak c = false) {doc newline line : Text}
    (member : line ∈ fragment.render doc newline) :
    ∃ content, Text.Unbroken content ∧ line = fragment.lead doc ++ content ++ newline := by
  obtain ⟨content, inside, rfl⟩ := List.mem_map.mp member
  exact ⟨content, unbroken_content tags drawn inside, rfl⟩

theorem unbroken_lead {doc : Text} (unbroken : Text.Unbroken doc) :
    Text.Unbroken (fragment.lead doc) :=
  over_lead unbroken (by decide)

end Fragment

theorem Line.text_mem_of_mem_numbered {number : Int} {texts : List Text} {line : Line}
    (member : line ∈ Line.numbered number texts) : line.text ∈ texts := by
  rw [← Line.text_numbered number texts]
  exact List.mem_map_of_mem member

theorem Piece.written_block_ended {config : Config} (doc : Text.Unbroken config.markers.doc)
    (tags : config.tags.Unbroken) (width : Int) {lines : List Line}
    (unbroken : ∀ line ∈ lines, Text.Unbroken line.body) :
    ∀ line ∈ Piece.written config (.block width lines), ∃ (body : Text) (newline : Newline),
      Text.Unbroken body ∧ line = body ++ newline.text := by
  intro line member
  obtain ⟨fragment, emitted, rendered⟩ := List.mem_flatMap.mp member
  rw [Piece.fragments, Section.fragments_readBlock] at emitted
  have drawn := Segment.reading_over (by decide) unbroken fragment emitted
  obtain ⟨content, unbrokenContent, rfl⟩ := Fragment.render_line tags drawn rendered
  exact ⟨fragment.lead config.markers.doc ++ content, config.newline.getD .lf,
    unbroken_append.mpr ⟨Fragment.unbroken_lead doc, unbrokenContent⟩, rfl⟩

theorem Markers.lined_scan {config : Config} (doc : Text.Unbroken config.markers.doc)
    (tags : config.tags.Unbroken) (number width : Int) {lines : List Text} (lined : Lined lines) :
    Lined ((config.markers.scan number width lines).written config ++
      (config.markers.scan number width lines).tail.map Line.text) := by
  fun_induction Markers.scan config.markers number width lines with
  | case1 number width => exact .nil
  | case2 number width line rest opens unclosed =>
      rw [Line.text_numbered]
      exact lined
  | case3 number width line rest opens last found width' induction =>
      have bodies : ∀ other ∈ Line.numbered number ((line :: rest).take (last + 1)),
          Text.Unbroken other.body := by
        intro other member
        have inBlock := Line.text_mem_of_mem_numbered member
        exact lined.unbroken_stripBreak _ (List.take_subset _ _ inBlock)
      have ended := Piece.written_block_ended doc tags width' bodies
      have after := induction (lined.drop (last + 1))
      rw [Scan.cons, Scan.written, List.flatMap_cons, List.append_assoc]
      exact Lined.append ended after
  | case4 number width line rest plain induction =>
      rcases lined.cons_cases with ⟨rfl, unbroken, nonempty⟩ | ⟨body, newline, rfl, unbroken, after⟩
      · rw [Markers.scan]
        exact .last unbroken nonempty
      · exact .cons newline unbroken (induction after)

theorem lined_convertLines {config : Config} (doc : Text.Unbroken config.markers.doc)
    (tags : config.tags.Unbroken) (source : Option Path) {lines : List Text}
    (lined : Lined lines) : Lined (convertLines config source lines).1.yield.lines := by
  have all := Markers.lined_scan doc tags 1 0 lined
  rw [lines_convertLines]
  cases config.openTail with
  | flush => exact all
  | error => exact (List.append_nil _).symm ▸ all.left
  | drop => exact (List.append_nil _).symm ▸ all.left

theorem Scan.fragments_cons (config : Config) (piece : Piece) (scan : Scan) :
    (scan.cons piece).fragments config = piece.fragments config ++ scan.fragments config := rfl

theorem Markers.fragments_scan_over {config : Config} {p : Char → Prop} (space : p ' ')
    (number width : Int) {lines : List Text} (all : ∀ line ∈ lines, Text.Over p line.stripBreak) :
    ∀ fragment ∈ (config.markers.scan number width lines).fragments config,
      fragment.Over config p := by
  fun_induction Markers.scan config.markers number width lines with
  | case1 number width =>
      intro fragment member
      cases member
  | case2 number width line rest opens unclosed =>
      intro fragment member
      cases member
  | case3 number width line rest opens last found width' induction =>
      intro fragment member
      rw [Scan.fragments_cons] at member
      rcases List.mem_append.mp member with inBlock | after
      · rw [Piece.fragments, Section.fragments_readBlock] at inBlock
        refine Segment.reading_over space ?_ fragment inBlock
        intro other inLines
        exact all _ (List.take_subset _ _ (Line.text_mem_of_mem_numbered inLines))
      · refine induction ?_ fragment after
        intro other inRest
        exact all other (List.mem_cons_of_mem line (List.drop_subset last rest inRest))
  | case4 number width line rest plain induction =>
      exact induction (List.forall_mem_cons.mp all).2

theorem Markers.mem_scan {config : Config} (number width : Int) {lines : List Text} {line : Text}
    (member : line ∈ (config.markers.scan number width lines).written config ++
      (config.markers.scan number width lines).tail.map Line.text) :
    line ∈ lines ∨ ∃ fragment ∈ (config.markers.scan number width lines).fragments config,
      line ∈ fragment.render config.markers.doc config.lineSeparator := by
  fun_induction Markers.scan config.markers number width lines with
  | case1 number width => cases member
  | case2 number width first rest opens unclosed =>
      rw [Line.text_numbered] at member
      exact .inl member
  | case3 number width first rest opens last found width' induction =>
      rw [Scan.cons, Scan.written, List.flatMap_cons, List.append_assoc] at member
      rw [Scan.fragments_cons]
      rcases List.mem_append.mp member with inBlock | after
      · obtain ⟨fragment, emitted, rendered⟩ := List.mem_flatMap.mp inBlock
        exact .inr ⟨fragment, List.mem_append_left _ emitted, rendered⟩
      · rcases induction after with copied | ⟨fragment, emitted, rendered⟩
        · exact .inl (List.mem_cons_of_mem first (List.drop_subset last rest copied))
        · exact .inr ⟨fragment, List.mem_append_right _ emitted, rendered⟩
  | case4 number width first rest plain induction =>
      rcases List.mem_cons.mp member with rfl | after
      · exact .inl List.mem_cons_self
      · exact (induction after).imp_left (List.mem_cons_of_mem first)

theorem Scan.tailLines_subset (scan : Scan) (policy : OpenTail) :
    scan.tailLines policy ⊆ scan.tail.map Line.text := by
  cases policy with
  | flush => exact List.Subset.refl _
  | error => exact List.nil_subset _
  | drop => exact List.nil_subset _

theorem Text.apart_of_getLast? {lines : List Text}
    (plain : ∀ line ∈ lines, line.getLast? ≠ some '\r') : Apart lines := by
  induction lines with
  | nil => trivial
  | cons line lines induction =>
      obtain ⟨first, others⟩ := List.forall_mem_cons.mp plain
      exact ⟨fun ends => first ends.1, induction others⟩

def Text.Paired (text : Text) : Prop :=
  ∀ position < text.length, text[position]? = some '\r' → text[position + 1]? = some '\n'

instance (text : Text) : Decidable (Text.Paired text) :=
  Nat.decidableBallLT text.length fun position _ =>
    text[position]? = some '\r' → text[position + 1]? = some '\n'

theorem Text.Paired.getLast?_ne {text : Text} (paired : Text.Paired text) :
    ∀ line ∈ lines text, line.getLast? ≠ some '\r' := by
  intro line member ends
  obtain ⟨front, rest, cut⟩ := List.append_of_mem member
  have apart := (apart_lines text).drop front.length
  rw [cut, List.drop_left] at apart
  -- The CR is followed by the first character of the lines behind it.
  obtain ⟨body, rfl⟩ := List.getLast?_eq_some_iff.mp ends
  have parts : text = (front.flatten ++ body) ++ '\r' :: rest.flatten := by
    calc text = (lines text).flatten := (flatten_lines text).symm
      _ = _ := by simp [cut]
  have behind := paired (front.flatten ++ body).length (by simp [parts]) (by simp [parts])
  rw [parts, List.getElem?_append_right (Nat.le_add_right _ 1), Nat.add_sub_cancel_left,
    List.getElem?_cons_succ, ← List.head?_eq_getElem?] at behind
  exact apart.1 ⟨ends, behind⟩

theorem Newline.getLast?_append_ne {newline : Newline} (notReturn : newline ≠ .cr) (text : Text) :
    (text ++ newline.text).getLast? ≠ some '\r' := by
  cases newline with
  | lf => simp [Newline.text]
  | crlf => simp [Newline.text]
  | cr => exact absurd rfl notReturn

theorem Fragment.getLast?_render_ne {config : Config} (notReturn : config.newline ≠ some .cr)
    {fragment : Fragment} {line : Text}
    (member : line ∈ fragment.render config.markers.doc config.lineSeparator) :
    line.getLast? ≠ some '\r' := by
  obtain ⟨content, -, rfl⟩ := List.mem_map.mp member
  apply Newline.getLast?_append_ne
  intro isReturn
  cases chosen : config.newline with
  | none =>
      rw [chosen] at isReturn
      cases isReturn
  | some newline =>
      rw [chosen] at isReturn notReturn
      exact notReturn (congrArg some isReturn)

/-- Where no CR of the source, nor of what is written for its blocks, is a line break of its own,
the lines of the output text are those that were written, and of those every line of a fragment
consists of its indentation, the marker, a space, a text on one line, and the line separator. -/
theorem convertText_lines_written (config : Config) (notReturn : config.newline ≠ some .cr)
    (doc : Text.Unbroken config.markers.doc) (tags : config.tags.Unbroken) (source : Option Path)
    (text : Text) (paired : Text.Paired text) (context : Context)
    (converted : convertText config source text = (context, none)) :
    let scan := config.markers.scan 1 0 text.lines
    lines context.text = (convertLines config source text.lines).1.yield.lines ∧
    context.stats.linesWritten = (lines context.text).length ∧
    lines context.text =
      scan.pieces.flatMap (Piece.written config) ++ scan.tailLines config.openTail ∧
    context.yield.fragments = scan.pieces.flatMap (Piece.fragments config) ∧
    ∀ fragment ∈ context.yield.fragments,
      ∀ line ∈ fragment.render config.markers.doc config.lineSeparator,
        ∃ content, Text.Unbroken content ∧
          line = List.replicate fragment.indent.toNat ' ' ++ config.markers.doc ++ [' '] ++
            content ++ config.lineSeparator := by
  intro scan
  obtain rfl : (convertLines config source text.lines).1 = context := congrArg Prod.fst converted
  have written := lines_convertLines config source text.lines
  have lined := lined_convertLines doc tags source (lined_lines text)
  have plain : ∀ line ∈ (convertLines config source text.lines).1.yield.lines,
      line.getLast? ≠ some '\r' := by
    intro line member
    rw [written] at member
    have origin : line ∈ scan.written config ++ scan.tail.map Line.text := by
      rcases List.mem_append.mp member with inPieces | inTail
      · exact List.mem_append_left _ inPieces
      · exact List.mem_append_right _ (Scan.tailLines_subset _ _ inTail)
    rcases Markers.mem_scan 1 0 origin with copied | ⟨fragment, -, rendered⟩
    · exact paired.getLast?_ne line copied
    · exact Fragment.getLast?_render_ne notReturn rendered
  have output : lines (convertLines config source text.lines).1.text =
      (convertLines config source text.lines).1.yield.lines :=
    lined.lines_flatten (apart_of_getLast? plain)
  have fragments := fragments_convertLines config source text.lines
  refine ⟨output, ?_, output.trans written, fragments, ?_⟩
  · rw [output]
    rfl
  · intro fragment emitted line rendered
    rw [fragments] at emitted
    have bodies := (lined_lines text).unbroken_stripBreak
    have drawn := Markers.fragments_scan_over (by decide) 1 0 bodies fragment emitted
    exact Fragment.render_line tags drawn rendered

/-- Both line breaks in one source, and a block that is closed on a last line without a break. -/
theorem convertText_lines_written_mixed :
    let config : Config := { newline := some .crlf }
    let text : Text := "a\r\n\x7b@@ Summary: s\n t \x7d".toList
    let context := (convertText config none text).1
    let scan := config.markers.scan 1 0 text.lines
    config.newline ≠ some .cr ∧
    Text.Unbroken config.markers.doc ∧
    config.tags.Unbroken ∧
    Text.Paired text ∧
    convertText config none text = (context, none) ∧
    context.stats.linesWritten = 5 ∧
    lines context.text = (convertLines config none text.lines).1.yield.lines ∧
    context.stats.linesWritten = (lines context.text).length ∧
    lines context.text =
      scan.pieces.flatMap (Piece.written config) ++ scan.tailLines config.openTail ∧
    context.yield.fragments = scan.pieces.flatMap (Piece.fragments config) ∧
    ∀ fragment ∈ context.yield.fragments,
      ∀ line ∈ fragment.render config.markers.doc config.lineSeparator,
        ∃ content, Text.Unbroken content ∧
          line = List.replicate fragment.indent.toNat ' ' ++ config.markers.doc ++ [' '] ++
            content ++ config.lineSeparator := by
  intro config text context scan
  have notReturn : config.newline ≠ some .cr := by decide
  have doc : Text.Unbroken config.markers.doc := by decide
  have tags : config.tags.Unbroken := ⟨by decide, by decide, by decide, by decide⟩
  have paired : Text.Paired text := by decide +kernel
  have closed : (convertText config none text).2 = none := by decide +kernel
  have converted : convertText config none text = (context, none) := Prod.ext rfl closed
  have counted : context.stats.linesWritten = 5 := by decide +kernel
  refine ⟨notReturn, doc, tags, paired, converted, counted, ?_⟩
  exact convertText_lines_written config notReturn doc tags none text paired context converted

end Docblock
