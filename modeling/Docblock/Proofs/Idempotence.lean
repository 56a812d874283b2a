import Docblock.Proofs.Acceptance
import Docblock.Proofs.Occurrence
import Docblock.Proofs.OpenTail
import Docblock.Proofs.Output

/-!
Conversion of what is already converted. Where the documentation marker holds the line comment, no
line that is written for a block opens one, and no copied line does; only an open tail that is
copied opens its block again, and again nothing closes it.
-/

namespace Docblock

open Text

theorem Fragment.quiet_render {markers : Markers} (commented : markers.lineComment <:+: markers.doc)
    {fragment : Fragment} {newline line : Text}
    (member : line ∈ fragment.render markers.doc newline) : markers.opens line = false := by
  obtain ⟨content, -, rfl⟩ := List.mem_map.mp member
  apply Markers.opens_eq_false_of_lineComment
  refine commented.trans ⟨List.replicate fragment.indent.toNat ' ', ' ' :: (content ++ newline), ?_⟩
  simp [lead]

theorem Markers.quiet_scan {config : Config}
    (commented : config.markers.lineComment <:+: config.markers.doc) (number width : Int)
    (lines : List Text) :
    ∀ line ∈ (config.markers.scan number width lines).written config,
      config.markers.opens line = false := by
  fun_induction Markers.scan config.markers number width lines with
  | case1 number width => exact fun _ member => absurd member List.not_mem_nil
  | case2 number width line rest opens unclosed =>
      exact fun _ member => absurd member List.not_mem_nil
  | case3 number width line rest opens last found width' induction =>
      intro written member
      rcases List.mem_append.mp member with inBlock | after
      · obtain ⟨fragment, -, rendered⟩ := List.mem_flatMap.mp inBlock
        exact Fragment.quiet_render commented rendered
      · exact induction written after
  | case4 number width line rest plain induction =>
      intro written member
      rcases List.mem_cons.mp member with rfl | after
      · simpa using plain
      · exact induction written after

theorem Markers.scan_quiet_append {markers : Markers} (number width : Int) {front : List Text}
    (quiet : ∀ line ∈ front, markers.opens line = false) (rest : List Text) :
    (markers.scan number width (front ++ rest)).pieces =
        front.map Piece.copied ++ (markers.scan (number + front.length) width rest).pieces ∧
      (markers.scan number width (front ++ rest)).tail =
        (markers.scan (number + front.length) width rest).tail := by
  induction front generalizing number with
  | nil => simp
  | cons line front induction =>
      have plain : markers.opens line = false := quiet line List.mem_cons_self
      have later := induction (number + 1) fun other member =>
        quiet other (List.mem_cons_of_mem line member)
      have position : number + 1 + (front.length : Int) =
          number + ((line :: front).length : Int) := by
        rw [List.length_cons]
        omega
      rw [position] at later
      rw [List.cons_append, Markers.scan, if_neg (by simp [plain])]
      exact ⟨by rw [Scan.cons, later.1]; rfl, later.2⟩

/-- The end of an output that was copied from an open tail: it is met again as an open tail. -/
structure Config.Kept (config : Config) (tail : List Text) : Prop where
  settled : lines tail.flatten = tail
  starts : tail.flatten.head? ≠ some '\n'
  pieces : ∀ number width, (config.markers.scan number width tail).pieces = []
  unclosed : ∀ number width,
    (config.markers.scan number width tail).tail = Line.numbered number tail
  flushed : tail = [] ∨ config.openTail = .flush

theorem Config.kept_nil (config : Config) : config.Kept [] where
  settled := rfl
  starts := by simp
  pieces number width := by rw [Markers.scan]
  unclosed number width := by
    rw [Markers.scan]
    rfl
  flushed := .inl rfl

theorem Markers.Filled.head?_ne_of_opens {markers : Markers} (filled : markers.Filled)
    (unbroken : Unbroken markers.opening) {line : Text} {rest : List Text}
    (lined : Lined (line :: rest)) (opens : markers.opens line = true) :
    (line :: rest).flatten.head? ≠ some '\n' := by
  have opening := (Markers.opens_iff.mp opens).1
  have lacks : '\n' ∉ markers.opening := fun member => absurd (unbroken _ member) (by decide)
  intro starts
  cases line with
  | nil => exact filled.opening (List.infix_nil.mp opening)
  | cons c line =>
      rw [lined.eq_lf_of_head? (by simpa using starts)] at opening
      exact filled.opening (List.infix_nil.mp (isInfix_of_concat lacks opening))

theorem Config.kept_drop {config : Config} (filled : config.markers.Filled)
    (unbroken : Unbroken config.markers.opening) (flush : config.openTail = .flush) {text : Text}
    {index : Nat} {line : Text} {rest : List Text} (suffix : (lines text).drop index = line :: rest)
    (opens : config.markers.opens line = true)
    (unclosed : ∀ later ∈ line :: rest, config.markers.closes later = false) :
    config.Kept (line :: rest) := by
  have lined : Lined (line :: rest) := suffix ▸ (lined_lines text).drop index
  have scan : ∀ number width, config.markers.scan number width (line :: rest) =
      { width, tail := Line.numbered number (line :: rest) } := by
    intro number width
    rw [Markers.scan, if_pos opens, List.findIdx?_eq_none_iff.mpr unclosed]
  refine ⟨?_, filled.head?_ne_of_opens unbroken lined opens, ?_, ?_, .inr flush⟩
  · rw [← suffix]
    exact lines_flatten_drop text index
  · intro number width
    rw [scan]
  · intro number width
    rw [scan]

theorem Config.kept_tailLines {config : Config} (filled : config.markers.Filled)
    (unbroken : Unbroken config.markers.opening) (text : Text) :
    config.Kept ((config.markers.scan 1 0 (lines text)).tailLines config.openTail) := by
  cases policy : config.openTail with
  | error => exact config.kept_nil
  | drop => exact config.kept_nil
  | flush =>
      rcases config.markers.scan_tail 1 0 (lines text) with
        closed | ⟨index, line, rest, suffix, opens, unclosed, tail⟩
      · rw [Scan.tailLines, closed]
        exact config.kept_nil
      · rw [Scan.tailLines, tail, Line.text_numbered]
        exact kept_drop filled unbroken policy suffix opens unclosed

theorem Scan.of_copied (config : Config) {scan : Scan} {front : List Text}
    (pieces : scan.pieces = front.map Piece.copied) :
    scan.written config = front ∧ scan.blocks = 0 ∧ scan.fragments config = [] := by
  rw [Scan.written, Scan.blocks, Scan.fragments, pieces]
  refine ⟨?_, ?_, ?_⟩
  · rw [List.flatMap_map]
    exact List.flatMap_singleton' front
  · rw [List.countP_map]
    exact List.countP_eq_zero.mpr fun _ _ => Bool.false_ne_true
  · rw [List.flatMap_map]
    exact List.flatMap_eq_nil_iff.mpr fun _ _ => rfl

theorem Config.Kept.convertLines {config : Config} {tail : List Text} (kept : config.Kept tail)
    {front : List Text} (quiet : ∀ line ∈ front, config.markers.opens line = false)
    (source : Option Path) :
    ∃ context,
      Docblock.convertLines config source (front ++ tail) = (context, none) ∧
      context.yield.lines = front ++ tail ∧
      context.stats.blocks = 0 ∧
      context.stats.fragments = [] := by
  have scan := Markers.scan_quiet_append 1 0 quiet tail
  rw [kept.pieces, kept.unclosed, List.append_nil] at scan
  obtain ⟨written, blocks, fragments⟩ := Scan.of_copied config scan.1
  have copied : (config.markers.scan 1 0 (front ++ tail)).tailLines config.openTail = tail := by
    rcases kept.flushed with rfl | flush
    · exact Scan.tailLines_of_closed scan.2 config.openTail
    · simp only [Scan.tailLines, flush, scan.2, Line.text_numbered]
  have success :
      (config.markers.scan 1 0 (front ++ tail)).unclosed source config.openTail = none := by
    rcases kept.flushed with rfl | flush
    · exact Scan.unclosed_of_closed scan.2 source config.openTail
    · simp only [Scan.unclosed, flush]
  refine ⟨(Docblock.convertLines config source (front ++ tail)).1, Prod.ext rfl ?_, ?_, ?_, ?_⟩
  · rw [unclosed_convertLines, success]
  · rw [lines_convertLines, written, copied]
  · rw [stats_convertLines]
    exact congrArg Nat.cast blocks
  · rw [stats_convertLines]
    simp only [fragments, List.map_nil, Stats.tally_nil]

/-- Converting the output of a conversion writes that output again: no block is read and no
fragment is emitted. -/
theorem convertText_idempotent (config : Config) (accepted : config.Accepted)
    (commented : config.markers.lineComment <:+: config.markers.doc)
    (opening : Unbroken config.markers.opening) (doc : Unbroken config.markers.doc)
    (tags : config.tags.Unbroken) (source again : Option Path) (text : Text) (context : Context)
    (converted : convertText config source text = (context, none)) :
    ∃ repeated,
      convertText config again context.text = (repeated, none) ∧
      repeated.text = context.text ∧
      repeated.stats.blocks = 0 ∧
      repeated.stats.fragments = [] := by
  have written : context.yield.lines =
      (config.markers.scan 1 0 (lines text)).written config ++
        (config.markers.scan 1 0 (lines text)).tailLines config.openTail := by
    rw [← lines_convertLines config source (lines text)]
    exact congrArg (fun result => result.1.yield.lines) converted.symm
  have kept := config.kept_tailLines accepted.filled opening text
  -- The output is a list of lines, though not always that of its text: a line in CR may meet an LF.
  have lined : Lined ((config.markers.scan 1 0 (lines text)).written config ++
      (config.markers.scan 1 0 (lines text)).tailLines config.openTail) := by
    have all := Markers.lined_scan doc tags 1 0 (lined_lines text)
    cases config.openTail with
    | flush => exact all
    | error => exact (List.append_nil _).symm ▸ all.left
    | drop => exact (List.append_nil _).symm ▸ all.left
  have lacks : '\n' ∉ config.markers.opening := fun member =>
    absurd (opening _ member) (by decide)
  obtain ⟨front, cut, quiet⟩ := lined.exists_lines_append
    (Markers.opens_eq_false_of_joined lacks) kept.settled kept.starts
    (Markers.quiet_scan commented 1 0 (lines text))
  rw [← written] at cut
  obtain ⟨repeated, success, output, blocks, fragments⟩ := kept.convertLines quiet again
  rw [← cut] at success output
  refine ⟨repeated, success, ?_, blocks, fragments⟩
  rw [Context.text, output]
  exact flatten_lines context.text

/-- A line in CR and fragments in CR that meet an LF, and an open tail that is copied. -/
theorem convertText_idempotent_open :
    let config : Config := { openTail := .flush, newline := some .cr }
    let text := "a\r\x7b@@ \x7d\n\n\x7b@@ Summary: s \x7d\n\n\x7b@@ open\n".toList
    let context := (convertText config none text).1
    config.Accepted ∧
    config.markers.lineComment <:+: config.markers.doc ∧
    Unbroken config.markers.opening ∧
    Unbroken config.markers.doc ∧
    config.tags.Unbroken ∧
    convertText config none text = (context, none) ∧
    context.text = "a\r\n/// <summary>\r/// s\r/// </summary>\r\n\x7b@@ open\n".toList ∧
    ∃ repeated,
      convertText config none context.text = (repeated, none) ∧
      repeated.text = context.text ∧
      repeated.stats.blocks = 0 ∧
      repeated.stats.fragments = [] := by
  intro config text context
  have accepted : config.Accepted :=
    ⟨1, .map [(.text "on_unterminated".toList, .text "flush".toList),
      (.text "newline".toList, .text ['\r'])], rfl⟩
  have commented : config.markers.lineComment <:+: config.markers.doc := ⟨[], ['/'], rfl⟩
  have opening : Unbroken config.markers.opening := by decide
  have doc : Unbroken config.markers.doc := by decide
  have tags : config.tags.Unbroken := ⟨by decide, by decide, by decide, by decide⟩
  have success : (convertText config none text).2 = none :=
    unclosed_convertLines config none (lines text)
  have converted : convertText config none text = (context, none) :=
    (Prod.eta _).symm.trans (congrArg (Prod.mk context) success)
  have output : context.text =
      "a\r\n/// <summary>\r/// s\r/// </summary>\r\n\x7b@@ open\n".toList := by
    decide +kernel
  refine ⟨accepted, commented, opening, doc, tags, converted, output, ?_⟩
  exact convertText_idempotent config accepted commented opening doc tags none none text context
    converted

end Docblock
