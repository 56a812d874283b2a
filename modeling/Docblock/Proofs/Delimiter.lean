import Docblock.Proofs.Acceptance
import Docblock.Proofs.Lines
import Docblock.Proofs.Reachable

namespace Docblock

namespace Text

theorem eq_stripEnd_append (text : Text) :
    ∃ blanks, allBlank blanks = true ∧ text = stripEnd text ++ blanks := by
  refine ⟨(text.reverse.takeWhile isBlank).reverse, ?_, ?_⟩
  · rw [allBlank, List.all_reverse]
    exact List.all_takeWhile
  · rw [stripEnd, ← List.reverse_append, List.takeWhile_append_dropWhile, List.reverse_reverse]

theorem strip_suffix_stripEnd (text : Text) : strip text <:+ stripEnd text := by
  have parts : text.reverse = (stripStart text).reverse ++ (text.takeWhile isBlank).reverse := by
    rw [← List.reverse_append, stripStart, List.takeWhile_append_dropWhile]
  have stripped : strip text = ((stripStart text).reverse.dropWhile isBlank).reverse := rfl
  rw [stripped, stripEnd, parts, List.dropWhile_append]
  split
  · rename_i blank
    rw [List.isEmpty_iff.mp blank]
    exact List.nil_suffix
  · rw [List.reverse_append]
    exact List.suffix_append _ _

end Text

/-- A line with one delimiter at its end. In front of it, `head` may end in blanks that are not
read; nothing else of the line is lost. -/
structure Line.Delimited (closing head : Text) (line : Line) : Prop where
  filled : closing ≠ []
  trimmed : line.body.stripEnd = head ++ closing
  read : Section.beforeClosing closing line.body = head.stripEnd
  lossless : ∃ gap tail, Text.allBlank gap = true ∧ Text.allBlank tail = true ∧
    line.text = head.stripEnd ++ gap ++ closing ++ tail

theorem Markers.closing_suffix {markers : Markers} {line : Line}
    (closes : markers.closes line.text = true) : markers.closing <:+ line.body.stripEnd := by
  obtain ⟨ends, -⟩ := Bool.and_eq_true_iff.mp closes
  rw [Line.body, Text.stripEnd_stripBreak]
  exact (List.isSuffixOf_iff_suffix.mp ends).trans (Text.strip_suffix_stripEnd line.text)

theorem Section.beforeClosing_append {closing head body : Text}
    (trimmed : body.stripEnd = head ++ closing) : beforeClosing closing body = head.stripEnd := by
  have ends : Text.endsWith (head ++ closing) closing = true :=
    List.isSuffixOf_iff_suffix.mpr (List.suffix_append head closing)
  simp [beforeClosing, trimmed, ends]

theorem Markers.Filled.delimited {markers : Markers} (filled : markers.Filled) {line : Line}
    (closes : markers.closes line.text = true) :
    ∃ head, line.Delimited markers.closing head := by
  obtain ⟨head, trimmed⟩ := Markers.closing_suffix closes
  obtain ⟨gap, gapBlank, headParts⟩ := Text.eq_stripEnd_append head
  obtain ⟨tail, tailBlank, parts⟩ := Text.eq_stripEnd_append line.text
  refine ⟨head, filled.closing, trimmed.symm, Section.beforeClosing_append trimmed.symm,
    gap, tail, gapBlank, tailBlank, ?_⟩
  rw [← headParts, trimmed, Line.body, Text.stripEnd_stripBreak]
  exact parts

theorem Section.texts_concat (closing : Text) (front : List Line) (last : Line) :
    texts closing (front ++ [last]) =
      front.map Line.body ++ [beforeClosing closing last.body] := by
  induction front with
  | nil => rfl
  | cons line front induction =>
      rw [List.cons_append, texts, induction]
      · rfl
      · simp

/-- Of the last line of every block that a pass reads one closing delimiter is cut off, whatever
passes came before. -/
theorem Context.blocks_delimited (config : Config) (source : Option Path) (context : Context)
    (accepted : config.Accepted) (reachable : context.Reachable config source) (lines : List Text)
    (visit : Visit) (visited : visit ∈ context.state.visits config 1 lines)
    (closed : visit.event = .close) :
    ∃ front last head, visit.block = front ++ [last] ∧
      last.Delimited config.markers.closing head ∧
      ∀ indent, Section.readBlock config indent visit.block =
        Section.readAll config indent (front.map Line.body ++ [head.stripEnd]) .outside := by
  have whole := (reachable.sound.visits 1 lines visit visited).2 closed
  obtain ⟨front, last, block⟩ := (List.eq_nil_or_concat visit.block).resolve_left whole.nonempty
  rw [List.concat_eq_append] at block
  have closes : config.markers.closes last.text = true := by
    apply whole.closes
    rw [block, List.getLast?_concat]
    rfl
  obtain ⟨head, delimited⟩ := accepted.filled.delimited closes
  refine ⟨front, last, head, block, delimited, ?_⟩
  intro indent
  rw [Section.readBlock, block, Section.texts_concat, delimited.read]

/-- A delimiter that starts with a blank and stands twice at the end of a line, which closes a block
that an earlier pass has opened. -/
theorem Context.blocks_delimited_twice :
    let config : Config := { markers := { closing := " end".toList } }
    let context := (Context.run config none ["\x7b@@ Summary: s\n".toList] {}).1
    let lines := ["  t end end \t\r\n".toList]
    config.Accepted ∧ context.Reachable config none ∧
    ∃ visit ∈ context.state.visits config 1 lines, visit.event = .close ∧
      Section.texts config.markers.closing visit.block =
        ["\x7b@@ Summary: s".toList, "  t end".toList] ∧
      ∃ front last head, visit.block = front ++ [last] ∧
        last.Delimited config.markers.closing head ∧
        ∀ indent, Section.readBlock config indent visit.block =
          Section.readAll config indent (front.map Line.body ++ [head.stripEnd]) .outside := by
  intro config context lines
  have accepted : config.Accepted :=
    ⟨1, .map [(.text "markers".toList, .map [(.text "close".toList, .text " end".toList)])], rfl⟩
  have reachable : context.Reachable config none := .run _ .fresh
  let visit := context.state.visit config 1 "  t end end \t\r\n".toList none
  have visited : visit ∈ context.state.visits config 1 lines := List.mem_cons_self
  have closed : visit.event = .close := by decide +kernel
  refine ⟨accepted, reachable, visit, visited, closed, by decide +kernel, ?_⟩
  exact blocks_delimited config none context accepted reachable lines visit visited closed

end Docblock
