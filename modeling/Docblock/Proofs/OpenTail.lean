import Docblock.Proofs.Scan

namespace Docblock

theorem Section.readAll_openTail (config : Config) (policy : OpenTail) (indent : Int)
    (texts : List Text) (current : Section) :
    readAll { config with openTail := policy } indent texts current =
      readAll config indent texts current := by
  induction texts generalizing current with
  | nil => rfl
  | cons text texts induction =>
      have same : current.read { config with openTail := policy } indent texts.isEmpty text =
          current.read config indent texts.isEmpty text := rfl
      simp only [readAll, same, induction]

theorem Section.readBlock_openTail (config : Config) (policy : OpenTail) (indent : Int)
    (block : List Line) :
    readBlock { config with openTail := policy } indent block = readBlock config indent block :=
  readAll_openTail config policy indent _ _

theorem Scan.yield_openTail (config : Config) (policy : OpenTail) (scan : Scan) :
    scan.yield { config with openTail := policy } = scan.yield config := by
  have fragments : Piece.fragments { config with openTail := policy } = Piece.fragments config := by
    funext piece
    cases piece with
    | copied text => rfl
    | block width lines => simp only [Piece.fragments, Section.readBlock_openTail]
  have skipped : Piece.skipped { config with openTail := policy } = Piece.skipped config := by
    funext piece
    cases piece with
    | copied text => rfl
    | block width lines => simp only [Piece.skipped, Section.readBlock_openTail]
  have written : Piece.written { config with openTail := policy } = Piece.written config := by
    funext piece
    cases piece with
    | copied text => rfl
    | block width lines =>
        simp only [Piece.written, fragments]
        rfl
  simp only [Scan.yield, Scan.fragments, Scan.skipped, Scan.written, fragments, skipped, written]

theorem Markers.scan_tail (markers : Markers) (number width : Int) (lines : List Text) :
    (markers.scan number width lines).tail = [] ∨
      ∃ index line rest,
        lines.drop index = line :: rest ∧
        markers.opens line = true ∧
        (∀ later ∈ line :: rest, markers.closes later = false) ∧
        (markers.scan number width lines).tail =
          Line.numbered (number + index) (line :: rest) := by
  fun_induction Markers.scan markers number width lines with
  | case1 number width => exact .inl rfl
  | case2 number width line rest opens unclosed =>
      refine .inr ⟨0, line, rest, rfl, opens, List.findIdx?_eq_none_iff.mp unclosed, ?_⟩
      simp
  | case3 number width line rest opens last found width' induction =>
      rcases induction with closed | ⟨index, first, others, suffix, firstOpens, unclosed, tail⟩
      · exact .inl closed
      · refine .inr ⟨last + 1 + index, first, others, ?_, firstOpens, unclosed, ?_⟩
        · rw [← suffix, ← List.drop_drop, List.drop_succ_cons]
        · have position : number + (last : Int) + 1 + (index : Int) =
              number + ((last + 1 + index : Nat) : Int) := by omega
          rw [← position]
          exact tail
  | case4 number width line rest plain induction =>
      rcases induction with closed | ⟨index, first, others, suffix, firstOpens, unclosed, tail⟩
      · exact .inl closed
      · refine .inr ⟨index + 1, first, others, suffix, firstOpens, unclosed, ?_⟩
        have position : number + 1 + (index : Int) = number + ((index + 1 : Nat) : Int) := by omega
        rw [← position]
        exact tail

theorem convertLines_openTail (config : Config) (source : Option Path) (lines : List Text)
    (policy : OpenTail) :
    let scan := config.markers.scan 1 0 lines
    (convertLines { config with openTail := policy } source lines).2 =
        scan.unclosed source policy ∧
      (convertLines { config with openTail := policy } source lines).1.yield.lines =
        scan.written config ++ scan.tailLines policy ∧
      (convertLines { config with openTail := policy } source lines).1.stats =
        { linesRead := lines.length
          linesWritten := (scan.written config ++ scan.tailLines policy).length
          blocks := scan.blocks
          fragments := Stats.tally ((scan.fragments config).map Fragment.tag)
          skippedReturns := scan.skipped config
          unterminated := !scan.tail.isEmpty } := by
  intro scan
  have yield : scan.yield { config with openTail := policy } = scan.yield config :=
    Scan.yield_openTail config policy scan
  have written : scan.written { config with openTail := policy } = scan.written config :=
    congrArg Yield.lines yield
  have fragments : scan.fragments { config with openTail := policy } = scan.fragments config :=
    congrArg Yield.fragments yield
  have skipped : scan.skipped { config with openTail := policy } = scan.skipped config :=
    congrArg Yield.skippedReturns yield
  refine ⟨unclosed_convertLines _ source lines, ?_, ?_⟩
  · rw [lines_convertLines, ← written]
  · rw [stats_convertLines, ← written, ← fragments, ← skipped]

/-- Either no block is left open and all three choices give the same conversion, or there is a line
that opens a block that no line closes: then an error names that line, and what is copied differs
from what is dropped by the lines from there on. -/
theorem openTail_choices_agree (config : Config) (source : Option Path) (lines : List Text) :
    let run := fun policy => convertLines { config with openTail := policy } source lines
    (∃ output stats,
      stats.unterminated = false ∧
      ∀ policy,
        (run policy).2 = none ∧
        (run policy).1.yield.lines = output ∧
        (run policy).1.stats = stats) ∨
    ∃ (index : Nat) (line : Text),
      lines[index]? = some line ∧
      config.markers.opens line = true ∧
      (config.markers.scan 1 0 lines).tail = Line.numbered (index + 1) (lines.drop index) ∧
      (∀ later ∈ lines.drop index, config.markers.closes later = false) ∧
      (run .error).2 = some ⟨index + 1, source⟩ ∧
      (run .flush).2 = none ∧
      (run .drop).2 = none ∧
      (run .flush).1.stats.unterminated = true ∧
      (run .drop).1.stats.unterminated = true ∧
      (run .flush).1.yield.lines = (run .drop).1.yield.lines ++ lines.drop index ∧
      (run .flush).1.stats =
        { (run .drop).1.stats with
          linesWritten := (run .drop).1.stats.linesWritten + (lines.length - index) } := by
  intro run
  have same := convertLines_openTail config source lines
  rcases config.markers.scan_tail 1 0 lines with
    closed | ⟨index, line, rest, suffix, opens, unclosed, tail⟩
  · left
    have nothing := Scan.tailLines_of_closed closed
    refine ⟨(run .error).1.yield.lines, (run .error).1.stats, ?_, ?_⟩
    · rw [(same .error).2.2]
      simp [closed]
    · intro policy
      refine ⟨?_, ?_, ?_⟩
      · rw [(same policy).1, Scan.unclosed_of_closed closed]
      · rw [(same policy).2.1, (same .error).2.1, nothing policy, nothing .error]
      · rw [(same policy).2.2, (same .error).2.2, nothing policy, nothing .error]
  · right
    have start : lines[index]? = some line := by
      rw [← List.head?_drop, suffix, List.head?_cons]
    have position : (1 : Int) + index = index + 1 := by omega
    rw [position] at tail
    have error : (config.markers.scan 1 0 lines).unclosed source .error =
        some ⟨index + 1, source⟩ := by
      simp [Scan.unclosed, tail, Line.numbered]
    have flushed : (config.markers.scan 1 0 lines).tailLines .flush = lines.drop index := by
      simp [Scan.tailLines, tail, Line.text_numbered, suffix]
    have isOpen : (!(config.markers.scan 1 0 lines).tail.isEmpty) = true := by
      simp [tail, Line.numbered]
    refine ⟨index, line, start, opens, suffix ▸ tail, suffix ▸ unclosed, ?_, ?_, ?_, ?_, ?_, ?_, ?_⟩
    · rw [(same .error).1, error]
    · exact (same .flush).1
    · exact (same .drop).1
    · rw [(same .flush).2.2, isOpen]
    · rw [(same .drop).2.2, isOpen]
    · rw [(same .flush).2.1, (same .drop).2.1, flushed]
      simp [Scan.tailLines]
    · obtain ⟨bound, -⟩ := List.getElem?_eq_some_iff.mp start
      rw [(same .flush).2.2, (same .drop).2.2, flushed]
      simp only [Scan.tailLines, List.append_nil, List.length_append, List.length_drop,
        Stats.mk.injEq, true_and, and_true]
      omega

end Docblock
