import Docblock.Proofs.Segment

/-!
The decomposition of a source into pieces. Outside a block a line is copied unless it opens a block;
a block goes on to the first line that closes it, and a block that is never closed is the open tail
of the source.
-/

namespace Docblock

def Line.numbered (number : Int) : List Text → List Line
  | [] => []
  | text :: texts => ⟨text, number⟩ :: numbered (number + 1) texts

theorem Line.text_numbered (number : Int) (texts : List Text) :
    (Line.numbered number texts).map Line.text = texts := by
  induction texts generalizing number with
  | nil => rfl
  | cons text texts induction => simp [numbered, induction]

theorem Line.length_numbered (number : Int) (texts : List Text) :
    (Line.numbered number texts).length = texts.length := by
  rw [← List.length_map Line.text, text_numbered]

/-- A line that is copied, or a block with the width that its fragments are indented by. -/
inductive Piece
  | copied (text : Text)
  | block (width : Int) (lines : List Line)
deriving DecidableEq, Repr

/-- The pieces of a source, the width after the last block, and the lines of a block that is never
closed. -/
structure Scan where
  pieces : List Piece := []
  width : Int
  tail : List Line := []
deriving DecidableEq, Repr

namespace Piece

def fragments (config : Config) : Piece → List Fragment
  | .copied _ => []
  | .block width lines => (Section.readBlock config width lines).2.fragments

def written (config : Config) : Piece → List Text
  | .copied text => [text]
  | .block width lines =>
      (fragments config (.block width lines)).flatMap
        (Fragment.render config.markers.doc config.lineSeparator)

def isBlock : Piece → Bool
  | .copied _ => false
  | .block _ _ => true

def skipped (config : Config) : Piece → Nat
  | .copied _ => 0
  | .block width lines => (Section.readBlock config width lines).2.skippedReturns

end Piece

namespace Scan

def cons (piece : Piece) (scan : Scan) : Scan :=
  { scan with pieces := piece :: scan.pieces }

def written (config : Config) (scan : Scan) : List Text :=
  scan.pieces.flatMap (Piece.written config)

def fragments (config : Config) (scan : Scan) : List Fragment :=
  scan.pieces.flatMap (Piece.fragments config)

def blocks (scan : Scan) : Nat :=
  scan.pieces.countP Piece.isBlock

def skipped (config : Config) (scan : Scan) : Nat :=
  scan.pieces.foldr (fun piece total => piece.skipped config + total) 0

end Scan

/-- The width for a block: that of the line after it, or of the block before if there is none. -/
def widthAfter (width : Int) (rest : List Text) : Int :=
  (rest.head?.map fun next => (next.leadingSpaces : Int)).getD width

/-- The scan of a source from line `number` on, where `width` is that of the block before. -/
def Markers.scan (markers : Markers) (number width : Int) : List Text → Scan
  | [] => { width }
  | line :: rest =>
      if markers.opens line then
        match (line :: rest).findIdx? markers.closes with
        | none => { width, tail := Line.numbered number (line :: rest) }
        | some last =>
            let width := widthAfter width (rest.drop last)
            (markers.scan (number + last + 1) width (rest.drop last)).cons
              (.block width (Line.numbered number ((line :: rest).take (last + 1))))
      else (markers.scan (number + 1) width rest).cons (.copied line)
termination_by lines => lines.length

namespace State

variable (config : Config) (number : Int) (text : Text) (next : Option Text) (state : State)

def collected : State :=
  { state with
    collector := ⟨true, state.collector.block ++ [⟨text, number⟩]⟩
    lineNumber := number }

def ended : State :=
  { state with
    collector := ⟨false, state.collector.block ++ [⟨text, number⟩]⟩
    lineNumber := number }

theorem step_copied (idle : state.collector.inComment = false)
    (plain : config.markers.opens text = false) :
    state.step config number text next =
      ({ state with lineNumber := number }, { lines := [text] }) := by
  simp [step, Collector.feed, idle, plain]

def opening : Yield :=
  if state.collector.inComment then ∅ else .note (.opened number)

theorem silent_opening : (state.opening number).silent = ∅ := by
  unfold opening
  split <;> rfl

theorem step_collected_eq
    (inside : (state.collector.inComment || config.markers.opens text) = true)
    (goesOn : config.markers.closes text = false) :
    state.step config number text next = (state.collected number text, state.opening number) := by
  simp only [step, Collector.feed, inside, if_true, Collector.collect, goesOn, Bool.false_eq_true,
    if_false]
  rfl

theorem step_closed_eq
    (inside : (state.collector.inComment || config.markers.opens text) = true)
    (closes : config.markers.closes text = true) :
    state.step config number text next =
      (((state.ended number text).closeBlock config next).1,
        state.opening number ++
          .note (.closed number (state.ended number text).collector.block.length) ++
          ((state.ended number text).closeBlock config next).2) := by
  simp only [step, Collector.feed, inside, if_true, Collector.collect, closes]
  rfl

theorem step_collected
    (inside : (state.collector.inComment || config.markers.opens text) = true)
    (goesOn : config.markers.closes text = false) :
    (state.step config number text next).1 = state.collected number text ∧
      (state.step config number text next).2.silent = ∅ := by
  rw [step_collected_eq config number text next state inside goesOn]
  exact ⟨rfl, silent_opening number state⟩

theorem step_closed
    (inside : (state.collector.inComment || config.markers.opens text) = true)
    (closes : config.markers.closes text = true) :
    (state.step config number text next).1 =
        ((state.ended number text).closeBlock config next).1 ∧
      (state.step config number text next).2.silent =
        ((state.ended number text).closeBlock config next).2.silent := by
  rw [step_closed_eq config number text next state inside closes]
  simp [silent_opening]

end State

namespace State

theorem feed_cons (config : Config) (number : Int) (text : Text) (texts : List Text)
    (state : State) :
    state.feed config number (text :: texts) =
      (((state.step config number text texts.head?).1.feed config (number + 1) texts).1,
        (state.step config number text texts.head?).2 ++
          ((state.step config number text texts.head?).1.feed config (number + 1) texts).2) := rfl

theorem silent_feed_cons (config : Config) (number : Int) (text : Text) (texts : List Text)
    (state : State) :
    (state.feed config number (text :: texts)).2.silent =
      (state.step config number text texts.head?).2.silent ++
        ((state.step config number text texts.head?).1.feed config (number + 1) texts).2.silent :=
  rfl

theorem feed_open (config : Config) (number : Int) (text : Text) (texts : List Text)
    (state : State) (inside : (state.collector.inComment || config.markers.opens text) = true)
    (goesOn : ∀ line ∈ text :: texts, config.markers.closes line = false) :
    (state.feed config number (text :: texts)).1.collector =
        ⟨true, state.collector.block ++ Line.numbered number (text :: texts)⟩ ∧
      (state.feed config number (text :: texts)).1.indent = state.indent ∧
      (state.feed config number (text :: texts)).1.unterminated = state.unterminated ∧
      (state.feed config number (text :: texts)).2 = state.opening number := by
  induction texts generalizing number text state with
  | nil =>
      have first := step_collected_eq config number text none state inside
        (goesOn text List.mem_cons_self)
      rw [feed_cons, List.head?_nil, first]
      exact ⟨rfl, rfl, rfl, Yield.append_empty _⟩
  | cons second texts induction =>
      have first := step_collected_eq config number text (some second) state inside
        (goesOn text List.mem_cons_self)
      have fed := induction (number + 1) second (state.collected number text) rfl
        fun line member => goesOn line (List.mem_cons_of_mem text member)
      rw [feed_cons, List.head?_cons, first]
      refine ⟨?_, fed.2.1, fed.2.2.1, ?_⟩
      · rw [fed.1]
        simp [collected, Line.numbered]
      · rw [fed.2.2.2]
        exact Yield.append_empty _

theorem feed_closing (config : Config) (number : Int) (text : Text) (texts : List Text)
    (state : State) (inside : (state.collector.inComment || config.markers.opens text) = true)
    (closes : config.markers.closes text = true) :
    (state.feed config number (text :: texts)).1 =
        (((state.ended number text).closeBlock config texts.head?).1.feed config (number + 1)
          texts).1 ∧
      (state.feed config number (text :: texts)).2 =
        state.opening number ++
          .note (.closed number (state.ended number text).collector.block.length) ++
          ((state.ended number text).closeBlock config texts.head?).2 ++
          (((state.ended number text).closeBlock config texts.head?).1.feed config (number + 1)
            texts).2 := by
  rw [feed_cons, step_closed_eq config number text texts.head? state inside closes]
  exact ⟨rfl, rfl⟩

theorem feed_block (config : Config) (number : Int) (text : Text) (texts : List Text) (last : Nat)
    (state : State) (inside : (state.collector.inComment || config.markers.opens text) = true)
    (found : (text :: texts).findIdx? config.markers.closes = some last) :
    ∃ full : State,
      full.collector = ⟨false,
        state.collector.block ++ Line.numbered number ((text :: texts).take (last + 1))⟩ ∧
      full.indent = state.indent ∧
      full.unterminated = state.unterminated ∧
      (state.feed config number (text :: texts)).1 =
        ((full.closeBlock config (texts.drop last).head?).1.feed config (number + last + 1)
          (texts.drop last)).1 ∧
      (state.feed config number (text :: texts)).2 =
        state.opening number ++ .note (.closed (number + last) full.collector.block.length) ++
          (full.closeBlock config (texts.drop last).head?).2 ++
          ((full.closeBlock config (texts.drop last).head?).1.feed config (number + last + 1)
            (texts.drop last)).2 := by
  induction texts generalizing number text last state with
  | nil =>
      cases closes : config.markers.closes text with
      | true =>
          obtain rfl : last = 0 := by simpa [closes] using found.symm
          have closed := feed_closing config number text [] state inside closes
          exact ⟨state.ended number text, rfl, rfl, rfl, by simpa using closed⟩
      | false => simp [closes] at found
  | cons second texts induction =>
      cases closes : config.markers.closes text with
      | true =>
          obtain rfl : last = 0 := by simpa [List.findIdx?_cons, closes] using found.symm
          have closed := feed_closing config number text (second :: texts) state inside closes
          exact ⟨state.ended number text, rfl, rfl, rfl, by simpa using closed⟩
      | false =>
          rw [List.findIdx?_cons, closes, if_neg Bool.false_ne_true] at found
          obtain ⟨before, foundBefore, rfl⟩ := Option.map_eq_some_iff.mp found
          have first := step_collected_eq config number text (some second) state inside closes
          obtain ⟨full, collector, indent, unterminated, final, yield⟩ :=
            induction (number + 1) second before (state.collected number text) rfl foundBefore
          have position : number + 1 + (before : Int) = number + ((before + 1 : Nat) : Int) := by
            omega
          -- The lines behind the first one find the block open, and add no record of its opening.
          have open' : (state.collected number text).opening (number + 1) = ∅ := rfl
          rw [position] at final yield
          rw [open', Yield.empty_append] at yield
          refine ⟨full, ?_, indent, unterminated, ?_, ?_⟩
          · rw [collector]
            simp [collected, Line.numbered]
          · rw [feed_cons, List.head?_cons, first, final]
            rfl
          · rw [feed_cons, List.head?_cons, first, yield, ← Yield.append_assoc,
              ← Yield.append_assoc]
            rfl

end State

theorem Section.lines_readBlock (config : Config) (indent : Int) (block : List Line) :
    (readBlock config indent block).2.lines =
      (readBlock config indent block).2.fragments.flatMap
        (Fragment.render config.markers.doc config.lineSeparator) := by
  rw [fragments_readBlock]
  exact congrArg Yield.lines (silent_readBlock config indent block)

namespace Scan

def yield (config : Config) (scan : Scan) : Yield where
  lines := scan.written config
  fragments := scan.fragments config
  blocks := scan.blocks
  skippedReturns := scan.skipped config

theorem yield_copied (config : Config) (text : Text) (scan : Scan) :
    (scan.cons (.copied text)).yield config = { lines := [text] } ++ scan.yield config := by
  ext1 <;> simp [yield, cons, written, fragments, blocks, skipped, Piece.written, Piece.fragments,
    Piece.isBlock, Piece.skipped]

theorem yield_block (config : Config) (width : Int) (lines : List Line) (scan : Scan) :
    (scan.cons (.block width lines)).yield config =
      (Section.readBlock config width lines).2.silent ++ { blocks := 1 } ++ scan.yield config := by
  have none : (Section.readBlock config width lines).2.blocks = 0 :=
    congrArg Yield.blocks (Section.silent_readBlock config width lines)
  ext1 <;> simp [yield, cons, written, fragments, blocks, skipped, Piece.written, Piece.fragments,
    Piece.isBlock, Piece.skipped, Yield.silent, Section.lines_readBlock, none, List.countP_cons,
    Nat.add_comm]

/-- A pass that ends where a scan ends and yields what the scan yields. -/
structure Follows (config : Config) (scan : Scan) (state : State) (result : State × Yield) :
    Prop where
  collector : result.1.collector = ⟨!scan.tail.isEmpty, scan.tail⟩
  indent : result.1.indent = scan.width
  unterminated : result.1.unterminated = state.unterminated
  yield : result.2.silent = scan.yield config

end Scan

theorem State.widthBefore_head? (state : State) (rest : List Text) :
    state.widthBefore rest.head? = widthAfter state.indent rest := by
  cases rest <;> rfl

/-- A pass that starts outside a block follows the scan of its lines. -/
theorem State.feed_follows (config : Config) (number : Int) (lines : List Text) (state : State)
    (idle : state.collector = {}) :
    (config.markers.scan number state.indent lines).Follows config state
      (state.feed config number lines) := by
  generalize start : state.indent = width
  fun_induction Markers.scan config.markers number width lines generalizing state with
  | case1 number width => exact ⟨by simp [idle], start, rfl, rfl⟩
  | case2 number width line rest opens unclosed =>
      have goesOn := List.findIdx?_eq_none_iff.mp unclosed
      have fed := feed_open config number line rest state (by simp [opens]) goesOn
      refine ⟨?_, ?_, ?_, ?_⟩
      · rw [fed.1, idle]
        rfl
      · rw [fed.2.1, start]
      · exact fed.2.2.1
      · rw [fed.2.2.2]
        exact silent_opening number state
  | case3 number width line rest opens last found width' induction =>
      obtain ⟨full, collector, indent, unterminated, final, yield⟩ :=
        feed_block config number line rest last state (by simp [opens]) found
      -- The state at the closing line holds the block that the scan cuts out, and the line ahead of
      -- it gives the same width.
      have width : full.widthBefore (rest.drop last).head? = width' := by
        rw [widthBefore_head?, indent, start]
      have block : full.collector.block =
          Line.numbered number ((line :: rest).take (last + 1)) := by
        rw [collector, idle]
        rfl
      have fed := induction (full.closeBlock config (rest.drop last).head?).1
        (by simp [closeBlock, collector, Collector.clear]) width
      refine ⟨?_, ?_, ?_, ?_⟩
      · rw [final]
        exact fed.collector
      · rw [final]
        exact fed.indent
      · rw [final]
        exact fed.unterminated.trans unterminated
      · rw [yield, Yield.silent_append, Yield.silent_append, Yield.silent_append, silent_opening,
          Yield.silent_note, fed.yield, Scan.yield_block, silent_closeBlock, width, block,
          ← Section.silent_readBlock, Yield.empty_append, Yield.empty_append]
  | case4 number width line rest plain induction =>
      have step := step_copied config number line rest.head? state (by simp [idle])
        (by simpa using plain)
      have fed := induction { state with lineNumber := number } idle start
      refine ⟨?_, ?_, ?_, ?_⟩
      · rw [feed_cons, step]
        exact fed.collector
      · rw [feed_cons, step]
        exact fed.indent
      · rw [feed_cons, step]
        exact fed.unterminated
      · rw [silent_feed_cons, step, Scan.yield_copied, fed.yield]
        rfl

namespace Scan

def tailLines (scan : Scan) : OpenTail → List Text
  | .flush => scan.tail.map Line.text
  | .error => []
  | .drop => []

def unclosed (source : Option Path) (scan : Scan) : OpenTail → Option Unclosed
  | .error => scan.tail.head?.map fun line => ⟨line.number, source⟩
  | .flush => none
  | .drop => none

theorem tailLines_of_closed {scan : Scan} (closed : scan.tail = []) (policy : OpenTail) :
    scan.tailLines policy = [] := by
  cases policy with
  | error => rfl
  | flush => rw [tailLines, closed, List.map_nil]
  | drop => rfl

theorem unclosed_of_closed {scan : Scan} (closed : scan.tail = []) (source : Option Path)
    (policy : OpenTail) : scan.unclosed source policy = none := by
  cases policy with
  | error => rw [unclosed, closed, List.head?_nil, Option.map_none]
  | flush => rfl
  | drop => rfl

end Scan

namespace State

theorem finish_of_collector (config : Config) (source : Option Path) (scan : Scan) (state : State)
    (collector : state.collector = ⟨!scan.tail.isEmpty, scan.tail⟩) :
    (state.finish config source).1.unterminated = (state.unterminated || !scan.tail.isEmpty) ∧
      (state.finish config source).1.lineNumber = state.lineNumber ∧
      (state.finish config source).2.1.silent = { lines := scan.tailLines config.openTail } ∧
      (state.finish config source).2.2 = scan.unclosed source config.openTail := by
  cases tail : scan.tail with
  | nil =>
      rw [Scan.tailLines_of_closed tail, Scan.unclosed_of_closed tail]
      simp only [finish, collector, tail, List.isEmpty_nil, if_true, Bool.not_true, Bool.or_false,
        Yield.silent_empty, true_and, and_true]
      rfl
  | cons line rest =>
      simp only [finish, collector, tail, Scan.tailLines, Scan.unclosed, List.isEmpty_cons,
        Bool.false_eq_true, if_false, Bool.not_false, Bool.or_true]
      cases config.openTail with
      | error => exact ⟨rfl, rfl, rfl, rfl⟩
      | flush => exact ⟨rfl, rfl, rfl, rfl⟩
      | drop => exact ⟨rfl, rfl, rfl, rfl⟩

theorem lineNumber_step (config : Config) (number : Int) (text : Text) (next : Option Text)
    (state : State) : (state.step config number text next).1.lineNumber = number := by
  simp only [step]
  split <;> rfl

theorem lineNumber_feed (config : Config) (number : Int) (lines : List Text) (state : State)
    (before : state.lineNumber + 1 = number) :
    (state.feed config number lines).1.lineNumber + 1 = number + lines.length := by
  induction lines generalizing number state with
  | nil => simpa using before
  | cons text texts induction =>
      have rest := induction (number + 1) (state.step config number text texts.head?).1
        (by rw [lineNumber_step])
      rw [feed_cons, rest, List.length_cons]
      omega

end State

/-- A fresh conversion yields what the scan of its lines yields, and the open tail as the
configuration wants it. -/
theorem silent_convertLines (config : Config) (source : Option Path) (lines : List Text) :
    (convertLines config source lines).1.yield.silent =
      (config.markers.scan 1 0 lines).yield config ++
        { lines := (config.markers.scan 1 0 lines).tailLines config.openTail } := by
  have follows := State.feed_follows config 1 lines {} rfl
  have finished := State.finish_of_collector config source _ _ follows.collector
  calc (convertLines config source lines).1.yield.silent
      = (State.feed config 1 lines {}).2.silent ++
          ((State.feed config 1 lines {}).1.finish config source).2.1.silent := by
        simp [convertLines, Context.run, State.run]
    _ = _ := by rw [follows.yield, finished.2.2.1]

theorem unclosed_convertLines (config : Config) (source : Option Path) (lines : List Text) :
    (convertLines config source lines).2 =
      (config.markers.scan 1 0 lines).unclosed source config.openTail := by
  have follows := State.feed_follows config 1 lines {} rfl
  exact (State.finish_of_collector config source _ _ follows.collector).2.2.2

theorem unterminated_convertLines (config : Config) (source : Option Path) (lines : List Text) :
    (convertLines config source lines).1.state.unterminated =
      !(config.markers.scan 1 0 lines).tail.isEmpty := by
  have follows := State.feed_follows config 1 lines {} rfl
  have finished := State.finish_of_collector config source _ _ follows.collector
  exact finished.1.trans (by rw [follows.unterminated, Bool.false_or])

theorem lineNumber_convertLines (config : Config) (source : Option Path) (lines : List Text) :
    (convertLines config source lines).1.state.lineNumber = lines.length := by
  have follows := State.feed_follows config 1 lines {} rfl
  have finished := State.finish_of_collector config source _ _ follows.collector
  have counted := State.lineNumber_feed config 1 lines {} rfl
  have same : (convertLines config source lines).1.state.lineNumber =
      (State.feed config 1 lines {}).1.lineNumber := finished.2.1
  omega

theorem lines_convertLines (config : Config) (source : Option Path) (lines : List Text) :
    (convertLines config source lines).1.yield.lines =
      (config.markers.scan 1 0 lines).written config ++
        (config.markers.scan 1 0 lines).tailLines config.openTail :=
  congrArg Yield.lines (silent_convertLines config source lines)

theorem fragments_convertLines (config : Config) (source : Option Path) (lines : List Text) :
    (convertLines config source lines).1.yield.fragments =
      (config.markers.scan 1 0 lines).fragments config :=
  (congrArg Yield.fragments (silent_convertLines config source lines)).trans (List.append_nil _)

theorem blocks_convertLines (config : Config) (source : Option Path) (lines : List Text) :
    (convertLines config source lines).1.yield.blocks = (config.markers.scan 1 0 lines).blocks :=
  congrArg Yield.blocks (silent_convertLines config source lines)

theorem skippedReturns_convertLines (config : Config) (source : Option Path) (lines : List Text) :
    (convertLines config source lines).1.yield.skippedReturns =
      (config.markers.scan 1 0 lines).skipped config :=
  congrArg Yield.skippedReturns (silent_convertLines config source lines)

theorem stats_convertLines (config : Config) (source : Option Path) (lines : List Text) :
    (convertLines config source lines).1.stats =
      let scan := config.markers.scan 1 0 lines
      { linesRead := lines.length
        linesWritten := (scan.written config ++ scan.tailLines config.openTail).length
        blocks := scan.blocks
        fragments := Stats.tally ((scan.fragments config).map Fragment.tag)
        skippedReturns := scan.skipped config
        unterminated := !scan.tail.isEmpty } := by
  simp only [Context.stats, lines_convertLines, fragments_convertLines, blocks_convertLines,
    skippedReturns_convertLines, lineNumber_convertLines, unterminated_convertLines]

/-- Where no block is left open, a conversion succeeds, and it writes the contributions of the
pieces of its source one after another. -/
theorem convertLines_writes_scan (config : Config) (source : Option Path) (lines : List Text)
    (closed : (config.markers.scan 1 0 lines).tail = []) :
    ∃ context,
      convertLines config source lines = (context, none) ∧
      context.yield.lines =
        (config.markers.scan 1 0 lines).pieces.flatMap (Piece.written config) ∧
      context.stats.blocks = (config.markers.scan 1 0 lines).pieces.countP Piece.isBlock ∧
      context.stats.unterminated = false := by
  have success : (convertLines config source lines).2 = none := by
    rw [unclosed_convertLines, Scan.unclosed_of_closed closed]
  refine ⟨(convertLines config source lines).1, Prod.ext rfl success, ?_, ?_, ?_⟩
  · rw [lines_convertLines, Scan.tailLines_of_closed closed, List.append_nil]
    rfl
  · rw [stats_convertLines]
    rfl
  · rw [stats_convertLines]
    simp [closed]

/-- Two blocks without a line between them, of which the first is a single line, and a third at the
end of the source, which has the width of the second. -/
theorem convertLines_writes_scan_adjacent :
    let lines := ["\x7b@@ Summary: a \x7d\n".toList, "\x7b@@\n".toList, " Returns: b\n".toList,
      "\x7d\n".toList, "  c\n".toList, "\x7b@@ Summary: d \x7d".toList]
    ((({} : Config).markers).scan 1 0 lines).tail = [] ∧
    ∃ context,
      convertLines {} none lines = (context, none) ∧
      context.yield.lines =
        ((({} : Config).markers).scan 1 0 lines).pieces.flatMap (Piece.written {}) ∧
      context.stats.blocks =
        ((({} : Config).markers).scan 1 0 lines).pieces.countP Piece.isBlock ∧
      context.stats.unterminated = false :=
  ⟨by decide +kernel, convertLines_writes_scan {} none _ (by decide +kernel)⟩

end Docblock
