import Docblock.Collector
import Docblock.Section
import Docblock.Stats

/-!
Conversion of lines. One pass over the lines collects blocks and copies all other lines; a block
that closes is read at once, at the indentation of the line that follows it. A conversion can be
taken up again with further lines: what a pass left open is still open for the next one.
-/

namespace Docblock

/-- What a pass carries from line to line. `indent` is the width found after the last block. -/
structure State where
  indent : Int := 0
  lineNumber : Int := 0
  collector : Collector := {}
  current : Section := .outside
  unterminated : Bool := false
deriving DecidableEq, Repr

/-- A block that was opened and never closed. -/
structure Unclosed where
  openedAt : Int
  source : Option Path
deriving DecidableEq, Repr

namespace State

/-- The width for a block that closes: that of the next line, or of the block before. -/
def widthBefore (state : State) : Option Text → Int
  | some next => next.leadingSpaces
  | none => state.indent

def closeBlock (config : Config) (next : Option Text) (state : State) : State × Yield :=
  let indent := state.widthBefore next
  let (current, yield) := Section.readBlock config indent state.collector.block
  ({ state with indent, current, collector := state.collector.clear },
    .note (.indentation state.collector.openedAt indent) ++ yield ++ { blocks := 1 })

def step (config : Config) (number : Int) (text : Text) (next : Option Text) (state : State) :
    State × Yield :=
  let (collector, event, yield) := state.collector.feed config.markers ⟨text, number⟩
  let state := { state with collector, lineNumber := number }
  match event with
  | .pass => (state, yield ++ { lines := [text] })
  | .collect => (state, yield)
  | .close =>
      let (closed, closing) := state.closeBlock config next
      (closed, yield ++ closing)

def feed (config : Config) (number : Int) : List Text → State → State × Yield
  | [], state => (state, ∅)
  | text :: texts, state =>
      let (next, yield) := state.step config number text texts.head?
      let (final, rest) := feed config (number + 1) texts next
      (final, yield ++ rest)

/-- The end of a pass. A block that is still open is an error, is copied, or is dropped; after an
error it stays open. -/
def finish (config : Config) (source : Option Path) (state : State) :
    State × Yield × Option Unclosed :=
  let openedAt := state.collector.openedAt
  if state.collector.block.isEmpty then (state, ∅, none)
  else
    match config.openTail with
    | .error => ({ state with unterminated := true }, ∅, some ⟨openedAt, source⟩)
    | .flush =>
        ({ state with unterminated := true, collector := {} },
          { lines := state.collector.block.map Line.text, log := [.tailCopied openedAt] }, none)
    | .drop =>
        ({ state with unterminated := true, collector := {} }, .note (.tailDropped openedAt), none)

def run (config : Config) (source : Option Path) (lines : List Text) (state : State) :
    State × Yield × Option Unclosed :=
  let (fed, yield) := state.feed config 1 lines
  let (final, tail, unclosed) := fed.finish config source
  (final, yield ++ tail, unclosed)

@[simp] theorem feed_nil (config : Config) (number : Int) (state : State) :
    state.feed config number [] = (state, ∅) := rfl

end State

structure Context where
  state : State := {}
  yield : Yield := ∅
deriving DecidableEq, Repr

namespace Context

def run (config : Config) (source : Option Path) (lines : List Text) (context : Context) :
    Context × Option Unclosed :=
  let (state, yield, unclosed) := context.state.run config source lines
  (⟨state, context.yield ++ yield⟩, unclosed)

def stats (context : Context) : Stats where
  linesRead := context.state.lineNumber
  linesWritten := context.yield.lines.length
  blocks := context.yield.blocks
  fragments := Stats.tally (context.yield.fragments.map Fragment.tag)
  skippedReturns := context.yield.skippedReturns
  unterminated := context.state.unterminated

end Context

def convertLines (config : Config) (source : Option Path) (lines : List Text) :
    Context × Option Unclosed :=
  Context.run config source lines {}

def convertText (config : Config) (source : Option Path) (text : Text) :
    Context × Option Unclosed :=
  convertLines config source text.lines

def Context.text (context : Context) : Text :=
  context.yield.lines.flatten

end Docblock
