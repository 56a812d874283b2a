import Docblock.Line
import Docblock.Yield

namespace Docblock

namespace Markers

def opens (markers : Markers) (text : Text) : Bool :=
  text.holds markers.opening && !text.holds markers.lineComment

/-- A line closes a block when it ends with the closing delimiter, blanks apart, and does not start
as a line comment. -/
def closes (markers : Markers) (text : Text) : Bool :=
  text.strip.endsWith markers.closing && !text.strip.startsWith markers.lineComment

end Markers

structure Collector where
  inComment : Bool := false
  block : List Line := []
deriving DecidableEq, Repr

namespace Collector

inductive Event
  | pass
  | collect
  | close
deriving DecidableEq, Repr

def Event.name : Event → Text
  | .pass => "pass".toList
  | .collect => "collect".toList
  | .close => "close".toList

/-- The number of the first line of the block, 0 if there is none. -/
def openedAt (collector : Collector) : Int :=
  (collector.block.head?.map Line.number).getD 0

def clear (collector : Collector) : Collector :=
  { collector with block := [] }

def add (collector : Collector) (line : Line) : Collector :=
  { collector with block := collector.block ++ [line] }

def collect (markers : Markers) (collector : Collector) (line : Line) : Collector × Event × Yield :=
  let opening : Yield := if collector.inComment then ∅ else .note (.opened line.number)
  let block := collector.block ++ [line]
  if markers.closes line.text then
    (⟨false, block⟩, .close, opening ++ .note (.closed line.number block.length))
  else (⟨true, block⟩, .collect, opening)

def feed (markers : Markers) (collector : Collector) (line : Line) : Collector × Event × Yield :=
  if collector.inComment || markers.opens line.text then collect markers collector line
  else (collector, .pass, ∅)

@[simp] theorem openedAt_empty (inComment : Bool) : openedAt ⟨inComment, []⟩ = 0 := rfl

theorem feed_pass_iff {markers : Markers} {collector : Collector} {line : Line} :
    (collector.feed markers line).2.1 = .pass ↔
      collector.inComment = false ∧ markers.opens line.text = false := by
  cases collected : collector.inComment <;> cases opened : markers.opens line.text <;>
    simp [feed, collect, collected, opened] <;> split <;> simp

end Collector

end Docblock
