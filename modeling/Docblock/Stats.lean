import Docblock.Text.Basic

namespace Docblock

structure Stats where
  linesRead : Int := 0
  linesWritten : Int := 0
  blocks : Int := 0
  fragments : List (Text × Int) := []
  skippedReturns : Int := 0
  unterminated : Bool := false
deriving DecidableEq, Repr

namespace Stats

/-- How often each text occurs, in the order of first occurrences. -/
def tally : List Text → List (Text × Int)
  | [] => []
  | text :: texts =>
      (text, 1 + (texts.count text : Int)) :: (tally texts).filter (·.1 != text)

@[simp] theorem tally_nil : tally [] = [] := rfl

end Stats

end Docblock
