import Docblock.Text.Blank

/-!
Lines of a text. A line keeps its line break, which is LF, CR LF or CR; only the last line of a text
may lack one.
-/

namespace Docblock

namespace Text

def isBreak (c : Char) : Bool :=
  c == '\n' || c == '\r'

def stripBreak (text : Text) : Text :=
  match text.reverse with
  | '\n' :: '\r' :: rest => rest.reverse
  | '\n' :: rest => rest.reverse
  | '\r' :: rest => rest.reverse
  | _ => text

/-- The lines of a text, of which the first goes on from `current`, given last character first. -/
def linesFrom (current : Text) : Text → List Text
  | [] => if current.isEmpty then [] else [current.reverse]
  | '\r' :: '\n' :: rest => ('\n' :: '\r' :: current).reverse :: linesFrom [] rest
  | c :: rest =>
      if isBreak c then (c :: current).reverse :: linesFrom [] rest
      else linesFrom (c :: current) rest

def lines (text : Text) : List Text :=
  linesFrom [] text

def leadingSpaces (text : Text) : Nat :=
  (text.takeWhile (· == ' ')).length

@[simp] theorem lines_nil : lines [] = [] := rfl

@[simp] theorem stripBreak_nil : stripBreak [] = [] := rfl

@[simp] theorem leadingSpaces_nil : leadingSpaces [] = 0 := rfl

@[simp] theorem leadingSpaces_space (text : Text) :
    leadingSpaces (' ' :: text) = leadingSpaces text + 1 := by
  simp [leadingSpaces]

end Text

structure Line where
  text : Text
  number : Int
deriving DecidableEq, Repr

namespace Line

def body (line : Line) : Text :=
  line.text.stripBreak

def trimmed (line : Line) : Text :=
  line.text.strip

def indent (line : Line) : Nat :=
  line.text.leadingSpaces

end Line

end Docblock
