import Docblock.Text.Cased
import Docblock.Text.Letter

/-!
The lower-case form of a whole text. Two characters do not lower on their own: a capital sigma ends
a word in another shape than inside it, and the dotted capital i becomes two characters.
-/

namespace Docblock.Text

def nextIsCased (neighbours : Text) : Bool :=
  match neighbours.dropWhile isIgnorable with
  | [] => false
  | c :: _ => isCased c

/-- A sigma is final when a letter stands before it and none after it. -/
def finalSigma (before after : Text) : Bool :=
  nextIsCased before && !nextIsCased after

def lowerAt (before : Text) (c : Char) (after : Text) : Text :=
  if c = '\u0130' then ['i', '\u0307']
  else if c = '\u03A3' then
    if finalSigma before after then ['\u03C2'] else ['\u03C3']
  else [lowerChar c]

/-- The lower-case form of a text that follows `before`, which is given last character first. -/
def lowerAfter (before : Text) : Text → Text
  | [] => []
  | c :: cs => lowerAt before c cs ++ lowerAfter (c :: before) cs

def lower (text : Text) : Text :=
  lowerAfter [] text

@[simp] theorem lower_nil : lower [] = [] := rfl

end Docblock.Text
