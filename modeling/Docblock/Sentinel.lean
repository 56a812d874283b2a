import Docblock.Text.Blank
import Docblock.Text.Letter

/-!
Sentinels: texts that start a section of a documentation block. A sentinel is looked up letter by
letter without regard to case, and is active on a line when it stands in front of every line-comment
marker.
-/

namespace Docblock

inductive SectionKind
  | outside
  | summary
  | parameters
  | returns
deriving DecidableEq, Repr

def SectionKind.name : SectionKind → Text
  | .outside => "none".toList
  | .summary => "summary".toList
  | .parameters => "parameters".toList
  | .returns => "returns".toList

structure Sentinel where
  kind : SectionKind
  text : Text
deriving DecidableEq, Repr

/-- The place of a sentinel on a line: `stop` is the position right after it. -/
structure Sentinel.Match where
  kind : SectionKind
  start : Nat
  stop : Nat
deriving DecidableEq, Repr

namespace Sentinel

/-- The first position of a sentinel on a line; an empty sentinel stands nowhere. -/
def occurrence? (sentinel line : Text) : Option Nat :=
  if sentinel.isEmpty then none
  else Text.find? (sentinel.map Text.fold) (line.map Text.fold)

/-- A line-comment marker stands at or before a position. -/
def shadowed (marker line : Text) (position : Nat) : Bool :=
  !marker.isEmpty &&
    match Text.find? marker line with
    | some start => start ≤ position
    | none => false

def position? (marker sentinel line : Text) : Option Nat :=
  (occurrence? sentinel line).filter fun position => !shadowed marker line position

def active (marker sentinel line : Text) : Bool :=
  (position? marker sentinel line).isSome

def match? (marker line : Text) (sentinel : Sentinel) : Option Match :=
  (position? marker sentinel.text line).map fun start =>
    ⟨sentinel.kind, start, start + sentinel.text.length⟩

/-- The match that starts first, and the first of the list among those. -/
def earliest : List Match → Option Match
  | [] => none
  | found :: others =>
      match earliest others with
      | none => some found
      | some other => if other.start < found.start then some other else some found

def find? (marker line : Text) (sentinels : List Sentinel) : Option Match :=
  earliest (sentinels.filterMap (match? marker line))

/-- The text after a position up to the next line comment, without blanks at its ends. -/
def remainderFrom (marker line : Text) (position : Int) : Text :=
  (Text.upTo marker (line.dropFrom position)).strip

def Match.remainder (marker line : Text) (found : Match) : Text :=
  remainderFrom marker line found.stop

@[simp] theorem earliest_nil : earliest [] = none := rfl

@[simp] theorem find?_nil (marker line : Text) : find? marker line [] = none := rfl

end Sentinel

end Docblock
