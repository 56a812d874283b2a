import Docblock.Text.Basic

namespace Docblock.Yaml

structure Cursor where
  rest : Text
  index : Nat := 0
  line : Nat := 0
  column : Nat := 0
deriving DecidableEq, Repr

def isBreak (c : Char) : Bool :=
  c == '\n' || c == '\u0085' || c == '\u2028' || c == '\u2029'

def isGap : Option Char → Bool
  | none => true
  | some c => c == ' ' || c == '\t' || isBreak c

def isEnd : Option Char → Bool
  | none => true
  | some c => c == ' ' || isBreak c

def isForbidden (c : Char) : Bool :=
  let n := c.toNat
  (n < 0x20 && n != 0x09 && n != 0x0A && n != 0x0D) || (0x7F ≤ n && n < 0xA0 && n != 0x85) ||
    n == 0xFFFE || n == 0xFFFF

namespace Cursor

def peek (cursor : Cursor) : Option Char :=
  cursor.rest.head?

def peekAt (cursor : Cursor) (offset : Nat) : Option Char :=
  (cursor.rest.drop offset).head?

/-- Past one character. Columns count from the last LF, and a byte order mark takes none. -/
def next (cursor : Cursor) : Cursor :=
  match cursor.rest with
  | [] => cursor
  | c :: rest =>
      if c = '\n' then ⟨rest, cursor.index + 1, cursor.line + 1, 0⟩
      else
        ⟨rest, cursor.index + 1, cursor.line, cursor.column + (if c = '\uFEFF' then 0 else 1)⟩

def skip : Nat → Cursor → Cursor
  | 0, cursor => cursor
  | count + 1, cursor => skip count cursor.next

def span (accept : Char → Bool) (cursor : Cursor) : Text × Cursor :=
  let run := cursor.rest.takeWhile accept
  (run, cursor.skip run.length)

def skipWhile (accept : Char → Bool) (cursor : Cursor) : Cursor :=
  (cursor.span accept).2

def skipSpaces (cursor : Cursor) : Cursor :=
  cursor.skipWhile (· == ' ')

def skipComment (cursor : Cursor) : Cursor :=
  if cursor.peek == some '#' then cursor.skipWhile (!isBreak ·) else cursor

def atBreak (cursor : Cursor) : Bool :=
  cursor.peek.any isBreak

/-- The line break here, as it counts inside a scalar: a next-line character is a line feed. -/
def lineBreak (cursor : Cursor) : Text :=
  match cursor.peek with
  | some c => if isBreak c then [if c = '\u0085' then '\n' else c] else []
  | none => []

def atMarks (mark : Char) (cursor : Cursor) : Bool :=
  cursor.rest.take 3 == [mark, mark, mark] && isGap (cursor.peekAt 3)

def atDocumentMarks (cursor : Cursor) : Bool :=
  cursor.atMarks '-' || cursor.atMarks '.'

def atSeparator (mark : Char) (cursor : Cursor) : Bool :=
  cursor.column == 0 && cursor.atMarks mark

end Cursor

end Docblock.Yaml
