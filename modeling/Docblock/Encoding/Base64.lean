import Docblock.Encoding.Utf8

namespace Docblock.Base64

def digit? (c : Char) : Option Nat :=
  if c.isUpper then some (c.toNat - 'A'.toNat)
  else if c.isLower then some (c.toNat - 'a'.toNat + 26)
  else if c.isDigit then some (c.toNat - '0'.toNat + 52)
  else if c == '+' then some 62
  else if c == '/' then some 63
  else none

/-- The state of a reading: the bytes so far, last one first, the number of digits of the group of
four under way, the bits of its last digit that are still due, and the padding behind it. -/
structure Reading where
  bytes : Bytes := []
  count : Nat := 0
  due : Nat := 0
  padding : Nat := 0
deriving DecidableEq, Repr

namespace Reading

def feed (reading : Reading) (digit : Nat) : Reading :=
  match reading.count with
  | 0 => ⟨reading.bytes, 1, digit, 0⟩
  | 1 => ⟨UInt8.ofNat (reading.due * 4 + digit / 16) :: reading.bytes, 2, digit % 16, 0⟩
  | 2 => ⟨UInt8.ofNat (reading.due * 16 + digit / 4) :: reading.bytes, 3, digit % 4, 0⟩
  | _ => ⟨UInt8.ofNat (reading.due * 64 + digit) :: reading.bytes, 0, 0, 0⟩

def isPadded (reading : Reading) : Bool :=
  2 ≤ reading.count && 4 ≤ reading.count + reading.padding

def run (reading : Reading) : Text → Option Bytes
  | [] => if reading.count = 0 then some reading.bytes.reverse else none
  | '=' :: text =>
      let padded := { reading with padding := reading.padding + if 2 ≤ reading.count then 1 else 0 }
      if padded.isPadded then some reading.bytes.reverse else run padded text
  | c :: text =>
      match digit? c with
      | some digit => run (reading.feed digit) text
      | none => run reading text

end Reading

/-- The bytes of a text, unless its last group of digits is not complete. -/
def decode? (text : Text) : Option Bytes :=
  Reading.run {} text

end Docblock.Base64
