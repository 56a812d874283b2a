import Docblock.Text.Basic

namespace Docblock

/-- Code points. Unlike a text, they may hold surrogates, of which two stand for a character above
the first plane. -/
abbrev Codes := List Nat

namespace Codes

def isHigh (code : Nat) : Bool :=
  0xD800 ≤ code && code < 0xDC00

def isLow (code : Nat) : Bool :=
  0xDC00 ≤ code && code < 0xE000

def joinPair (high low : Nat) : Char :=
  Char.ofNat (0x10000 + (high - 0xD800) * 0x400 + (low - 0xDC00))

def ofText (text : Text) : Codes :=
  text.map Char.toNat

def char? (code : Nat) : Option Char :=
  if (Char.ofNat code).toNat = code then some (Char.ofNat code) else none

/-- The text of code points in which surrogates are joined; one that has no partner is replaced. -/
def joined : Codes → Text
  | [] => []
  | [code] => [(char? code).getD '\uFFFD']
  | first :: second :: codes =>
      if isHigh first && isLow second then joinPair first second :: joined codes
      else (char? first).getD '\uFFFD' :: joined (second :: codes)

end Codes

end Docblock
