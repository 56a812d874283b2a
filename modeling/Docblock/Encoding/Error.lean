import Docblock.Text.Quoted

namespace Docblock

inductive DecodeReason
  | startByte
  | continuationByte
  | endOfData
  | beyondAscii
  | truncated
  | lowSurrogate
  | highSurrogate
deriving DecidableEq, Repr

def DecodeReason.text : DecodeReason → Text
  | .startByte => "invalid start byte".toList
  | .continuationByte => "invalid continuation byte".toList
  | .endOfData => "unexpected end of data".toList
  | .beyondAscii => "ordinal not in range(128)".toList
  | .truncated => "truncated data".toList
  | .lowSurrogate => "illegal encoding".toList
  | .highSurrogate => "illegal UTF-16 surrogate".toList

/-- `count` bytes at position `start`, the first of which is `byte`, cannot be read. -/
structure DecodeError where
  codec : Text
  start : Nat
  count : Nat
  byte : UInt8
  reason : DecodeReason
deriving DecidableEq, Repr

/-- `count` characters at position `start`, the first of which is `char`, cannot be written: the
encoding ends at code point `limit`. -/
structure EncodeError where
  codec : Text
  start : Nat
  count : Nat
  char : Char
  limit : Nat
deriving DecidableEq, Repr

def codecText (codec : Text) : Text :=
  '\'' :: codec ++ "' codec can't ".toList

def spanText (start count : Nat) : Text :=
  " in position ".toList ++ Text.ofNat start ++
    (if count = 1 then [] else '-' :: Text.ofNat (start + count - 1)) ++ ": ".toList

def DecodeError.message (error : DecodeError) : Text :=
  codecText error.codec ++
    (if error.count = 1 then "decode byte 0x".toList ++ Text.hex 2 error.byte.toNat
      else "decode bytes".toList) ++
    spanText error.start error.count ++ error.reason.text

def EncodeError.message (error : EncodeError) : Text :=
  codecText error.codec ++
    (if error.count = 1 then "encode character '".toList ++ Text.escaped error.char ++ ['\'']
      else "encode characters".toList) ++
    spanText error.start error.count ++ "ordinal not in range(".toList ++
    Text.ofNat error.limit ++ [')']

def DecodeError.relativeTo (origin : Nat) (error : DecodeError) : DecodeError :=
  { error with start := error.start - origin }

end Docblock
