import Docblock.Encoding.Error

/-!
UTF-8, read byte by byte. A lead byte fixes the ranges of the bytes that must follow it, so that a
byte is refused as soon as no character can begin with what has been read.
-/

namespace Docblock

abbrev Bytes := List UInt8

namespace Utf8

structure Span where
  low : UInt8
  high : UInt8
deriving DecidableEq, Repr

def Span.has (span : Span) (byte : UInt8) : Bool :=
  span.low ≤ byte && byte ≤ span.high

def anyFollower : Span :=
  ⟨0x80, 0xBF⟩

/-- The bits of a lead byte and the spans of the bytes after it. -/
def lead? (byte : UInt8) : Option (Nat × List Span) :=
  let n := byte.toNat
  if n < 0x80 then some (n, [])
  else if n < 0xC2 then none
  else if n < 0xE0 then some (n - 0xC0, [anyFollower])
  else if n = 0xE0 then some (0, [⟨0xA0, 0xBF⟩, anyFollower])
  else if n = 0xED then some (0xD, [⟨0x80, 0x9F⟩, anyFollower])
  else if n < 0xF0 then some (n - 0xE0, [anyFollower, anyFollower])
  else if n = 0xF0 then some (0, [⟨0x90, 0xBF⟩, anyFollower, anyFollower])
  else if n < 0xF4 then some (n - 0xF0, [anyFollower, anyFollower, anyFollower])
  else if n = 0xF4 then some (4, [⟨0x80, 0x8F⟩, anyFollower, anyFollower])
  else none

structure Started where
  lead : UInt8
  count : Nat
  bits : Nat
  due : List Span
deriving DecidableEq, Repr

def codec : Text :=
  "utf-8".toList

/-- Reads bytes from position `start`, where the character under way begins. What has been read
before is given last character first. -/
def decodeFrom (start : Nat) (done : Text) : Option Started → Bytes → Except DecodeError Text
  | none, [] => .ok done.reverse
  | some started, [] => .error ⟨codec, start, started.count, started.lead, .endOfData⟩
  | none, byte :: bytes =>
      match lead? byte with
      | none => .error ⟨codec, start, 1, byte, .startByte⟩
      | some (bits, []) => decodeFrom (start + 1) (Char.ofNat bits :: done) none bytes
      | some (bits, due) => decodeFrom start done (some ⟨byte, 1, bits, due⟩) bytes
  | some started, byte :: bytes =>
      match started.due with
      | [] => .error ⟨codec, start, started.count, started.lead, .continuationByte⟩
      | span :: due =>
          if span.has byte then
            let bits := started.bits * 64 + (byte.toNat - 0x80)
            let count := started.count + 1
            if due.isEmpty then decodeFrom (start + count) (Char.ofNat bits :: done) none bytes
            else decodeFrom start done (some ⟨started.lead, count, bits, due⟩) bytes
          else .error ⟨codec, start, started.count, started.lead, .continuationByte⟩

def decode (bytes : Bytes) : Except DecodeError Text :=
  decodeFrom 0 [] none bytes

def encode (text : Text) : Bytes :=
  text.flatMap String.utf8EncodeChar

def mark : Bytes :=
  [0xEF, 0xBB, 0xBF]

@[simp] theorem decode_nil : decode [] = .ok [] := rfl

@[simp] theorem encode_nil : encode [] = [] := rfl

theorem encode_append (first second : Text) :
    encode (first ++ second) = encode first ++ encode second := by
  simp [encode]

end Utf8

end Docblock
