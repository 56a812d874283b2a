import Docblock.Encoding.Utf8
import Docblock.Text.Codes

namespace Docblock.Utf16

inductive Order
  | little
  | big
deriving DecidableEq, Repr

def Order.codec : Order → Text
  | .little => "utf-16-le".toList
  | .big => "utf-16-be".toList

def Order.unit (order : Order) (first second : UInt8) : Nat :=
  match order with
  | .little => first.toNat + second.toNat * 256
  | .big => first.toNat * 256 + second.toNat

def Order.bytes (order : Order) (unit : Nat) : Bytes :=
  let low := UInt8.ofNat (unit % 256)
  let high := UInt8.ofNat (unit / 256)
  match order with
  | .little => [low, high]
  | .big => [high, low]

structure Waiting where
  unit : Nat
  byte : UInt8
deriving DecidableEq, Repr

def decodeFrom (order : Order) (start : Nat) (done : Text) :
    Option Waiting → Bytes → Except DecodeError Text
  | none, [] => .ok done.reverse
  | none, [byte] => .error ⟨order.codec, start, 1, byte, .truncated⟩
  | none, first :: second :: bytes =>
      let unit := order.unit first second
      if Codes.isHigh unit then decodeFrom order start done (some ⟨unit, first⟩) bytes
      else if Codes.isLow unit then .error ⟨order.codec, start, 2, first, .lowSurrogate⟩
      else decodeFrom order (start + 2) (Char.ofNat unit :: done) none bytes
  | some waiting, [] => .error ⟨order.codec, start, 2, waiting.byte, .endOfData⟩
  | some waiting, [_] => .error ⟨order.codec, start, 3, waiting.byte, .endOfData⟩
  | some waiting, first :: second :: bytes =>
      let unit := order.unit first second
      if Codes.isLow unit then
        decodeFrom order (start + 4) (Codes.joinPair waiting.unit unit :: done) none bytes
      else .error ⟨order.codec, start, 2, waiting.byte, .highSurrogate⟩

/-- Reads bytes that stand behind `start` others. -/
def decode (order : Order) (start : Nat) (bytes : Bytes) : Except DecodeError Text :=
  decodeFrom order start [] none bytes

def units (c : Char) : List Nat :=
  let n := c.toNat
  if n < 0x10000 then [n]
  else [0xD800 + (n - 0x10000) / 0x400, 0xDC00 + (n - 0x10000) % 0x400]

def encode (order : Order) (text : Text) : Bytes :=
  text.flatMap fun c => (units c).flatMap order.bytes

def mark (order : Order) : Bytes :=
  order.bytes 0xFEFF

/-- The order that a byte order mark at the front announces, and what stands behind the mark. -/
def cutMark? : Bytes → Option (Order × Bytes)
  | 0xFF :: 0xFE :: bytes => some (.little, bytes)
  | 0xFE :: 0xFF :: bytes => some (.big, bytes)
  | _ => none

end Docblock.Utf16
