import Docblock.Encoding.Utf8

namespace Docblock.SingleByte

def decodeAsciiFrom (position : Nat) (done : Text) : Bytes → Except DecodeError Text
  | [] => .ok done.reverse
  | byte :: bytes =>
      if byte.toNat < 128 then
        decodeAsciiFrom (position + 1) (Char.ofNat byte.toNat :: done) bytes
      else .error ⟨"ascii".toList, position, 1, byte, .beyondAscii⟩

def decodeAscii (bytes : Bytes) : Except DecodeError Text :=
  decodeAsciiFrom 0 [] bytes

def decodeLatin (bytes : Bytes) : Text :=
  bytes.map fun byte => Char.ofNat byte.toNat

def encode (codec : Text) (limit : Nat) (text : Text) : Except EncodeError Bytes :=
  let writable := fun (c : Char) => decide (c.toNat < limit)
  let start := (text.takeWhile writable).length
  match text.drop start with
  | [] => .ok (text.map fun c => UInt8.ofNat c.toNat)
  | c :: rest =>
      .error ⟨codec, start, (rest.takeWhile fun d => !writable d).length + 1, c, limit⟩

end Docblock.SingleByte
