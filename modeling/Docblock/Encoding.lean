import Docblock.Codec
import Docblock.Defect
import Docblock.Encoding.SingleByte
import Docblock.Encoding.Utf16

namespace Docblock

inductive Encoding
  | utf8
  | utf8Marked
  | ascii
  | latin1
  | utf16
  | utf16Plain (order : Utf16.Order)
deriving DecidableEq, Repr

/-- Why a file is no text of an encoding. -/
inductive Unreadable
  | decode (error : DecodeError)
  | noByteOrderMark
deriving DecidableEq, Repr

namespace Encoding

def isNameChar (c : Char) : Bool :=
  c.isAlphanum || c == '.'

def nameWords : Text → List Text
  | [] => [[]]
  | c :: cs =>
      if isNameChar c then
        match nameWords cs with
        | [] => [[c.toLower]]
        | word :: words => (c.toLower :: word) :: words
      else [] :: nameWords cs

def normalize (name : Text) : Text :=
  Text.join ['_'] ((nameWords name).filter fun word => !word.isEmpty)

def names : List (Encoding × String × List String) :=
  [(.utf8, "utf_8", ["u8", "utf", "utf8", "utf8_ucs2", "utf8_ucs4", "cp65001"]),
    (.utf8Marked, "utf_8_sig", []),
    (.ascii, "ascii", ["646", "ansi_x3.4_1968", "ansi_x3_4_1968", "ansi_x3.4_1986", "cp367",
      "csascii", "ibm367", "iso646_us", "iso_646.irv_1991", "iso_ir_6", "us", "us_ascii"]),
    (.latin1, "latin_1", ["8859", "cp819", "csisolatin1", "ibm819", "iso8859", "iso8859_1",
      "iso_8859_1", "iso_8859_1_1987", "iso_ir_100", "l1", "latin", "latin1"]),
    (.utf16, "utf_16", ["u16", "utf16"]),
    (.utf16Plain .little, "utf_16_le", ["unicodelittleunmarked", "utf_16le"]),
    (.utf16Plain .big, "utf_16_be", ["unicodebigunmarked", "utf_16be"])]

/-- Among the other names, a point counts as an underscore too. -/
def hasName (name : Text) (entry : Encoding × String × List String) : Bool :=
  let pointless := name.map fun c => if c = '.' then '_' else c
  let others := entry.2.2.map String.toList
  entry.2.1.toList == name || others.contains name || others.contains pointless

def ofName? (name : Text) : Option Encoding :=
  (names.find? (hasName (normalize name))).map Prod.fst

/-- A file is read in chunks, and the position of an error counts from the first byte that was not
yet decoded when the chunk that shows it came in. -/
def chunkSize : Nat :=
  8192

/-- The first two bytes of a surrogate, which are held back until a third one comes. -/
def startsSurrogate (bytes : Bytes) : Bool :=
  match bytes with
  | lead :: follower :: _ => lead == 0xED && 0xA0 ≤ follower && follower ≤ 0xBF
  | _ => false

/-- The number of bytes, from the start of the error, that are needed to see it; none if it shows
only at the end of the file. -/
def revealing? (bytes : Bytes) (error : DecodeError) : Option Nat :=
  let rest := bytes.drop error.start
  match error.reason with
  | .startByte => some 1
  | .continuationByte =>
      if !startsSurrogate rest then some (error.count + 1)
      else if rest.length = 2 then none
      else some 3
  | .beyondAscii => some 1
  | .lowSurrogate => some 2
  | .highSurrogate => some 4
  | .endOfData => none
  | .truncated => none

def isFollower (byte : UInt8) : Bool :=
  Utf8.anyFollower.has byte

/-- The bytes in front of a chunk that belong to a character that the chunk completes. -/
def carried (encoding : Encoding) (before after : Bytes) : Nat :=
  match encoding with
  | .ascii => 0
  | .latin1 => 0
  | .utf8 | .utf8Marked =>
      if (after.head?.map isFollower).getD false then
        (before.reverse.takeWhile isFollower).length + 1
      else 0
  | .utf16Plain .little =>
      match before.reverse with
      | high :: _ => if 0xD8 ≤ high && high < 0xDC then 2 else 0
      | [] => 0
  | .utf16Plain .big =>
      match before.reverse with
      | _ :: high :: _ => if 0xD8 ≤ high && high < 0xDC then 2 else 0
      | _ => 0
  | .utf16 => 0

def origin (encoding : Encoding) (bytes : Bytes) (error : DecodeError) : Nat :=
  match revealing? bytes error with
  | none => error.start
  | some count =>
      let chunk := (error.start + count - 1) / chunkSize * chunkSize
      if error.start < chunk then error.start
      else if chunk = error.start then chunk
      else chunk - carried encoding (bytes.take chunk) (bytes.drop chunk)

/-- An error that shows before a byte order mark is missed: in the first chunk, or in a file that
holds no whole character. -/
def showsFirst (bytes : Bytes) (error : DecodeError) : Bool :=
  match revealing? bytes error with
  | some count => error.start + count ≤ chunkSize
  | none => error.start < 2

/-- The text of all bytes of a file, with positions that count from the first byte. -/
def decodeWhole (encoding : Encoding) (bytes : Bytes) : Except Unreadable Text :=
  match encoding with
  | .utf8 => (Utf8.decode bytes).mapError .decode
  | .utf8Marked =>
      if bytes.take 3 = Utf8.mark then
        (Utf8.decode (bytes.drop 3)).mapError fun error =>
          .decode { error with start := error.start + 3 }
      else if bytes.length < 3 && bytes.isPrefixOf Utf8.mark then .ok []
      else (Utf8.decode bytes).mapError .decode
  | .ascii => (SingleByte.decodeAscii bytes).mapError .decode
  | .latin1 => .ok (SingleByte.decodeLatin bytes)
  | .utf16Plain order => (Utf16.decode order 0 bytes).mapError .decode
  | .utf16 =>
      match Utf16.cutMark? bytes with
      | some (order, rest) => (Utf16.decode order 2 rest).mapError .decode
      | none =>
          match Utf16.decode .little 0 bytes with
          | .ok [] => .ok []
          | .ok _ => .error .noByteOrderMark
          | .error error =>
              if showsFirst bytes error then .error (.decode error) else .error .noByteOrderMark

def settled (encoding : Encoding) (bytes : Bytes) : Encoding :=
  match encoding with
  | .utf16 => .utf16Plain (((Utf16.cutMark? bytes).map Prod.fst).getD .little)
  | other => other

/-- A mark at the front is cut before the first chunk is decoded, and is not counted there. -/
def markLength (encoding : Encoding) (bytes : Bytes) (origin : Nat) : Nat :=
  if encoding = .utf8Marked && bytes.take 3 = Utf8.mark && origin = 0 then 3 else 0

def decode (encoding : Encoding) (bytes : Bytes) : Except Unreadable Text :=
  (encoding.decodeWhole bytes).mapError fun fault =>
    match fault with
    | .noByteOrderMark => .noByteOrderMark
    | .decode error =>
        let origin := origin (encoding.settled bytes) bytes error
        .decode (error.relativeTo (origin + encoding.markLength bytes origin))

def encode (encoding : Encoding) (text : Text) : Except EncodeError Bytes :=
  match encoding with
  | .utf8 => .ok (Utf8.encode text)
  | .utf8Marked => .ok (Utf8.mark ++ Utf8.encode text)
  | .ascii => SingleByte.encode "ascii".toList 128 text
  | .latin1 => SingleByte.encode "latin-1".toList 256 text
  | .utf16 => .ok (Utf16.mark .little ++ Utf16.encode .little text)
  | .utf16Plain order => .ok (Utf16.encode order text)

/-- An encoding as streams use it. Only a byte order mark that is missed is not reported as a refusal
of bytes. -/
def codec (encoding : Encoding) : Codec where
  decode bytes := (encoding.decode bytes).mapError fun fault =>
    match fault with
    | .decode error => .refused error.message
    | .noByteOrderMark => .broken "UTF-16 stream does not start with BOM".toList
  encode text := (encoding.encode text).mapError fun error => .refused error.message

theorem codec_decode_eq_ok_iff {encoding : Encoding} {bytes : Bytes} {text : Text} :
    encoding.codec.decode bytes = .ok text ↔ encoding.decode bytes = .ok text := by
  simp only [codec]
  cases encoding.decode bytes with
  | error fault => exact ⟨nofun, nofun⟩
  | ok found =>
      constructor
      · intro same
        exact congrArg Except.ok (Except.ok.inj same)
      · intro same
        exact congrArg Except.ok (Except.ok.inj same)

theorem codec_encode_eq_ok_iff {encoding : Encoding} {text : Text} {bytes : Bytes} :
    encoding.codec.encode text = .ok bytes ↔ encoding.encode text = .ok bytes := by
  simp only [codec]
  cases encoding.encode text with
  | error fault => exact ⟨nofun, nofun⟩
  | ok found =>
      constructor
      · intro same
        exact congrArg Except.ok (Except.ok.inj same)
      · intro same
        exact congrArg Except.ok (Except.ok.inj same)

def chosen : Option Text → Except Defect Encoding
  | none => .ok .utf8
  | some name =>
      match ofName? name with
      | some encoding => .ok encoding
      | none => .error (.unknownEncoding name)

end Encoding

end Docblock
