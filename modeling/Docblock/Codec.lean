import Docblock.Encoding.Utf8

namespace Docblock

/-- Why a codec stops: at what it refuses, as users may expect of it, or for a reason of its own. -/
inductive Codec.Stop
  | refused (reason : Text)
  | broken (message : Text)
deriving DecidableEq, Repr

/-- An encoding as streams use it: the text of all bytes of a file, and the bytes that a file holds
after one text has been written to it. -/
structure Codec where
  decode : Bytes → Except Codec.Stop Text
  encode : Text → Except Codec.Stop Bytes

end Docblock
