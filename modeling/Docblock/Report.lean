import Docblock.Path
import Docblock.Stats

namespace Docblock

structure Report where
  source : Path
  destination : Path
  stats : Stats
deriving DecidableEq, Repr

namespace Json

/-- A character of a JSON string. Only the quote, the backslash and control characters are
escaped. -/
def char (c : Char) : Text :=
  if c = '"' then ['\\', '"']
  else if c = '\\' then ['\\', '\\']
  else if c = '\n' then ['\\', 'n']
  else if c = '\r' then ['\\', 'r']
  else if c = '\t' then ['\\', 't']
  else if c = '\x08' then ['\\', 'b']
  else if c = '\x0C' then ['\\', 'f']
  else if c.toNat < 0x20 then ['\\', 'u'] ++ Text.hex 4 c.toNat
  else [c]

def string (text : Text) : Text :=
  '"' :: text.flatMap char ++ ['"']

def boolean (value : Bool) : Text :=
  (if value then "true" else "false").toList

def object (depth : Nat) (fields : List (Text × Text)) : Text :=
  if fields.isEmpty then "\x7b\x7d".toList
  else
    let line := fun (deep : Nat) => '\n' :: List.replicate deep ' '
    let inner := line (depth + 2)
    '\x7b' :: inner ++
      Text.join (',' :: inner)
        (fields.map fun field => string field.1 ++ ": ".toList ++ field.2) ++
      line depth ++ ['\x7d']

end Json

def Report.toJson (report : Report) : Text :=
  Json.object 0
    [("source".toList, Json.string report.source.toText),
      ("destination".toList, Json.string report.destination.toText),
      ("linesRead".toList, Text.ofInt report.stats.linesRead),
      ("linesWritten".toList, Text.ofInt report.stats.linesWritten),
      ("blocks".toList, Text.ofInt report.stats.blocks),
      ("fragments".toList, Json.object 2
        (report.stats.fragments.map fun field => (field.1, Text.ofInt field.2))),
      ("skippedReturns".toList, Text.ofInt report.stats.skippedReturns),
      ("unterminated".toList, Json.boolean report.stats.unterminated)]

end Docblock
