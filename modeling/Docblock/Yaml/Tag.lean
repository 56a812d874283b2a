import Docblock.Encoding.Utf8
import Docblock.Yaml.Cursor
import Docblock.Yaml.Edition
import Docblock.Yaml.Fault

namespace Docblock.Yaml

/-- The types that a tag can name. A merge brings in the entries of other mappings, and a default
stands for the mapping that holds it. -/
inductive Tag
  | null
  | bool
  | int
  | float
  | text
  | binary
  | timestamp
  | list
  | pairs
  | map
  | ordered
  | set
  | merge
  | default
  | unknown
deriving DecidableEq, Repr

namespace Tag

def standardLead : Text :=
  "tag:yaml.org,2002:".toList

def named : List (String × Tag) :=
  [("null", .null), ("bool", .bool), ("int", .int), ("float", .float), ("str", .text),
    ("binary", .binary), ("timestamp", .timestamp), ("seq", .list), ("pairs", .pairs),
    ("map", .map), ("omap", .ordered), ("set", .set), ("merge", .merge), ("value", .default)]

def ofName (name : Text) : Tag :=
  ((named.find? fun entry => standardLead ++ entry.1.toList == name).map Prod.snd).getD .unknown

end Tag

/-- A tag as it is written: a handle that stands for the start of its name, and the rest of it. -/
structure WrittenTag where
  handle : Option Text
  suffix : Text
deriving DecidableEq, Repr

def isTagChar (edition : Edition) (c : Char) : Bool :=
  c.isAlphanum || "-;/?:@&=+$,_.!~*'()[]%".toList.contains c || (edition.isNew && c == '#')

def isHandleChar (c : Char) : Bool :=
  c.isAlphanum || c == '-' || c == '_'

/-- Every percent sign stands in front of two digits, and the bytes they give are UTF-8. -/
def escapesHold (bytes : Bytes) : Text → Bool
  | '%' :: high :: low :: rest =>
      Numeral.isDigit 16 high && Numeral.isDigit 16 low &&
        escapesHold (bytes ++ [UInt8.ofNat (Numeral.number 16 [high, low])]) rest
  | c :: rest => c != '%' && (Utf8.decode bytes).isOk && escapesHold [] rest
  | [] => (Utf8.decode bytes).isOk

def unescaped : Text → Text
  | '%' :: high :: low :: rest => Char.ofNat (Numeral.number 16 [high, low]) :: unescaped rest
  | c :: rest => c :: unescaped rest
  | [] => []

def tagText (edition : Edition) (cursor : Cursor) : Option (Text × Cursor) :=
  let (text, next) := cursor.span (isTagChar edition)
  if !text.isEmpty && escapesHold [] text then some (text, next) else none

def tagHandle (cursor : Cursor) : Option (Text × Cursor) := do
  guard (cursor.peek == some '!')
  if cursor.peekAt 1 == some ' ' then return (['!'], cursor.next)
  let (word, behind) := cursor.next.span isHandleChar
  guard (behind.peek == some '!')
  return ('!' :: word ++ ['!'], behind.next)

/-- A tag, from its first mark on. A mark alone, once or twice, names no type. -/
def writtenTag (edition : Edition) (cursor : Cursor) : Option (WrittenTag × Cursor) := do
  let twice := cursor.peekAt 1 == some '!'
  let start := if twice then cursor.next else cursor
  let (tag, behind) ←
    if start.peekAt 1 == some '<' then do
      let (suffix, behind) ← tagText edition (start.skip 2)
      guard (behind.peek == some '>')
      pure ((⟨none, suffix⟩ : WrittenTag), behind.next)
    else if isGap (start.peekAt 1) then pure (⟨none, ['!']⟩, start.next)
    else do
      let word := (start.rest.drop 1).takeWhile fun c => !isEnd (some c)
      let (handle, behind) ←
        if word.contains '!' then tagHandle start
        else pure (if twice then ['!', '!'] else ['!'], start.next)
      let (suffix, behind) ← tagText edition behind
      pure (⟨some handle, suffix⟩, behind)
  guard (isEnd behind.peek)
  return (tag, behind)

def standardHandles : List (Text × Text) :=
  [(['!'], ['!']), (['!', '!'], Tag.standardLead)]

/-- The type that a written tag names; none if it leaves the type open, and a failure if its handle
is not known. -/
def WrittenTag.resolve (handles : List (Text × Text)) (tag : WrittenTag) : Option (Option Tag) := do
  let lead ← match tag.handle with
    | none => some []
    | some handle => handles.lookup handle
  let name := lead ++ unescaped tag.suffix
  return if name = ['!'] then none else some (Tag.ofName name)

end Docblock.Yaml
