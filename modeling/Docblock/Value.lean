import Docblock.Decimal.Shortest
import Docblock.Defect
import Docblock.Encoding.Utf8

namespace Docblock

inductive Shape
  | list
  | tuple
  | set
  | map
  | ordered
deriving DecidableEq, Repr

/-- A value. A collection that holds itself is cut where it comes again inside itself. -/
inductive Value
  | null
  | bool (value : Bool)
  | int (value : Int)
  | float (value : Binary64)
  | text (value : Text)
  | bytes (value : Bytes)
  | date (value : Date)
  | moment (value : Moment)
  | list (items : List Value)
  | tuple (items : List Value)
  | set (items : List Value)
  | map (entries : List (Value × Value))
  | ordered (entries : List (Value × Value))
  | again (shape : Shape)
deriving Inhabited

def Shape.typeName : Shape → Text
  | .list => "list".toList
  | .tuple => "tuple".toList
  | .set => "set".toList
  | .map => "dict".toList
  | .ordered => "ordereddict".toList

def Shape.ellipsis : Shape → Text
  | .list => "[...]".toList
  | .tuple => "(...)".toList
  | .set => "set(...)".toList
  | .map => "\x7b...\x7d".toList
  | .ordered => "...".toList

namespace Value

def typeName : Value → Text
  | .null => "NoneType".toList
  | .bool _ => "bool".toList
  | .int _ => "int".toList
  | .float _ => "float".toList
  | .text _ => "str".toList
  | .bytes _ => "bytes".toList
  | .date _ => "date".toList
  | .moment _ => "datetime".toList
  | .list _ => Shape.list.typeName
  | .tuple _ => Shape.tuple.typeName
  | .set _ => Shape.set.typeName
  | .map _ => Shape.map.typeName
  | .ordered _ => Shape.ordered.typeName
  | .again shape => shape.typeName

def fullTypeName : Value → Text
  | .date _ => "datetime.date".toList
  | .moment _ => "datetime.datetime".toList
  | value => value.typeName

def text? : Value → Option Text
  | .text value => some value
  | _ => none

def isVoid : Value → Bool
  | .null => true
  | .bool value => !value
  | .int value => value == 0
  | .float value => value.isZero
  | .text value => value.isEmpty
  | .bytes value => value.isEmpty
  | .list items => items.isEmpty
  | .tuple items => items.isEmpty
  | .set items => items.isEmpty
  | .map entries => entries.isEmpty
  | .ordered entries => entries.isEmpty
  | _ => false

def fraction? : Value → Option (Int × Nat)
  | .bool value => some (if value then 1 else 0, 1)
  | .int value => some (value, 1)
  | .float (.finite negative mantissa exponent) =>
      let (num, den) := Binary64.scaled 2 mantissa 1 exponent
      some (if negative then -num else num, den)
  | _ => none

def byteQuoted (mark : Char) (byte : UInt8) : Text :=
  let c := Char.ofNat byte.toNat
  if 0x7F ≤ byte.toNat then Text.escaped c else Text.quotedChar mark c

def displayBytes (bytes : Bytes) : Text :=
  let mark := Text.quoteMark (bytes.map fun byte => Char.ofNat byte.toNat)
  'b' :: mark :: bytes.flatMap (byteQuoted mark) ++ [mark]

def displayScalar : Value → Text
  | .null => "None".toList
  | .bool true => "True".toList
  | .bool false => "False".toList
  | .int value => Text.ofInt value
  | .float value => value.display
  | .text value => value.quoted
  | .bytes value => displayBytes value
  | .date value => value.display
  | .moment value => value.display
  | .again shape => shape.ellipsis
  | _ => []

def displayTuple : List Text → Text
  | [item] => '(' :: item ++ ",)".toList
  | items => '(' :: Text.join ", ".toList items ++ [')']

mutual

def display : Value → Text
  | .list items => '[' :: Text.join ", ".toList (displayItems items) ++ [']']
  | .tuple items => displayTuple (displayItems items)
  | .set [] => "set()".toList
  | .set items => '\x7b' :: Text.join ", ".toList (displayItems items) ++ ['\x7d']
  | .map entries => '\x7b' :: Text.join ", ".toList (displayEntries entries) ++ ['\x7d']
  | .ordered [] => "ordereddict()".toList
  | .ordered entries =>
      "ordereddict([".toList ++ Text.join ", ".toList (displayPairs entries) ++ "])".toList
  | scalar => scalar.displayScalar

def displayItems : List Value → List Text
  | [] => []
  | item :: items => display item :: displayItems items

def displayEntries : List (Value × Value) → List Text
  | [] => []
  | (key, value) :: entries =>
      (display key ++ ": ".toList ++ display value) :: displayEntries entries

def displayPairs : List (Value × Value) → List Text
  | [] => []
  | (key, value) :: entries => displayTuple [display key, display value] :: displayPairs entries

end

def isLong (value : Int) : Bool :=
  Nat.pow 10 Numeral.digitLimit ≤ value.natAbs

def deeper (below : Nat → Option Defect) : Nat → Option Defect
  | 0 => some .tooDeep
  | room + 1 => below room

mutual

/-- What keeps a value from being shown in so many levels: a number with too many digits, or a level
too many, whichever is met first. A set is shown through a list, an ordered mapping through a list of
pairs, and a moment that has a zone through the distance of that. -/
def showFault? : Value → Nat → Option Defect
  | .int value => deeper fun _ => if isLong value then some .numberTooLong else none
  | .moment value =>
      deeper <| if value.zone.isSome then deeper (deeper fun _ => none) else fun _ => none
  | .list items => deeper (itemsFault? items)
  | .tuple items => deeper (itemsFault? items)
  | .set items => deeper <| if items.isEmpty then fun _ => none else deeper (itemsFault? items)
  | .map entries => deeper (entriesFault? entries)
  | .ordered entries =>
      deeper <| if entries.isEmpty then fun _ => none else deeper (pairsFault? entries)
  | _ => deeper fun _ => none

def itemsFault? : List Value → Nat → Option Defect
  | [], _ => none
  | item :: items, room => (showFault? item room).or (itemsFault? items room)

def entriesFault? : List (Value × Value) → Nat → Option Defect
  | [], _ => none
  | (key, value) :: entries, room =>
      ((showFault? key room).or (showFault? value room)).or (entriesFault? entries room)

def pairsFault? : List (Value × Value) → Nat → Option Defect
  | [], _ => none
  | (key, value) :: entries, room =>
      (deeper (fun room => (showFault? key room).or (showFault? value room)) room).or
        (pairsFault? entries room)

end

def usualRoom : Nat :=
  990

/-- Two keys are the same when they are equal as texts, or equal as numbers whatever their type. -/
def sameKey : Value → Value → Bool
  | .null, .null => true
  | .text first, .text second => first == second
  | .bytes first, .bytes second => first == second
  | .date first, .date second => first == second
  | .moment first, .moment second => first.same second
  | .tuple first, .tuple second => sameKeys first second
  | first, second =>
      match first.fraction?, second.fraction? with
      | some (a, b), some (c, d) => a * d == c * b
      | none, none =>
          match first, second with
          | .float first, .float second => first == second
          | _, _ => false
      | _, _ => false
where
  sameKeys : List Value → List Value → Bool
    | [], [] => true
    | first :: firsts, second :: seconds => sameKey first second && sameKeys firsts seconds
    | _, _ => false

def lookup? (name : Text) : List (Value × Value) → Option Value
  | [] => none
  | (.text key, value) :: entries => if key = name then some value else lookup? name entries
  | _ :: entries => lookup? name entries

@[simp] theorem lookup?_nil (name : Text) : lookup? name [] = none := rfl

end Value

end Docblock
