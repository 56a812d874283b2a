import Docblock.Encoding.Base64
import Docblock.Text.Codes
import Docblock.Value
import Docblock.Yaml.Resolve

namespace Docblock.Yaml

def withoutUnderscores (text : Text) : Text :=
  text.filter (· != '_')

def sexagesimal (places : List Int) : Int :=
  places.foldr (fun place value => place + 60 * value) 0

/-- A whole number without a sign. In the old edition a leading zero means base eight, and colons
divide places of base sixty. -/
def unsignedWhole (edition : Edition) (text : Text) : Except Numeral.Fault Int :=
  match text with
  | ['0'] => .ok 0
  | '0' :: 'b' :: digits => Numeral.whole 2 digits
  | '0' :: 'x' :: digits => Numeral.whole 16 digits
  | '0' :: 'o' :: digits => Numeral.whole 8 digits
  | _ =>
      if edition.isOld then
        match text with
        | [] => .error .empty
        | '0' :: _ => Numeral.whole 8 text
        | _ =>
            if text.contains ':' then do
              let places ← (text.split ':').mapM (Numeral.whole 10)
              return sexagesimal places.reverse
            else Numeral.whole 10 text
      else Numeral.whole 10 text

def wholeLiteral (edition : Edition) (text : Text) : Except Numeral.Fault Int := do
  let digits := withoutUnderscores text
  if digits.isEmpty then .error .empty
  let (negative, unsigned) := Numeral.cutSign digits
  let size ← unsignedWhole edition unsigned
  return if negative then -size else size

def sixtyPower (place : Nat) : Except Numeral.Fault Binary64 :=
  match Binary64.ofFraction false (Nat.pow 60 place) 1 with
  | .infinite _ => .error .tooLarge
  | power => .ok power

/-- Places of base sixty, the last one first, summed up from the smallest. -/
def sexagesimalFloat (places : List Binary64) : Except Numeral.Fault Binary64 :=
  places.zipIdx.foldlM
    (fun sum (digit, place) => return sum.add (digit.mul (← sixtyPower place))) (.zero false)

def unsignedFloat (edition : Edition) (text : Text) : Except Numeral.Fault Binary64 :=
  if text = ".inf".toList then .ok (.infinite false)
  else if text = ".nan".toList then .ok .nan
  else if edition ≠ .standard && text.contains ':' then do
    let places ← (text.split ':').mapM Numeral.decimal
    sexagesimalFloat places.reverse
  else Numeral.decimal text

def floatLiteral (edition : Edition) (text : Text) : Except Numeral.Fault Binary64 := do
  let digits := (withoutUnderscores text).lower
  if digits.isEmpty then .error .empty
  let (negative, unsigned) := Numeral.cutSign digits
  let size ← unsignedFloat edition unsigned
  return if negative then size.negate else size

def truthValues : List (String × Bool) :=
  [("yes", true), ("no", false), ("y", true), ("n", false), ("true", true), ("false", false),
    ("on", true), ("off", false)]

def truthLiteral (text : Text) : Except Defect Bool :=
  let name := text.lower
  match truthValues.find? (·.1.toList == name) with
  | some (_, value) => .ok value
  | none => .error (.truthUnknown name)

def binaryLiteral? (text : Text) : Option Bytes :=
  if text.all (·.toNat < 128) then Base64.decode? text else none

def momentLiteral (text : Text) : Except Fault Value :=
  match Moment.Written.ofText? (withoutBreak text) with
  | none => .error .illFormed
  | some written =>
      let value := match written.time with
        | none => written.date.check.map Value.date
        | some time => (written.moment time).map Value.moment
      value.mapError fun fault => .defect (.moment fault)

def literal (edition : Edition) (tag : Tag) (content : Codes) : Except Fault Value :=
  let text := content.joined
  match tag with
  | .null => .ok .null
  | .bool => ((truthLiteral text).map Value.bool).mapError .defect
  | .int => ((wholeLiteral edition text).map Value.int).mapError (.defect ∘ .numeral)
  | .float => ((floatLiteral edition text).map Value.float).mapError (.defect ∘ .numeral)
  | .text => .ok (.text text)
  | .binary =>
      match binaryLiteral? text with
      | some bytes => .ok (.bytes bytes)
      | none => .error .illFormed
  | .timestamp => momentLiteral text
  | _ => .error .illFormed

end Docblock.Yaml
