import Docblock.Decimal.Binary64
import Docblock.Text.Blank
import Docblock.Text.Digit
import Docblock.Text.Lower
import Docblock.Text.Quoted

/-!
Numbers as texts write them: whole numbers in a base, and decimals. Digits may be of any script, and
blanks around a number carry no meaning.
-/

namespace Docblock.Numeral

inductive Fault
  | empty
  | whole (base : Nat) (text : Text)
  | decimal (text : Text)
  | tooLong (count : Nat)
  | tooLarge
deriving DecidableEq, Repr

/-- The most decimal digits that a whole number may have where it is read or shown. -/
def digitLimit : Nat :=
  4300

def Fault.shownLength : Nat :=
  200

def limitText : Text :=
  "Exceeds the limit (".toList ++ Text.ofNat digitLimit ++
    " digits) for integer string conversion".toList

def limitAdvice : Text :=
  "; use sys.set_int_max_str_digits() to increase the limit".toList

def Fault.message : Fault → Text
  | .empty => "string index out of range".toList
  | .whole base text =>
      "invalid literal for int() with base ".toList ++ Text.ofNat base ++ ": ".toList ++
        text.quoted.take Fault.shownLength
  | .decimal text => "could not convert string to float: ".toList ++ text.quoted
  | .tooLong count =>
      limitText ++ ": value has ".toList ++ Text.ofNat count ++ " digits".toList ++ limitAdvice
  | .tooLarge => "int too large to convert to float".toList

/-- Digits and blanks of all scripts as those of ASCII, up to the first other character that is not
ASCII, which no number holds. -/
def toAscii : Text → Text
  | [] => []
  | c :: text =>
      if c.toNat < 127 then c :: toAscii text
      else if Text.isBlank c then ' ' :: toAscii text
      else
        match Text.digitValue? c with
        | some value => Char.ofNat ('0'.toNat + value) :: toAscii text
        | none => ['?']

def isSpace (c : Char) : Bool :=
  c == ' ' || (0x09 ≤ c.toNat && c.toNat ≤ 0x0D)

def trim (text : Text) : Text :=
  ((text.dropWhile isSpace).reverse.dropWhile isSpace).reverse

def cutSign : Text → Bool × Text
  | '-' :: text => (true, text)
  | '+' :: text => (false, text)
  | text => (false, text)

def digit? (base : Nat) (c : Char) : Option Nat :=
  (Text.hexDigit? c).filter (· < base)

def isDigit (base : Nat) (c : Char) : Bool :=
  (digit? base c).isSome

def number (base : Nat) (digits : Text) : Nat :=
  digits.foldl (fun sum c => sum * base + (digit? base c).getD 0) 0

def baseLetter? (base : Nat) : Option Char :=
  [(2, 'b'), (8, 'o'), (16, 'x')].lookup base

def cutBase (base : Nat) (text : Text) : Text :=
  match text with
  | '0' :: c :: rest => if some c.toLower = baseLetter? base then rest else text
  | _ => text

/-- A whole number in a base. A decimal that is too long is refused before what follows it is looked
at; in the other bases, the length has no bound. -/
def whole (base : Nat) (text : Text) : Except Fault Int :=
  let (negative, unsigned) := cutSign ((toAscii text).dropWhile isSpace)
  let body := cutBase base unsigned
  let digits := body.takeWhile (isDigit base)
  let behind := (body.drop digits.length).dropWhile isSpace
  if base = 10 && digitLimit < digits.length then .error (.tooLong digits.length)
  else if digits.isEmpty || !behind.isEmpty then .error (.whole base text)
  else
    let size : Int := number base digits
    .ok (if negative then -size else size)

def decimalParts? (text : Text) : Option (Text × Nat × Int) := do
  let whole := text.takeWhile Char.isDigit
  let rest := text.drop whole.length
  let (fraction, rest) :=
    match rest with
    | '.' :: rest => (rest.takeWhile Char.isDigit, rest.dropWhile Char.isDigit)
    | _ => ([], rest)
  guard (!(whole ++ fraction).isEmpty)
  match rest with
  | [] => return (whole ++ fraction, fraction.length, 0)
  | e :: rest => do
      guard (e == 'e' || e == 'E')
      let (negative, power) := cutSign rest
      guard (!power.isEmpty && power.all Char.isDigit)
      let size : Int := number 10 power
      return (whole ++ fraction, fraction.length, if negative then -size else size)

def decimal (text : Text) : Except Fault Binary64 :=
  let (negative, unsigned) := cutSign (trim (toAscii text))
  let name := unsigned.map Char.toLower
  if name = "inf".toList || name = "infinity".toList then .ok (.infinite negative)
  else if name = "nan".toList then .ok .nan
  else
    match decimalParts? unsigned with
    | some (digits, places, exponent) =>
        .ok (.ofDecimal negative (number 10 digits) (exponent - places))
    | none => .error (.decimal text)

end Docblock.Numeral
