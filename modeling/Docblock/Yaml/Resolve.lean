import Docblock.Yaml.Tag

namespace Docblock.Yaml

def withoutBreak (text : Text) : Text :=
  if text.getLast? = some '\n' then text.dropLast else text

def isDigits (base : Nat) (text : Text) : Bool :=
  !text.isEmpty && text.all fun c => c == '_' || Numeral.isDigit base c

def startsDigits (text : Text) : Bool :=
  text.head?.any Char.isDigit && isDigits 10 text

def isSixtieth : Text → Bool
  | [digit] => digit.isDigit
  | [ten, digit] => '0' ≤ ten && ten ≤ '5' && digit.isDigit
  | _ => false

def isSexagesimal (text : Text) : Bool :=
  match text.split ':' with
  | first :: second :: others => startsDigits first && (second :: others).all isSixtieth
  | _ => false

def isWhole (edition : Edition) (text : Text) : Bool :=
  let (_, unsigned) := Numeral.cutSign text
  let lettered := match unsigned with
    | '0' :: 'b' :: digits => isDigits 2 digits
    | '0' :: 'x' :: digits => isDigits 16 digits
    | '0' :: 'o' :: digits => !edition.isOld && isDigits 8 digits
    | _ => false
  let plain :=
    if edition.isOld then
      isDigits 8 unsigned || (unsigned.head? != some '0' && startsDigits unsigned) ||
        (unsigned.head? != some '0' && isSexagesimal unsigned)
    else isDigits 10 unsigned
  lettered || plain

def isExponent (signed : Bool) : Text → Bool
  | [] => true
  | e :: power =>
      let (_, digits) := Numeral.cutSign power
      (e == 'e' || e == 'E') && !digits.isEmpty && digits.all Char.isDigit &&
        (!signed || digits.length < power.length)

/-- A decimal has a point or an exponent. Without digits in front of the point, the exponent needs
its sign. -/
def isDecimal (text : Text) : Bool :=
  let isDigit := fun (c : Char) => c == '_' || c.isDigit
  let whole := text.takeWhile isDigit
  match text.drop whole.length with
  | '.' :: rest =>
      let fraction := rest.takeWhile isDigit
      let exponent := rest.drop fraction.length
      if whole.isEmpty then !fraction.isEmpty && isExponent true exponent
      else startsDigits whole && isExponent false exponent
  | exponent => startsDigits whole && !exponent.isEmpty && isExponent false exponent

def isSexagesimalDecimal (text : Text) : Bool :=
  match text.cut? ['.'] with
  | some (whole, fraction) => isSexagesimal whole && fraction.all fun c => c == '_' || c.isDigit
  | none => false

def isInfinity (text : Text) : Bool :=
  [".inf", ".Inf", ".INF"].any (·.toList == text)

def isNotANumber (text : Text) : Bool :=
  [".nan", ".NaN", ".NAN"].any (·.toList == text)

def isFloat (edition : Edition) (text : Text) : Bool :=
  let (_, unsigned) := Numeral.cutSign text
  let decimal :=
    if edition.isOld then
      (isDecimal unsigned && (unsigned.head? != some '.' || unsigned == text)) ||
        isSexagesimalDecimal unsigned
    else isDecimal unsigned
  decimal || isInfinity unsigned || isNotANumber text

def truthNames (edition : Edition) : List String :=
  let standard := ["true", "True", "TRUE", "false", "False", "FALSE"]
  if edition.isOld then
    standard ++ ["y", "Y", "yes", "Yes", "YES", "n", "N", "no", "No", "NO", "on", "On", "ON", "off",
      "Off", "OFF"]
  else standard

def isTruth (edition : Edition) (text : Text) : Bool :=
  (truthNames edition).any (·.toList == text)

def isNull (text : Text) : Bool :=
  ["~", "null", "Null", "NULL"].any (·.toList == text)

def isTimestamp (text : Text) : Bool :=
  (Moment.Written.ofText? text).any (·.isWide)

/-- The types in the order in which they are tried, with the characters that they start with. -/
def implicitTypes (edition : Edition) : List (Tag × String × (Text → Bool)) :=
  [(.bool, if edition.isOld then "yYnNtTfFoO" else "tTfF", isTruth edition),
    (.float, "-+0123456789.", isFloat edition),
    (.int, "-+0123456789", isWhole edition),
    (.merge, "<", (· == ['<', '<'])),
    (.null, "~nN", isNull),
    (.timestamp, "0123456789", isTimestamp),
    (.default, "=", (· == ['='])),
    (.unknown, "!&*", (·.length == 1))]

/-- The type of a scalar that leaves it open. Only two editions have such types. -/
def implicitTag (edition : Edition) (text : Text) : Except Fault Tag :=
  if edition ≠ .standard && edition ≠ .old then
    .error (.defect (.editionUnknown edition.major edition.minor))
  else
    match text.head? with
    | none => .ok .null
    | some c =>
        let body := withoutBreak text
        let fits := fun (entry : Tag × String × (Text → Bool)) =>
          entry.2.1.toList.contains c && entry.2.2 body
        .ok ((((implicitTypes edition).find? fits).map Prod.fst).getD .text)

end Docblock.Yaml
