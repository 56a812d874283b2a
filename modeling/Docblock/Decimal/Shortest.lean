import Docblock.Decimal.Binary64

/-!
The decimal text of a floating-point number: the fewest digits that read back as the number, and of
those the digits nearest to it.
-/

namespace Docblock.Binary64

/-- The reals that round to `mantissa * 2 ^ exponent`, in quarters of the last place; the ends
belong to it when the mantissa is even. -/
structure Rounding where
  low : Nat
  value : Nat
  high : Nat
  closed : Bool

def Rounding.of (mantissa : Nat) (exponent : Int) : Rounding :=
  let below := if mantissa = Nat.pow 2 52 && exponent > -1074 then 1 else 2
  ⟨4 * mantissa - below, 4 * mantissa, 4 * mantissa + 2, mantissa % 2 = 0⟩

def Rounding.has (interval : Rounding) (num den : Nat) : Bool :=
  if interval.closed then interval.low * den ≤ num && num ≤ interval.high * den
  else interval.low * den < num && num < interval.high * den

/-- The whole part of the decimal logarithm of a positive fraction, searched downwards from a guess
that is not too small. -/
def log10Div (num den : Nat) : Nat → Int → Int
  | 0, guess => guess
  | fuel + 1, guess =>
      let (n, d) := scaled 10 num den (-guess)
      if n < d then log10Div num den fuel (guess - 1) else guess

/-- The decimal with `count` digits that reads back and is nearest to the number, the one with the
even last digit of two equally near ones; written as its digits without the point. -/
def digitsOf? (interval : Rounding) (unitNum unitDen : Nat) (top : Int) (count : Nat) :
    Option Nat :=
  let shift := (count : Int) - 1 - top
  let (n, d) := scaled 10 (interval.value * unitNum) unitDen shift
  let (unit, step) := scaled 10 unitNum unitDen shift
  let low := n / d
  let fits := fun candidate => interval.has (candidate * step) unit
  match fits low, fits (low + 1) with
  | true, true =>
      if 2 * (n % d) < d || (2 * (n % d) = d && low % 2 = 0) then some low else some (low + 1)
  | true, false => some low
  | false, true => some (low + 1)
  | false, false => none

def shortestFrom (interval : Rounding) (unitNum unitDen : Nat) (top : Int) :
    Nat → Nat → Nat × Nat
  | 0, count => (interval.value, count)
  | fuel + 1, count =>
      match digitsOf? interval unitNum unitDen top count with
      | some digits => (digits, count)
      | none => shortestFrom interval unitNum unitDen top fuel (count + 1)

/-- The shortest digits of a positive number, and the exponent of the first digit. -/
def shortest (mantissa : Nat) (exponent : Int) : Text × Int :=
  let interval := Rounding.of mantissa exponent
  let (unitNum, unitDen) := scaled 2 1 1 (exponent - 2)
  let top := log10Div (interval.value * unitNum) unitDen 700 310
  let (digits, count) := shortestFrom interval unitNum unitDen top 17 1
  let text := Text.ofNat digits
  (text, top + ((text.length : Int) - count))

def trimZeros (digits : Text) : Text :=
  match (digits.reverse.dropWhile (· == '0')).reverse with
  | [] => ['0']
  | trimmed => trimmed

/-- Positional notation for first-digit exponents from -4 to 15, always with a fraction. -/
def positional (digits : Text) (top : Int) : Text :=
  if top < 0 then
    "0.".toList ++ List.replicate (top.natAbs - 1) '0' ++ digits
  else
    let whole := top.toNat + 1
    let padded := digits ++ List.replicate (whole - digits.length) '0'
    let fraction := padded.drop whole
    padded.take whole ++ '.' :: (if fraction.isEmpty then ['0'] else fraction)

def scientific (digits : Text) (top : Int) : Text :=
  let fraction := digits.drop 1
  let size := Text.ofNat top.natAbs
  digits.take 1 ++ (if fraction.isEmpty then [] else '.' :: fraction) ++
    ['e', if top < 0 then '-' else '+'] ++ List.replicate (2 - size.length) '0' ++ size

def display : Binary64 → Text
  | .nan => "nan".toList
  | .infinite negative => (if negative then ['-'] else []) ++ "inf".toList
  | .finite negative mantissa exponent =>
      (if negative then ['-'] else []) ++
        if mantissa = 0 then "0.0".toList
        else
          let (digits, top) := shortest mantissa exponent
          let digits := trimZeros digits
          if -4 ≤ top && top < 16 then positional digits top else scientific digits top

end Docblock.Binary64
