import Docblock.Text.Basic

namespace Docblock

/-- A finite number is `mantissa * 2 ^ exponent`, with the sign apart so that there are two zeros. -/
inductive Binary64
  | finite (negative : Bool) (mantissa : Nat) (exponent : Int)
  | infinite (negative : Bool)
  | nan
deriving DecidableEq, Repr

namespace Binary64

def zero (negative : Bool) : Binary64 :=
  .finite negative 0 (-1074)

def isZero : Binary64 → Bool
  | .finite _ mantissa _ => mantissa == 0
  | _ => false

/-- A quotient rounded to the nearest whole number, a tie to the even one. -/
def roundDiv (num den : Nat) : Nat :=
  let low := num / den
  let twice := 2 * (num % den)
  if twice < den then low
  else if twice > den then low + 1
  else low + low % 2

def scaled (base num den : Nat) : Int → Nat × Nat
  | .ofNat k => (num * base.pow k, den)
  | .negSucc k => (num, den * base.pow (k + 1))

def log2Div (num den : Nat) : Int :=
  let guess : Int := (Nat.log2 num : Int) - Nat.log2 den
  let (n, d) := scaled 2 num den (-guess)
  if n < d then guess - 1 else guess

def ofFraction (negative : Bool) (num den : Nat) : Binary64 :=
  let exponent := max (log2Div num den - 52) (-1074)
  let (n, d) := scaled 2 num den (-exponent)
  let mantissa := roundDiv n d
  let (mantissa, exponent) :=
    if mantissa = Nat.pow 2 53 then (Nat.pow 2 52, exponent + 1) else (mantissa, exponent)
  if exponent > 971 then .infinite negative else .finite negative mantissa exponent

/-- The number nearest to `digits * 10 ^ exponent`. Magnitudes far outside the range are not
computed. -/
def ofDecimal (negative : Bool) (digits : Nat) (exponent : Int) : Binary64 :=
  let magnitude : Int := (Nat.toDigits 10 digits).length + exponent
  if digits = 0 || magnitude < -400 then zero negative
  else if magnitude > 400 then .infinite negative
  else
    let (num, den) := scaled 10 digits 1 exponent
    ofFraction negative num den

def negate : Binary64 → Binary64
  | .finite negative mantissa exponent => .finite (!negative) mantissa exponent
  | .infinite negative => .infinite (!negative)
  | .nan => .nan

/-- A sum, rounded once. Opposite numbers give the positive zero. -/
def add : Binary64 → Binary64 → Binary64
  | .finite n a p, .finite m b q =>
      let low := min p q
      let first : Int := a * Nat.pow 2 (p - low).toNat
      let second : Int := b * Nat.pow 2 (q - low).toNat
      let sum := (if n then -first else first) + (if m then -second else second)
      if sum = 0 then zero (n && m)
      else
        let (num, den) := scaled 2 sum.natAbs 1 low
        ofFraction (sum < 0) num den
  | .infinite n, .infinite m => if n = m then .infinite n else .nan
  | .infinite n, .finite _ _ _ => .infinite n
  | .finite _ _ _, .infinite m => .infinite m
  | _, _ => .nan

def mul : Binary64 → Binary64 → Binary64
  | .finite n a p, .finite m b q =>
      if a * b = 0 then zero (n != m)
      else
        let (num, den) := scaled 2 (a * b) 1 (p + q)
        ofFraction (n != m) num den
  | .infinite n, .infinite m => .infinite (n != m)
  | .infinite n, .finite m b _ => if b = 0 then .nan else .infinite (n != m)
  | .finite n a _, .infinite m => if a = 0 then .nan else .infinite (n != m)
  | _, _ => .nan

end Binary64

end Docblock
