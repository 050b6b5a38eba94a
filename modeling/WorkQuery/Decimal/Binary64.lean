import WorkQuery.Numeral

/-!
# WorkQuery.Decimal.Binary64

Binary floating-point numbers of 64 bits, as sign, mantissa and exponent over the natural numbers.
Every operation computes the exact ratio and rounds it once, to the nearest number and on a tie to
the one with an even mantissa.
-/

namespace WorkQuery

/-- A number `± mantissa · 2 ^ exponent`, an infinity, or no number. A finite number has the
smallest exponent that is at least `-1074` and keeps the mantissa below `2 ^ 53`. -/
inductive Binary64 where
  | finite (negative : Bool) (mantissa : Nat) (exponent : Int)
  | infinite (negative : Bool)
  | nan
  deriving DecidableEq, Repr

namespace Binary64

def minExponent : Int := -1074

def maxExponent : Int := 971

def zero (negative : Bool) : Binary64 := .finite negative 0 minExponent

/-- The ratio rounded to a whole number, a half to the even neighbour. -/
def roundDiv (num den : Nat) : Nat :=
  let q := num / den
  let r := num % den
  if den < 2 * r then q + 1
  else if 2 * r = den then if q % 2 = 0 then q else q + 1
  else q

/-- The exponent `e` with `2 ^ e ≤ num / den < 2 ^ (e + 1)`; both numbers are positive. -/
def floorLog2 (num den : Nat) : Int :=
  let guess : Int := (Nat.log2 num : Int) - (Nat.log2 den : Int)
  let atLeast (e : Int) : Bool :=
    if 0 ≤ e then den * 2 ^ e.toNat ≤ num else den ≤ num * 2 ^ (-e).toNat
  if atLeast guess then guess else guess - 1

/-- The number nearest to `± num / den`; `den` is positive. -/
def ofRatio (negative : Bool) (num den : Nat) : Binary64 :=
  if num = 0 then zero negative
  else
    let exponent := max (floorLog2 num den - 52) minExponent
    let mantissa :=
      if 0 ≤ exponent then roundDiv num (den * 2 ^ exponent.toNat)
      else roundDiv (num * 2 ^ (-exponent).toNat) den
    let (mantissa, exponent) :=
      if mantissa = 2 ^ (53 : Nat) then (2 ^ (52 : Nat), exponent + 1) else (mantissa, exponent)
    if maxExponent < exponent then .infinite negative else .finite negative mantissa exponent

def ofNat (n : Nat) : Binary64 := ofRatio false n 1

/-- Magnitude of a finite number as a ratio. -/
def magnitude (mantissa : Nat) (exponent : Int) : Nat × Nat :=
  if 0 ≤ exponent then (mantissa * 2 ^ exponent.toNat, 1)
  else (mantissa, 2 ^ (-exponent).toNat)

def neg : Binary64 → Binary64
  | .finite n m e => .finite (!n) m e
  | .infinite n => .infinite (!n)
  | .nan => .nan

def mul : Binary64 → Binary64 → Binary64
  | .finite n m e, .finite n' m' e' =>
    let (a, b) := magnitude m e
    let (a', b') := magnitude m' e'
    ofRatio (n != n') (a * a') (b * b')
  | .infinite n, .finite n' m' _ => if m' = 0 then .nan else .infinite (n != n')
  | .finite n m _, .infinite n' => if m = 0 then .nan else .infinite (n != n')
  | .infinite n, .infinite n' => .infinite (n != n')
  | _, _ => .nan

def div : Binary64 → Binary64 → Binary64
  | .finite n m e, .finite n' m' e' =>
    if m' = 0 then if m = 0 then .nan else .infinite (n != n')
    else
      let (a, b) := magnitude m e
      let (a', b') := magnitude m' e'
      ofRatio (n != n') (a * b') (b * a')
  | .infinite n, .finite n' _ _ => .infinite (n != n')
  | .finite n _ _, .infinite n' => zero (n != n')
  | _, _ => .nan

/-- Sum of two numbers that are not negative. -/
def addMagnitudes : Binary64 → Binary64 → Binary64
  | .finite _ m e, .finite _ m' e' =>
    let (a, b) := magnitude m e
    let (a', b') := magnitude m' e'
    ofRatio false (a * b' + a' * b) (b * b')
  | .nan, _ => .nan
  | _, .nan => .nan
  | _, _ => .infinite false

/-- A finite number as a whole multiple of the smallest positive one. -/
def scaled (negative : Bool) (mantissa : Nat) (exponent : Int) : Int :=
  let n : Int := (mantissa * 2 ^ (exponent - minExponent).toNat : Nat)
  if negative then -n else n

/-- Strictly below; never so for no number. -/
def lt : Binary64 → Binary64 → Bool
  | .finite n m e, .finite n' m' e' => scaled n m e < scaled n' m' e'
  | .finite _ _ _, .infinite n' => !n'
  | .infinite n, .finite _ _ _ => n
  | .infinite n, .infinite n' => n && !n'
  | _, _ => false

/-- Below or equal; never so for no number. The two zeros are equal. -/
def le : Binary64 → Binary64 → Bool
  | .nan, _ => false
  | _, .nan => false
  | a, b => !lt b a

/-- Equal as numbers: the two zeros are, and no number is not equal to itself. -/
def same (a b : Binary64) : Bool := le a b && le b a

/-- The number nearest to `± significand · 10 ^ exponent`. Exponents far out of range are decided
without forming the power. -/
def ofDecimal (negative : Bool) (significand : Nat) (exponent : Int) : Binary64 :=
  if significand = 0 then zero negative
  else
    let size : Int := (Nat.log2 significand : Int) / 3 + 1
    if 400 < exponent then .infinite negative
    else if exponent + size < -400 then zero negative
    else if 0 ≤ exponent then ofRatio negative (significand * 10 ^ exponent.toNat) 1
    else ofRatio negative significand (10 ^ (-exponent).toNat)

end Binary64
end WorkQuery
