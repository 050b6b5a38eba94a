import WorkQuery.Decimal.Binary64
import WorkQuery.Numeral

/-!
# WorkQuery.Decimal.Shortest

Decimal text of a binary floating-point number. The shortest form has the fewest digits that read
back as the same number, and of those the digits nearest to it; the fixed form has a set number of
places after the point.
-/

namespace WorkQuery
namespace Binary64

/-- Digits `d₁d₂…` of the number `0.d₁d₂… · 10 ^ point`. -/
structure Digits where
  digits : List Char
  point : Int

/-- The least `k` with `num / den < 10 ^ k`; both numbers are positive. -/
def decimalPoint (num den : Nat) : Int :=
  if den ≤ num then ((Numeral.digits (num / den)).length : Int)
  else
    let guess := (Numeral.digits den).length - (Numeral.digits num).length
    let down := if den ≤ num * 10 ^ guess then guess else guess + 1
    1 - (down : Int)

/-- The whole number of units `10 ^ unit` nearest to `num / den` among the two beside it that lie
within the interval, if one does. The interval's ends are given as numerators over `den`. -/
def gridPoint? (num den low high : Nat) (closed : Bool) (unit : Int) : Option Nat :=
  let (scale, step) := if 0 ≤ unit then (1, 10 ^ unit.toNat) else (10 ^ (-unit).toNat, 1)
  let below := num * scale / (den * step)
  let inside (n : Nat) : Bool :=
    let v := n * step * den
    if closed then low * scale ≤ v && v ≤ high * scale
    else low * scale < v && v < high * scale
  let distanceBelow := num * scale - below * step * den
  let distanceAbove := (below + 1) * step * den - num * scale
  match inside below, inside (below + 1) with
  | true, true =>
    if distanceBelow < distanceAbove then some below
    else if distanceAbove < distanceBelow then some (below + 1)
    else if below % 2 = 0 then some below else some (below + 1)
  | true, false => some below
  | false, true => some (below + 1)
  | false, false => none

/-- The first count of digits, from `count` on, whose grid has a point in the interval. -/
def firstGrid (num den low high : Nat) (closed : Bool) (point : Int) : Nat → Nat → Digits
  | _, 0 => ⟨['0'], 1⟩
  | count, fuel + 1 =>
    match gridPoint? num den low high closed (point - count) with
    | some n =>
      let all := Numeral.digits n
      let kept := (all.reverse.dropWhile (· == '0')).reverse
      ⟨kept, point - count + all.length⟩
    | none => firstGrid num den low high closed point (count + 1) fuel

/-- The fewest digits that read back as the finite number; `0` for zero. -/
def shortestDigits (mantissa : Nat) (exponent : Int) : Digits :=
  if mantissa = 0 then ⟨['0'], 1⟩
  else
    let (num, den) := magnitude (4 * mantissa) (exponent - 2)
    let unit := num / (4 * mantissa)
    let narrow := mantissa = 2 ^ (52 : Nat) ∧ minExponent < exponent
    let low := num - (if narrow then 1 else 2) * unit
    let high := num + 2 * unit
    firstGrid num den low high (mantissa % 2 == 0) (decimalPoint num den) 1 17

def zeros (n : Nat) : List Char := List.replicate n '0'

/-- Positional notation, without a point if no digit follows it. -/
def Digits.positional (d : Digits) : List Char :=
  let n := d.digits.length
  if d.point ≤ 0 then '0' :: '.' :: zeros (-d.point).toNat ++ d.digits
  else if (n : Int) ≤ d.point then d.digits ++ zeros (d.point.toNat - n)
  else d.digits.take d.point.toNat ++ '.' :: d.digits.drop d.point.toNat

/-- Notation with an exponent. -/
def Digits.scientific (d : Digits) : List Char :=
  let tail := match d.digits with
    | [c] => [c]
    | c :: rest => c :: '.' :: rest
    | [] => []
  tail ++ 'e' :: (Numeral.intText (d.point - 1)).toList

/-- Shortest text in positional notation; whole numbers have no point. -/
def positionalText : Binary64 → String
  | .finite negative m e =>
    String.ofList ((if negative then ['-'] else []) ++ (shortestDigits m e).positional)
  | .infinite negative => if negative then "-inf" else "inf"
  | .nan => "NaN"

/-- Whether the finite number is whole. -/
def isWhole (mantissa : Nat) (exponent : Int) : Bool :=
  0 ≤ exponent || mantissa % 2 ^ (-exponent).toNat == 0

/-- Shortest text of a finite number as JSON writes it: whole numbers end in `.0`, and numbers
from `10 ^ 16` up or below `10 ^ -5` have an exponent. -/
def jsonText : Binary64 → String
  | .finite negative m e =>
    let d := shortestDigits m e
    let body :=
      if m = 0 then ['0', '.', '0']
      else if -5 < d.point ∧ d.point ≤ 16 then
        if (d.digits.length : Int) ≤ d.point then d.positional ++ ['.', '0'] else d.positional
      else d.scientific
    String.ofList ((if negative then ['-'] else []) ++ body)
  | _ => "null"

/-- Text with `places` digits after the point, a half to the even neighbour. -/
def fixedText (places : Nat) : Binary64 → String
  | .finite negative m e =>
    let (num, den) := magnitude m e
    let n := roundDiv (num * 10 ^ places) den
    let whole := Numeral.digits (n / 10 ^ places)
    let tail := if places = 0 then [] else '.' :: Numeral.padded places (n % 10 ^ places)
    String.ofList ((if negative then ['-'] else []) ++ whole ++ tail)
  | .infinite negative => if negative then "-inf" else "inf"
  | .nan => "NaN"

end Binary64
end WorkQuery
