import WorkQuery.Data.Basic
import WorkQuery.Numeral

/-!
# WorkQuery.Data.JsonReader

Reading of JSON text. Nothing but blanks may follow the value. Numbers out of range and half
surrogate pairs are data that no decoder accepts, so that a part of the text nobody asks for is
held to the grammar alone.

A number without point and exponent is an integer if 64 bits hold it, and minus zero is not one. Of
any other number a digit is taken into a 64-bit significand while that can hold it; digits before
the point that are left over raise the exponent, taken ones after the point lower it, and then one
power of ten scales the significand.
-/

namespace WorkQuery
namespace Data
namespace Json

/-- A number as written: sign, digits before the point, digits after it, and the exponent. -/
structure Number where
  negative : Bool
  whole : Nat
  fraction : List Char
  exponent : Option Int

/-- The integer, if this is one that 64 bits hold. -/
def Number.toInt? (n : Number) : Option Int :=
  if !n.fraction.isEmpty || n.exponent.isSome then none
  else if n.negative then
    if n.whole = 0 || Numeral.maxInt64 + 1 < n.whole then none else some (-(n.whole : Int))
  else if n.whole ≤ Numeral.maxUInt64 then some n.whole
  else none

/-- Digits taken into a 64-bit significand while it can hold them; then how many were taken. -/
def significand : Nat → List Char → Nat × Nat
  | acc, [] => (acc, 0)
  | acc, c :: rest =>
    let next := acc * 10 + (c.toNat - 48)
    if next ≤ Numeral.maxUInt64 then
      let (total, taken) := significand next rest
      (total, taken + 1)
    else (acc, 0)

/-- The number times a power of ten, down by 308 places at a time. It is absent above the range of
the numbers. -/
def scale? (x : Binary64) (exponent : Int) : Nat → Option Binary64
  | 0 => some x
  | fuel + 1 =>
    if exponent.natAbs ≤ 308 then
      let power := Binary64.ofNat (10 ^ exponent.natAbs)
      if 0 ≤ exponent then
        match x.mul power with
        | .infinite _ => none
        | y => some y
      else some (x.div power)
    else if x.same (Binary64.zero false) then some x
    else if 0 ≤ exponent then none
    else scale? (x.div (Binary64.ofNat (10 ^ 308))) (exponent + 308) fuel

/-- Largest exponent that is counted exactly. -/
def maxExponent : Nat := 2147483647

/-- The floating-point number, unless it is above the range. -/
def Number.toFloat? (n : Number) : Option Binary64 :=
  let wholeDigits := Numeral.digits n.whole
  let (high, taken) := significand 0 wholeDigits
  let dropped := wholeDigits.length - taken
  let (total, places) := significand high n.fraction
  let start : Int := dropped - places
  let signed (x : Binary64) : Binary64 := if n.negative then x.neg else x
  match n.exponent with
  | some e =>
    if maxExponent < e.natAbs then
      if total = 0 || e < 0 then some (signed (Binary64.zero false)) else none
    else (scale? (Binary64.ofNat total) (start + e) (e.natAbs + 400)).map signed
  | none => (scale? (Binary64.ofNat total) start (start.natAbs + 400)).map signed

def Number.toData (n : Number) : Data :=
  match n.toInt? with
  | some i => .integer i
  | none =>
    match n.toFloat? with
    | some x => .float x
    | none => .unreadable

/-- A blank between tokens. -/
def isBlank (c : Char) : Bool := c == ' ' || c == '\n' || c == '\t' || c == '\r'

def skipBlanks (cs : List Char) : List Char := cs.dropWhile isBlank

def hex4? (a b c d : Char) : Option Nat := do
  let high := (← Numeral.hexDigit? a) * 16 + (← Numeral.hexDigit? b)
  let low := (← Numeral.hexDigit? c) * 16 + (← Numeral.hexDigit? d)
  return high * 256 + low

def isHighSurrogate (n : Nat) : Bool := 0xD800 ≤ n && n < 0xDC00

def isLowSurrogate (n : Nat) : Bool := 0xDC00 ≤ n && n < 0xE000

/-- The character that a letter after a backslash stands for. -/
def simpleEscape? (c : Char) : Option Char :=
  match c with
  | '"' => some '"'
  | '\\' => some '\\'
  | '/' => some '/'
  | 'b' => some (Char.ofNat 8)
  | 'f' => some (Char.ofNat 12)
  | 'n' => some '\n'
  | 'r' => some '\r'
  | 't' => some '\t'
  | _ => none

/-- The body of a string up to its closing quote. The body is absent when half a surrogate pair
occurs in it. -/
def scanString? : List Char → Option (Option (List Char) × List Char)
  | '"' :: rest => some (some [], rest)
  | '\\' :: 'u' :: a :: b :: c :: d :: rest =>
    match hex4? a b c d with
    | none => none
    | some unit =>
      if isHighSurrogate unit then
        match rest with
        | '\\' :: 'u' :: e :: f :: g :: h :: rest' =>
          match hex4? e f g h with
          | none => none
          | some low =>
            if isLowSurrogate low then
              let char := Char.ofNat (0x10000 + (unit - 0xD800) * 0x400 + (low - 0xDC00))
              (scanString? rest').map fun (body, rest) => (body.map (char :: ·), rest)
            else
              (scanString? ('\\' :: 'u' :: e :: f :: g :: h :: rest')).map
                fun (_, rest) => (none, rest)
        | rest => (scanString? rest).map fun (_, rest) => (none, rest)
      else if isLowSurrogate unit then
        (scanString? rest).map fun (_, rest) => (none, rest)
      else
        (scanString? rest).map fun (body, rest) => (body.map (Char.ofNat unit :: ·), rest)
  | '\\' :: c :: rest =>
    match simpleEscape? c with
    | some char => (scanString? rest).map fun (body, rest) => (body.map (char :: ·), rest)
    | none => none
  | c :: rest =>
    if c.toNat < 0x20 || c == '\\' then none
    else (scanString? rest).map fun (body, rest) => (body.map (c :: ·), rest)
  | [] => none
termination_by cs => cs.length

def scanDigits? (cs : List Char) : Option (List Char × List Char) :=
  let run := cs.takeWhile Char.isDigit
  if run.isEmpty then none else some (run, cs.drop run.length)

/-- The digits before the point: `0`, or digits that do not begin with it. -/
def scanWhole? (cs : List Char) : Option (Nat × List Char) :=
  match scanDigits? cs with
  | some (run, rest) =>
    if run.head? = some '0' ∧ 1 < run.length then none
    else some (Nat.ofDigitChars 10 run 0, rest)
  | none => none

/-- The digits after a point, if one comes next. -/
def scanFraction? (cs : List Char) : Option (List Char × List Char) :=
  match cs with
  | '.' :: rest => scanDigits? rest
  | _ => some ([], cs)

/-- The exponent, if one comes next. -/
def scanExponent? (cs : List Char) : Option (Option Int × List Char) :=
  match cs with
  | c :: rest =>
    if c = 'e' ∨ c = 'E' then
      let (negative, rest) := match rest with
        | '-' :: tail => (true, tail)
        | '+' :: tail => (false, tail)
        | _ => (false, rest)
      (scanDigits? rest).map fun (run, rest) =>
        let n : Int := (Nat.ofDigitChars 10 run 0 : Nat)
        (some (if negative then -n else n), rest)
    else some (none, cs)
  | [] => some (none, [])

def scanNumber? (cs : List Char) : Option (Number × List Char) := do
  let (negative, cs) := match cs with
    | '-' :: rest => (true, rest)
    | _ => (false, cs)
  let (whole, cs) ← scanWhole? cs
  let (fraction, cs) ← scanFraction? cs
  let (exponent, cs) ← scanExponent? cs
  return (⟨negative, whole, fraction, exponent⟩, cs)

mutual

/-- One value and what follows it. -/
def scanValue? : Nat → List Char → Option (Data × List Char)
  | 0, _ => none
  | fuel + 1, cs =>
    match skipBlanks cs with
    | 'n' :: 'u' :: 'l' :: 'l' :: rest => some (.null, rest)
    | 't' :: 'r' :: 'u' :: 'e' :: rest => some (.bool true, rest)
    | 'f' :: 'a' :: 'l' :: 's' :: 'e' :: rest => some (.bool false, rest)
    | '"' :: rest =>
      match scanString? rest with
      | some (some body, rest) => some (.string (String.ofList body), rest)
      | some (none, rest) => some (.unreadable, rest)
      | none => none
    | '[' :: rest =>
      match skipBlanks rest with
      | ']' :: rest => some (.list [], rest)
      | _ =>
        match scanItems? fuel rest with
        | some (items, rest) => some (.list items, rest)
        | none => none
    | '{' :: rest =>
      match skipBlanks rest with
      | '}' :: rest => some (.record [], rest)
      | _ =>
        match scanMembers? fuel rest with
        | some (some members, rest) => some (.record members, rest)
        | some (none, rest) => some (.unreadable, rest)
        | none => none
    | rest =>
      match scanNumber? rest with
      | some (n, rest) => some (n.toData, rest)
      | none => none

/-- The items of an array, from its first to its closing bracket. -/
def scanItems? : Nat → List Char → Option (List Data × List Char)
  | 0, _ => none
  | fuel + 1, cs =>
    match scanValue? fuel cs with
    | none => none
    | some (item, rest) =>
      match skipBlanks rest with
      | ',' :: rest =>
        match scanItems? fuel rest with
        | some (items, rest) => some (item :: items, rest)
        | none => none
      | ']' :: rest => some ([item], rest)
      | _ => none

/-- The members of an object, from its first to its closing brace. They are absent when the name
of one cannot be read. -/
def scanMembers? : Nat → List Char → Option (Option (List (String × Data)) × List Char)
  | 0, _ => none
  | fuel + 1, cs =>
    match skipBlanks cs with
    | '"' :: rest =>
      match scanString? rest with
      | none => none
      | some (name, rest) =>
        match skipBlanks rest with
        | ':' :: rest =>
          match scanValue? fuel rest with
          | none => none
          | some (value, rest) =>
            let member? := name.map fun body => (String.ofList body, value)
            match skipBlanks rest with
            | ',' :: rest =>
              match scanMembers? fuel rest with
              | some (members, rest) =>
                some (member?.bind fun m => members.map (m :: ·), rest)
              | none => none
            | '}' :: rest => some (member?.map fun m => [m], rest)
            | _ => none
        | _ => none
    | _ => none

end

/-- The value that the whole text writes. -/
def ofChars? (cs : List Char) : Option Data :=
  match scanValue? (2 * cs.length + 2) cs with
  | some (value, rest) => if (skipBlanks rest).isEmpty then some value else none
  | none => none

end Json

/-- The value that a JSON text writes. -/
def ofJsonText? (text : String) : Option Data := Json.ofChars? text.toList

end Data
end WorkQuery
