import WorkQuery.Text.Blank
import WorkQuery.Text.WordChar

/-!
# WorkQuery.Text.Pattern

Patterns of text. A pattern has a list of outcomes at each place, in order of preference: an
alternative before the ones after it, a longer repetition before a shorter one. The match at a place
is the first outcome, and the match in a text is the one at the first place that has any.
-/

namespace WorkQuery

inductive Pattern where
  | empty
  /-- At least `least` and at most `most` characters of a class. -/
  | run (accepts : Char → Bool) (least : Nat) (most : Option Nat)
  | seq (first second : Pattern)
  | either (first second : Pattern)
  /-- Zero or more of the pattern. -/
  | many (inner : Pattern)
  /-- Between a word character and anything else. -/
  | boundary
  /-- The pattern, and its text kept under a number. -/
  | capture (index : Nat) (inner : Pattern)

/-- A place in a text: the character before it, the text after it, and the texts kept so far, each
as the text from its start and the text from its end. -/
structure Place where
  before : Option Char
  rest : List Char
  kept : List (Nat × List Char × List Char)

namespace Pattern

/-- The places after up to `limit` characters of the class, farthest first; `least` of them have to
be there. -/
def runFrom (accepts : Char → Bool) (kept : List (Nat × List Char × List Char)) :
    (least limit : Nat) → Option Char → List Char → List Place → List Place
  | least, limit, before, rest, nearer =>
    let nearer := if least = 0 then ⟨before, rest, kept⟩ :: nearer else nearer
    match limit, rest with
    | limit + 1, c :: tail =>
      if accepts c then runFrom accepts kept (least - 1) limit (some c) tail nearer else nearer
    | _, _ => nearer
termination_by structural _ limit => limit

/-- The places after up to `limit` steps, those after more steps first. -/
def iterate (step : Place → List Place) : Nat → Place → List Place
  | 0, place => [place]
  | limit + 1, place => (step place).flatMap (iterate step limit) ++ [place]

/-- Whether the place lies between a word character and anything else. -/
def isBoundary (place : Place) : Bool :=
  let left := (place.before.map Text.isWordChar).getD false
  let right := (place.rest.head?.map Text.isWordChar).getD false
  left != right

/-- The places at which the pattern can end, the preferred one first. -/
def outcomes : Pattern → Place → List Place
  | .empty, place => [place]
  | .run accepts least most, place =>
    runFrom accepts place.kept least (most.getD place.rest.length) place.before place.rest []
  | .seq first second, place => (first.outcomes place).flatMap second.outcomes
  | .either first second, place => first.outcomes place ++ second.outcomes place
  | .many inner, place => iterate inner.outcomes place.rest.length place
  | .boundary, place => if isBoundary place then [place] else []
  | .capture index inner, place =>
    (inner.outcomes place).map fun stop =>
      { stop with kept := (index, place.rest, stop.rest) :: stop.kept }

/-- The first match in the text `rest`, which follows the character `before`. -/
def findFrom (p : Pattern) (before : Option Char) (rest : List Char) : Option Place :=
  match p.outcomes ⟨before, rest, []⟩ with
  | place :: _ => some place
  | [] =>
    match rest with
    | [] => none
    | c :: tail => p.findFrom (some c) tail
termination_by structural rest

def find? (p : Pattern) (text : List Char) : Option Place := p.findFrom none text

/-- The matches in a text from left to right, each beginning where the one before it ended or
later. -/
def findAllFrom (p : Pattern) : Nat → Option Char → List Char → List Place
  | 0, _, _ => []
  | fuel + 1, before, rest =>
    match p.findFrom before rest with
    | none => []
    | some place => place :: p.findAllFrom fuel place.before place.rest

/-- The matches in a text from left to right, without overlap. -/
def findAll (p : Pattern) (text : List Char) : List Place :=
  p.findAllFrom (text.length + 1) none text

def occursIn (p : Pattern) (text : List Char) : Bool := (p.find? text).isSome

/-- The pattern of several patterns one after another. -/
def all : List Pattern → Pattern
  | [] => .empty
  | [p] => p
  | p :: rest => .seq p (all rest)

/-- The pattern of several alternatives. -/
def oneOf : List Pattern → Pattern
  | [] => .empty
  | [p] => p
  | p :: rest => .either p (oneOf rest)

def optional (p : Pattern) : Pattern := .either p .empty

def one (accepts : Char → Bool) : Pattern := .run accepts 1 (some 1)

def char (c : Char) : Pattern := one (· == c)

/-- Whether the character is the letter in either case. The long s is a small s, and the sign of
the kelvin unit a capital k. -/
def isLetter (letter c : Char) : Bool :=
  c.toLower == letter || (letter == 's' && c.toNat == 0x17F) || (letter == 'k' && c.toNat == 0x212A)

/-- A word in small letters, found in any case. -/
def word (w : String) : Pattern := all (w.toList.map fun letter => one (isLetter letter))

/-- Blanks, `least` or more. -/
def blanks (least : Nat) : Pattern := .run Text.isBlank least none

/-- Decimal digits, at least `least` and at most `most`. -/
def digits (least most : Nat) : Pattern := .run Text.isDecimalDigit least (some most)

end Pattern

namespace Place

/-- The text kept under a number, if the match has one. -/
def text? (place : Place) (index : Nat) : Option (List Char) :=
  (place.kept.find? fun k => k.1 == index).map fun (_, start, stop) =>
    start.take (start.length - stop.length)

/-- The text kept under a number; empty if the match has none. -/
def text (place : Place) (index : Nat) : String := String.ofList ((place.text? index).getD [])

end Place
end WorkQuery
