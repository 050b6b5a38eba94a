import WorkQuery.Numeral
import WorkQuery.Text.Blank

/-!
# WorkQuery.Session.Id

Identifiers of sessions: numbers of 128 bits, written in hexadecimal in five groups with hyphens
between them.
-/

namespace WorkQuery

structure SessionId where
  value : Nat
  deriving DecidableEq, Repr

namespace SessionId

/-- Identifiers are below this number. -/
def bound : Nat := 2 ^ (128 : Nat)

/-- The number that hexadecimal digits write, after the digits of `acc`. -/
def readHex? (acc : Nat) : List Char → Option Nat
  | [] => some acc
  | c :: rest =>
    match Numeral.hexDigit? c with
    | some d => readHex? (acc * 16 + d) rest
    | none => none

/-- The last `count` hexadecimal digits of a number. -/
def hexDigits (n : Nat) : Nat → List Char
  | 0 => []
  | count + 1 => hexDigits (n / 16) count ++ [Nat.digitChar (n % 16)]

def groupSizes : List Nat := [8, 4, 4, 4, 12]

/-- The characters in groups of these sizes. -/
def groups : List Nat → List Char → List (List Char)
  | [], _ => []
  | size :: sizes, cs => cs.take size :: groups sizes (cs.drop size)

/-- Written form: groups with hyphens between them. -/
def text (id : SessionId) : String :=
  String.ofList (Text.joinChars ['-'] (groups groupSizes (hexDigits id.value 32)))

/-- The identifier that 32 digits write. -/
def ofDigits? (cs : List Char) : Option SessionId :=
  if cs.length = 32 then (readHex? 0 cs).map SessionId.mk else none

/-- The identifier that groups of digits with hyphens between them write. -/
def ofGroups? (cs : List Char) : Option SessionId :=
  let pieces := Text.splitWhere (· == '-') cs
  if pieces.map List.length = groupSizes then ofDigits? pieces.flatten else none

/-- The identifier that a text writes: groups, bare digits, groups in braces, or groups as a name
of the `uuid` space. Blanks around it do not count. -/
def ofText? (s : String) : Option SessionId :=
  let cs := Text.trimChars s.toList
  if cs.length = 32 then ofDigits? cs
  else if cs.length = 36 then ofGroups? cs
  else if cs.length = 38 ∧ cs.head? = some '{' ∧ cs.getLast? = some '}' then
    ofGroups? cs.tail.dropLast
  else (Text.dropPrefix? "urn:uuid:".toList cs).bind ofGroups?

/-- The identifier of that value, if 128 bits hold it. -/
def ofValue? (n : Nat) : Option SessionId := if n < bound then some ⟨n⟩ else none

end SessionId
end WorkQuery
