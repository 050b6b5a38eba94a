import WorkQuery.Field.ValueType
import WorkQuery.Text.Blank
import WorkQuery.Text.Caseless

/-!
# WorkQuery.Field.Operator

Comparison operators, their spelling, and the types of fields each one applies to.
-/

namespace WorkQuery

/-- A comparison of a field with a value or with a list of values. -/
inductive Operator where
  | eq
  | ne
  | gt
  | lt
  | ge
  | le
  | inList
  | notInList
  | contains
  | notContains
  | containsWords
  | notContainsWords
  | under
  | notUnder
  deriving DecidableEq, Repr

namespace Operator

/-- Every operator, in the order in which they are listed. -/
def all : List Operator :=
  [.eq, .ne, .gt, .lt, .ge, .le, .inList, .notInList, .contains, .notContains, .containsWords,
    .notContainsWords, .under, .notUnder]

def token : Operator → String
  | .eq => "="
  | .ne => "<>"
  | .gt => ">"
  | .lt => "<"
  | .ge => ">="
  | .le => "<="
  | .inList => "IN"
  | .notInList => "NOT IN"
  | .contains => "CONTAINS"
  | .notContains => "NOT CONTAINS"
  | .containsWords => "CONTAINS WORDS"
  | .notContainsWords => "NOT CONTAINS WORDS"
  | .under => "UNDER"
  | .notUnder => "NOT UNDER"

/-- Whether a list of values in parentheses follows. -/
def takesList : Operator → Bool
  | .inList | .notInList => true
  | _ => false

/-- Whether the operator restricts a field to the values listed. -/
def pinsValue : Operator → Bool
  | .eq | .inList => true
  | _ => false

/-- Whether the operator searches within a text or a tree, where a blank value makes no sense. -/
def isSearch : Operator → Bool
  | .contains | .notContains | .containsWords | .notContainsWords | .under | .notUnder => true
  | _ => false

/-- Spellings besides the token. -/
def synonyms : List (String × Operator) := [("==", .eq), ("!=", .ne)]

/-- The operator spelled by a text, in any case and with any blanks between its words. -/
def ofText? (s : String) : Option Operator :=
  let spelling := String.ofList ((Text.join " " (Text.words s)).toList.map Text.asciiCapital)
  match all.find? fun op => op.token == spelling with
  | some op => some op
  | none => synonyms.lookup spelling

end Operator

/-- Whether the operator applies to a field of this type. -/
def ValueType.accepts : ValueType → Operator → Bool
  | .string, op => [.eq, .ne, .inList, .notInList, .contains, .notContains].contains op
  | .identity, op => [.eq, .ne, .inList, .notInList].contains op
  | .integer, op => [.eq, .ne, .gt, .lt, .ge, .le, .inList, .notInList].contains op
  | .dateTime, op => [.eq, .ne, .gt, .lt, .ge, .le].contains op
  | .treePath, op => [.under, .notUnder].contains op
  | .plainText, op => [.containsWords, .notContainsWords].contains op

/-- The operators that apply to a field of this type. -/
def ValueType.operators (t : ValueType) : List Operator := Operator.all.filter t.accepts

end WorkQuery
