import WorkQuery.Decimal.Binary64

/-!
# WorkQuery.Data.Basic

Structured data as JSON and TOML texts write it. The members of a record keep the order and the
repetitions of the text; what a repetition means is decided where a record is decoded.
-/

namespace WorkQuery

inductive Data where
  | null
  | bool (value : Bool)
  | integer (value : Int)
  | float (value : Binary64)
  | string (value : String)
  | list (items : List Data)
  | record (members : List (String × Data))
  /-- Well formed as text, but no value can hold it: a number out of range, half of a surrogate
  pair, or a date. -/
  | unreadable

namespace Data

def ofNat (n : Nat) : Data := .integer n

def ofStrings (items : List String) : Data := .list (items.map .string)

/-- The value, or null where there is none. -/
def ofOption {α : Type} (encode : α → Data) : Option α → Data
  | some a => encode a
  | none => .null

/-- The member, unless there is no value. -/
def member? {α : Type} (name : String) (encode : α → Data) : Option α → List (String × Data)
  | some a => [(name, encode a)]
  | none => []

/-- The member, unless the list is empty. -/
def listMember? {α : Type} (name : String) (encode : α → Data) : List α → List (String × Data)
  | [] => []
  | items => [(name, .list (items.map encode))]

/-- The last member of that name, if the value is a record that has one. -/
def get? (name : String) : Data → Option Data
  | .record members => (members.reverse.find? fun m => m.1 == name).map (·.2)
  | _ => none

end Data
end WorkQuery
