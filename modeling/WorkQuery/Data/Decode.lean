import WorkQuery.Data.Basic
import WorkQuery.Numeral

/-!
# WorkQuery.Data.Decode

Decoding of structured data. A record may be given by its fields' names or as a list of its fields
in order; a field given twice is refused; a field with a default may be left out.
-/

namespace WorkQuery
namespace Data

def string? : Data → Option String
  | .string s => some s
  | _ => none

def bool? : Data → Option Bool
  | .bool b => some b
  | _ => none

/-- A natural number up to `bound`. -/
def natUpTo? (bound : Nat) : Data → Option Nat
  | .integer (.ofNat n) => if n ≤ bound then some n else none
  | _ => none

def uint64? (d : Data) : Option Nat := natUpTo? Numeral.maxUInt64 d

def uint32? (d : Data) : Option Nat := natUpTo? Numeral.maxUInt32 d

def int64? : Data → Option Int
  | .integer n => if Numeral.isInt64 n then some n else none
  | _ => none

/-- A floating-point number; whole numbers count. -/
def float? : Data → Option Binary64
  | .float x => some x
  | .integer n => some (Binary64.ofRatio (n < 0) n.natAbs 1)
  | _ => none

/-- A list, every item decoded. -/
def list? {α : Type} (decode : Data → Option α) : Data → Option (List α)
  | .list items => items.mapM decode
  | _ => none

/-- A value, or null for none. -/
def optional? {α : Type} (decode : Data → Option α) : Data → Option (Option α)
  | .null => some none
  | d => (decode d).map some

/-- One of a set of names, given as a text or as a record from the name to null. -/
def name? : Data → Option String
  | .string s => some s
  | .record [(name, .null)] => some name
  | _ => none

/-- One of a set of names in a settings file, given as a text or as a record from the name to
nothing. -/
def choice? : Data → Option String
  | .record [(name, .record [])] => some name
  | .record [(name, .list [])] => some name
  | d => d.name?

/-- The fields of a record in order, absent ones as `none`. Any other member is refused if `closed`
and read over if not. -/
def fields? (closed : Bool) (names : List String) : Data → Option (List (Option Data))
  | .record members =>
    let known := members.filter fun m => names.contains m.1
    if closed && known.length != members.length then none
    else if (known.map (·.1)).Nodup then
      some (names.map fun name => (known.find? fun m => m.1 == name).map (·.2))
    else none
  | .list items =>
    if names.length < items.length then none
    else some (items.map some ++ List.replicate (names.length - items.length) none)
  | _ => none

/-- The fields of a record in a settings file, where nothing is too much: members of other names and
items past the last field are read over. -/
def settings? (names : List String) : Data → Option (List (Option Data))
  | .list items => fields? false names (.list (items.take names.length))
  | d => fields? false names d

/-- A field that has to be there. -/
def required? {α : Type} (decode : Data → Option α) (field : Option Data) : Option α :=
  field.bind decode

/-- A field that stands for `value` when it is left out. -/
def withDefault? {α : Type} (value : α) (decode : Data → Option α) : Option Data → Option α
  | none => some value
  | some d => decode d

/-- A field for which both leaving it out and null mean none. -/
def maybe? {α : Type} (decode : Data → Option α) : Option Data → Option (Option α)
  | none => some none
  | some d => optional? decode d

end Data
end WorkQuery
