import WorkQuery.Data.Decode
import WorkQuery.Query.Statement

/-!
# WorkQuery.Query.Caps

How many items a query may return.
-/

namespace WorkQuery

/-- Numbers of items: what a filter gets that asks for none, and the most that one may ask for. -/
structure ResultCaps where
  standard : Nat := 150
  most : Nat := 1000
  deriving DecidableEq, Repr

namespace ResultCaps

/-- Few items, for slow connections. -/
def aggressive : ResultCaps := ⟨50, 250⟩

/-- Many items, up to the store's limit. -/
def lenient : ResultCaps := ⟨500, storeLimit⟩

inductive Fault where
  | standardZero
  | mostBelowStandard
  | aboveStoreLimit
  deriving DecidableEq, Repr

def Fault.message : Fault → String
  | .standardZero => "default_result_cap must be greater than 0"
  | .mostBelowStandard => "max_result_cap cannot be below default_result_cap"
  | .aboveStoreLimit =>
    "max_result_cap cannot exceed the store limit of " ++ Numeral.natText storeLimit

def fault? (c : ResultCaps) : Option Fault :=
  if c.standard = 0 then some .standardZero
  else if c.most < c.standard then some .mostBelowStandard
  else if storeLimit < c.most then some .aboveStoreLimit
  else none

/-- The number of items for a filter that asks for `requested`. -/
def effective (c : ResultCaps) (requested : Option Nat) : Nat :=
  min (min (requested.getD c.standard) c.most) storeLimit

def toData (c : ResultCaps) : Data :=
  .record [("default_result_cap", .ofNat c.standard), ("max_result_cap", .ofNat c.most)]

def ofData? (d : Data) : Option ResultCaps :=
  let missing : ResultCaps := {}
  match d.settings? ["default_result_cap", "max_result_cap"] with
  | some [standard, most] => do
    return ⟨← Data.withDefault? missing.standard Data.uint64? standard,
      ← Data.withDefault? missing.most Data.uint64? most⟩
  | _ => none

end ResultCaps
end WorkQuery
