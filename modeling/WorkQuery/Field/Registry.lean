import WorkQuery.Field.Standard
import WorkQuery.Text.Blank
import WorkQuery.Text.Caseless
import WorkQuery.Text.Lowercase

/-!
# WorkQuery.Field.Registry

The fields that can be asked for, found by reference name, friendly name or alias, and the
vocabulary of work item types. A registry is built from the standard one by adding entries; a later
entry replaces an earlier one of the same key.
-/

namespace WorkQuery

/-- A field: its reference name and the type of its values. -/
structure FieldDef where
  reference : String
  valueType : ValueType
  deriving DecidableEq, Repr

/-- Key-value pairs in order of insertion, one for each key. -/
abbrev Entries (α : Type) := List (String × α)

namespace Entries

/-- Replaces the value under the key, or adds the pair at the end. -/
def insert {α : Type} (key : String) (value : α) : Entries α → Entries α
  | [] => [(key, value)]
  | (k, v) :: rest => if k = key then (key, value) :: rest else (k, v) :: insert key value rest

def find? {α : Type} (key : String) : Entries α → Option α
  | [] => none
  | (k, v) :: rest => if k = key then some v else find? key rest

end Entries

/-- Fields by reference name and by friendly key, aliases of keys, and work item types by key. The
reference names are keys in lowercase. -/
structure Registry where
  byReference : Entries FieldDef
  byKey : Entries FieldDef
  aliases : Entries String
  types : Entries String

/-- What became of the name of a work item type. -/
structure TypeResolution where
  /-- The name in the store, or the given name where there is none. -/
  name : String
  /-- Whether the vocabulary has the name. -/
  mapped : Bool
  deriving DecidableEq, Repr

namespace Registry

/-- The key of a friendly name: lowercase, without spaces, dashes and underscores. -/
def friendlyKey (name : String) : String :=
  String.ofList (Text.lowerEach (name.toList.filter fun c => c != ' ' && c != '-' && c != '_'))

/-- Adds a field under a key and under its reference name. -/
def insert (r : Registry) (key : String) (field : FieldDef) : Registry :=
  { r with
    byReference := r.byReference.insert (Text.lower field.reference) field
    byKey := r.byKey.insert key field }

/-- Adds a field under a friendly name. -/
def withField (r : Registry) (name : String) (field : FieldDef) : Registry :=
  r.insert (friendlyKey name) field

/-- Adds a synonym of a work item type. -/
def withTypeSynonym (r : Registry) (synonym canonical : String) : Registry :=
  { r with types := r.types.insert (friendlyKey synonym) canonical }

def standard : Registry :=
  Standard.fields.foldl (fun r (key, reference, valueType) => r.insert key ⟨reference, valueType⟩)
    { byReference := [], byKey := [], aliases := Standard.aliases, types := Standard.workItemTypes }

instance : Inhabited Registry := ⟨standard⟩

/-- The text between a bracket at its start and one at its end, if it has both. -/
def unbracketed (cs : List Char) : List Char :=
  match cs with
  | '[' :: rest => if rest.getLast? = some ']' then rest.dropLast else cs
  | _ => cs

/-- The field of a reference name, in brackets or not, of a friendly name or of an alias. Case does
not matter, nor do spaces, dashes and underscores in friendly names. -/
def resolve? (r : Registry) (name : String) : Option FieldDef :=
  let bare := String.ofList (unbracketed (Text.trimChars name.toList))
  match r.byReference.find? (Text.lower bare) with
  | some field => some field
  | none =>
    let key := friendlyKey bare
    r.byKey.find? ((r.aliases.find? key).getD key)

/-- The text without `suffix` at its end, if it ends so. -/
def dropSuffix? (suffix cs : List Char) : Option (List Char) :=
  (Text.dropPrefix? suffix.reverse cs.reverse).map List.reverse

/-- Keys under which a type name is looked up: as it is, and its two kinds of singular. -/
def typeKeys (name : String) : List String :=
  let key := friendlyKey name
  let ies := (dropSuffix? ['i', 'e', 's'] key.toList).map fun stem => String.ofList (stem ++ ['y'])
  let s := (dropSuffix? ['s'] key.toList).map String.ofList
  key :: (ies.toList ++ s.toList)

/-- The store's name of a work item type: of a synonym in singular or plural, or of that name itself
in any case. -/
def normalizeWorkItemType (r : Registry) (name : String) : TypeResolution :=
  match (typeKeys name).findSome? fun key => r.types.find? key with
  | some canonical => ⟨canonical, true⟩
  | none =>
    match (r.types.map (·.2)).find? fun t => Text.sameIgnoringCase t (Text.trim name) with
    | some canonical => ⟨canonical, true⟩
    | none => ⟨name, false⟩

/-- Every field, in order of reference names. -/
def fields (r : Registry) : List FieldDef :=
  (r.byReference.map (·.2)).mergeSort fun a b => a.reference ≤ b.reference

end Registry
end WorkQuery
