import WorkQuery.Data.Basic

/-!
# WorkQuery.Data.TomlTree

The tables of a TOML text while it is read. A table may be made by a header of its own, by a header
below it, or by a dotted key; whether it may be added to depends on which.
-/

namespace WorkQuery
namespace Toml

inductive Node where
  | value (d : Data)
  /-- A table; `implicit` unless it has a header of its own, `dotted` if a dotted key made it. -/
  | table (implicit dotted : Bool) (members : List (String × Node))
  /-- Tables under one name, the newest first. -/
  | tables (members : List (List (String × Node)))

/-- Names and what they name. -/
abbrev Members := List (String × Node)

namespace Members

def find? (key : String) (m : Members) : Option Node :=
  (List.find? (fun entry => entry.1 == key) m).map (·.2)

/-- With another node under a name; a new name comes last. -/
def set (key : String) (node : Node) (m : Members) : Members :=
  if m.any fun entry => entry.1 == key then
    m.map fun entry => if entry.1 == key then (key, node) else entry
  else m ++ [(key, node)]

/-- The members with a change to those at the end of a path. Tables that are missing on the way are
made. A dotted path may not go through a table that has a header of its own. The change is told
whether it is about a table that a dotted key made. -/
def within (dotted : Bool) (change : Bool → Members → Option Members) :
    Bool → List String → Members → Option Members
  | isDotted, [], m => change isDotted m
  | _, key :: path, m =>
    match m.find? key with
    | none => (within dotted change dotted path []).map fun inner =>
        m.set key (.table true dotted inner)
    | some (.table implicit isDotted inner) =>
      if dotted && !implicit then none
      else (within dotted change isDotted path inner).map fun inner =>
        m.set key (.table implicit isDotted inner)
    | some (.tables (newest :: older)) =>
      (within dotted change false path newest).map fun inner =>
        m.set key (.tables (inner :: older))
    | some _ => none

/-- With a value under a dotted key, which has to be new. -/
def insert (path : List String) (key : String) (value : Data) (m : Members) : Option Members :=
  within true
    (fun isDotted inner =>
      if isDotted == path.isEmpty || (inner.find? key).isSome then none
      else some (inner.set key (.value value)))
    false path m

/-- With the table of a header. The table may be there already, if only headers below it made it. -/
def openTable (path : List String) (key : String) (m : Members) : Option Members :=
  within false
    (fun _ inner =>
      match inner.find? key with
      | none => some (inner.set key (.table false false []))
      | some (.table true false members) => some (inner.set key (.table false false members))
      | some _ => none)
    false path m

/-- With one more table under the name of a header. -/
def addTable (path : List String) (key : String) (m : Members) : Option Members :=
  within false
    (fun _ inner =>
      match inner.find? key with
      | none => some (inner.set key (.tables [[]]))
      | some (.tables members) => some (inner.set key (.tables ([] :: members)))
      | some _ => none)
    false path m

end Members

mutual

def Node.toData : Node → Data
  | .value d => d
  | .table _ _ members => .record (membersData members)
  | .tables members => .list (tablesData members).reverse

def membersData : List (String × Node) → List (String × Data)
  | [] => []
  | (key, node) :: rest => (key, node.toData) :: membersData rest

def tablesData : List (List (String × Node)) → List Data
  | [] => []
  | members :: rest => .record (membersData members) :: tablesData rest

end

/-- One line of a text. -/
inductive Statement where
  | header (path : List String) (key : String)
  | listHeader (path : List String) (key : String)
  | member (path : List String) (key : String) (value : Data)

/-- The tables so far, and the path of the last header. -/
structure Document where
  members : Members := []
  header : List String := []

/-- The tables after one more line. -/
def Document.add (d : Document) : Statement → Option Document
  | .header path key => (d.members.openTable path key).map fun m => ⟨m, path ++ [key]⟩
  | .listHeader path key => (d.members.addTable path key).map fun m => ⟨m, path ++ [key]⟩
  | .member path key value =>
    (Members.within false (fun _ inner => inner.insert path key value) false d.header
      d.members).map fun m => { d with members := m }

/-- The record that the lines write. -/
def recordOf? (lines : List Statement) : Option Data :=
  (lines.foldlM Document.add {}).map fun d => .record (membersData d.members)

end Toml
end WorkQuery
