import WorkQuery.Filter.Basic

/-!
# WorkQuery.Filter.Builder

Ways to add the conditions that users ask for to a filter.
-/

namespace WorkQuery
namespace ItemFilter

def withIds (f : ItemFilter) (ids : List Nat) : ItemFilter := { f with ids := f.ids ++ ids }

def withPredicate (f : ItemFilter) (p : Predicate) : ItemFilter :=
  { f with predicates := f.predicates ++ [p] }

/-- A condition on one field with a single value. -/
def withSingle (f : ItemFilter) (field : String) (op : Operator) (value : Literal) : ItemFilter :=
  f.withPredicate ⟨field, op, .single value⟩

/-- A condition with `one` for a single text and with `many` for several; none for no text. -/
def withAny (f : ItemFilter) (field : String) (one many : Operator) : List String → ItemFilter
  | [] => f
  | [value] => f.withSingle field one (.text value)
  | values => f.withPredicate ⟨field, many, .list (values.map .text)⟩

def withWorkItemTypes (f : ItemFilter) (types : List String) : ItemFilter :=
  f.withAny Reference.workItemType .eq .inList types

def withStatesIn (f : ItemFilter) (states : List String) : ItemFilter :=
  f.withAny Reference.state .eq .inList states

def withStatesNotIn (f : ItemFilter) (states : List String) : ItemFilter :=
  f.withAny Reference.state .ne .notInList states

/-- Priorities between two bounds, both included. -/
def withPriorityRange (f : ItemFilter) (low high : Int) : ItemFilter :=
  if low = high then f.withSingle Reference.priority .eq (.integer low)
  else (f.withSingle Reference.priority .ge (.integer low)).withSingle Reference.priority .le
    (.integer high)

def withTag (f : ItemFilter) (tag : String) : ItemFilter :=
  f.withSingle Reference.tags .contains (.text tag)

/-- Items in an area or below it. -/
def withAreaPath (f : ItemFilter) (path : String) : ItemFilter :=
  f.withSingle Reference.areaPath .under (.text path)

/-- Items in an iteration or below it. -/
def withIterationPath (f : ItemFilter) (path : String) : ItemFilter :=
  f.withSingle Reference.iterationPath .under (.text path)

/-- Items of one person; `me` is the current user. -/
def withAssignee (f : ItemFilter) (who : String) : ItemFilter :=
  f.withSingle Reference.assignedTo .eq (.text who)

def withDateWindow (f : ItemFilter) (w : DateWindow) : ItemFilter := { f with dateWindow := some w }

def withFreeText (f : ItemFilter) (term : String) : ItemFilter :=
  { f with freeTextTerms := f.freeTextTerms ++ [term] }

def withComments (f : ItemFilter) (yes : Bool) : ItemFilter :=
  { f with extras := { f.extras with comments := yes } }

def withHistory (f : ItemFilter) (yes : Bool) : ItemFilter :=
  { f with extras := { f.extras with history := yes } }

def withSort (f : ItemFilter) (field : String) (direction : SortDirection) : ItemFilter :=
  { f with sort := some ⟨field, direction⟩ }

def withMaxItems (f : ItemFilter) (cap : Nat) : ItemFilter := { f with maxItems := some cap }

end ItemFilter
end WorkQuery
