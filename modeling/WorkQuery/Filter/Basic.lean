import WorkQuery.Calendar.DateText
import WorkQuery.Field.Operator
import WorkQuery.Field.Reference
import WorkQuery.Filter.Period

/-!
# WorkQuery.Filter.Basic

Filters: what to retrieve, without the syntax of the query language. Fields are named as the user
names them; names are resolved and types checked when a filter is compiled.
-/

namespace WorkQuery

/-- A value in a predicate. Text also carries dates, paths and macros. -/
inductive Literal where
  | integer (value : Int)
  | text (value : String)
  deriving DecidableEq, Repr

inductive Operand where
  | list (values : List Literal)
  | single (value : Literal)
  deriving DecidableEq, Repr

structure Predicate where
  field : String
  operator : Operator
  value : Operand
  deriving DecidableEq, Repr

/-- A condition on one date field: a period, or a first day, a last day or both. -/
structure DateWindow where
  field : String := Reference.changedDate
  relative : Option RelativePeriod := none
  start : Option Date := none
  finish : Option Date := none
  deriving DecidableEq

/-- The shape of a date window; of the two days at least one is there. -/
inductive DateRange where
  | relative (period : RelativePeriod)
  | days (start finish : Option Date)
  deriving DecidableEq

/-- Why a date window has no shape. -/
inductive WindowFault where
  | mixed
  | missing
  | reversed (start finish : Date)
  deriving DecidableEq

namespace WindowFault

def message : WindowFault → String
  | .mixed => "date window mixes a relative period with absolute dates"
  | .missing => "date window has neither a period nor dates"
  | .reversed start finish =>
    "date window start " ++ start.text ++ " is after end " ++ finish.text

end WindowFault

/-- The shape of the window. -/
def DateWindow.range (w : DateWindow) : Except WindowFault DateRange :=
  match w.relative, w.start, w.finish with
  | some period, none, none => .ok (.relative period)
  | some _, _, _ => .error .mixed
  | none, none, none => .error .missing
  | none, some start, some finish =>
    if finish < start then .error (.reversed start finish)
    else .ok (.days (some start) (some finish))
  | none, start, finish => .ok (.days start finish)

/-- What to load for each item besides its fields. -/
structure Extras where
  comments : Bool := false
  history : Bool := false
  deriving DecidableEq, Repr

inductive SortDirection where
  | ascending
  | descending
  deriving DecidableEq, Repr

def SortDirection.token : SortDirection → String
  | .ascending => "ASC"
  | .descending => "DESC"

/-- The field that items are ordered by. -/
structure SortSpec where
  field : String
  direction : SortDirection := .descending
  deriving DecidableEq, Repr

/-- What to retrieve. Predicates all have to hold; of the search terms any one. -/
structure ItemFilter where
  ids : List Nat := []
  predicates : List Predicate := []
  dateWindow : Option DateWindow := none
  freeTextTerms : List String := []
  extras : Extras := {}
  sort : Option SortSpec := none
  maxItems : Option Nat := none
  deriving DecidableEq

namespace ItemFilter

/-- Whether there are no numbers, predicates and search terms. A date window alone would still
select a large part of the store. -/
def isEmpty (f : ItemFilter) : Bool :=
  f.ids.isEmpty && f.predicates.isEmpty && f.freeTextTerms.isEmpty

end ItemFilter
end WorkQuery
