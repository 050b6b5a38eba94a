import WorkQuery.Filter.Basic

/-!
# WorkQuery.Filter.Describe

A short description of a filter, for people.
-/

namespace WorkQuery

def Literal.describe : Literal → String
  | .integer n => Numeral.intText n
  | .text s => s

def Operand.describe : Operand → String
  | .single value => value.describe
  | .list values => "(" ++ Text.join ", " (values.map Literal.describe) ++ ")"

def Predicate.describe (p : Predicate) : String :=
  p.field ++ " " ++ p.operator.token ++ " " ++ p.value.describe

def DateWindow.describe (w : DateWindow) : String :=
  let dayText (day : Option Date) : String := (day.map Date.text).getD ""
  match w.relative with
  | some period => w.field ++ " " ++ period.token
  | none => w.field ++ " " ++ dayText w.start ++ ".." ++ dayText w.finish

/-- The parts of the filter that select items, or `all work items` when there is none. -/
def ItemFilter.describe (f : ItemFilter) : String :=
  let ids :=
    if f.ids.isEmpty then []
    else [Text.join ", " (f.ids.map fun id => "#" ++ Numeral.natText id)]
  let parts := ids ++ f.predicates.map Predicate.describe
    ++ (f.dateWindow.map DateWindow.describe).toList
    ++ f.freeTextTerms.map fun term => "\"" ++ term ++ "\""
  if parts.isEmpty then "all work items" else Text.join "; " parts

end WorkQuery
