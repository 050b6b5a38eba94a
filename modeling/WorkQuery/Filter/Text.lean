import WorkQuery.Data.JsonReader
import WorkQuery.Filter.Data
import WorkQuery.Data.JsonPrinter

/-!
# WorkQuery.Filter.Text

Filters as JSON text.
-/

namespace WorkQuery

inductive FilterTextFault where
  | blank
  | notAFilter
  deriving DecidableEq, Repr

/-- JSON text of a filter, on one line. -/
def ItemFilter.text (f : ItemFilter) : String := f.toData.jsonText

def ItemFilter.ofText (text : String) : Except FilterTextFault ItemFilter :=
  if Text.isBlankText text then .error .blank
  else
    match (Data.ofJsonText? text).bind ItemFilter.ofData? with
    | some filter => .ok filter
    | none => .error .notAFilter

end WorkQuery
