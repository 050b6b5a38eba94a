import WorkQuery.Filter.Basic
import WorkQuery.Data.Decode

/-!
# WorkQuery.Filter.Data

Filters as structured data. Empty lists and absent options are left out when a filter is written;
`include` never is. No member beyond the fields is accepted, and a field that may be left out may
be null only where it is an option.
-/

namespace WorkQuery

namespace Literal

def toData : Literal → Data
  | .integer n => .integer n
  | .text s => .string s

def ofData? (d : Data) : Option Literal :=
  match d.int64? with
  | some n => some (.integer n)
  | none => d.string?.map .text

end Literal

namespace Operand

def toData : Operand → Data
  | .list values => .list (values.map Literal.toData)
  | .single value => value.toData

def ofData? (d : Data) : Option Operand :=
  match d.list? Literal.ofData? with
  | some values => some (.list values)
  | none => (Literal.ofData? d).map .single

end Operand

def Operator.ofData? (d : Data) : Option Operator := d.string?.bind Operator.ofText?

def RelativePeriod.ofData? (d : Data) : Option RelativePeriod :=
  d.string?.bind RelativePeriod.ofText?

def Date.ofData? (d : Data) : Option Date := d.string?.bind fun s => Date.ofSpacedChars? s.toList

namespace Predicate

def toData (p : Predicate) : Data :=
  .record [("field", .string p.field), ("operator", .string p.operator.token),
    ("value", p.value.toData)]

def ofData? (d : Data) : Option Predicate :=
  match d.fields? true ["field", "operator", "value"] with
  | some [some field, some operator, some value] => do
    return ⟨← field.string?, ← Operator.ofData? operator, ← Operand.ofData? value⟩
  | _ => none

end Predicate

namespace DateWindow

def toData (w : DateWindow) : Data :=
  .record ([("field", .string w.field)]
    ++ Data.member? "relative" (fun p => .string p.token) w.relative
    ++ Data.member? "start" (fun d => .string d.text) w.start
    ++ Data.member? "end" (fun d => .string d.text) w.finish)

def ofData? (d : Data) : Option DateWindow :=
  match d.fields? true ["field", "relative", "start", "end"] with
  | some [field, relative, start, finish] => do
    return {
      field := ← Data.withDefault? Reference.changedDate Data.string? field
      relative := ← Data.maybe? RelativePeriod.ofData? relative
      start := ← Data.maybe? Date.ofData? start
      finish := ← Data.maybe? Date.ofData? finish }
  | _ => none

end DateWindow

namespace Extras

def toData (e : Extras) : Data :=
  .record [("comments", .bool e.comments), ("history", .bool e.history)]

def ofData? (d : Data) : Option Extras :=
  match d.fields? true ["comments", "history"] with
  | some [comments, history] => do
    return ⟨← Data.withDefault? false Data.bool? comments,
      ← Data.withDefault? false Data.bool? history⟩
  | _ => none

end Extras

def SortDirection.ofData? (d : Data) : Option SortDirection :=
  match d.name? with
  | some "ASC" => some .ascending
  | some "DESC" => some .descending
  | _ => none

namespace SortSpec

def toData (s : SortSpec) : Data :=
  .record [("field", .string s.field), ("direction", .string s.direction.token)]

def ofData? (d : Data) : Option SortSpec :=
  match d.fields? true ["field", "direction"] with
  | some [some field, direction] => do
    return ⟨← field.string?, ← Data.withDefault? .descending SortDirection.ofData? direction⟩
  | _ => none

end SortSpec

namespace ItemFilter

def toData (f : ItemFilter) : Data :=
  .record (Data.listMember? "ids" .ofNat f.ids
    ++ Data.listMember? "predicates" Predicate.toData f.predicates
    ++ Data.member? "date_window" DateWindow.toData f.dateWindow
    ++ Data.listMember? "free_text_terms" .string f.freeTextTerms
    ++ [("include", f.extras.toData)]
    ++ Data.member? "sort" SortSpec.toData f.sort
    ++ Data.member? "max_items" .ofNat f.maxItems)

def fieldNames : List String :=
  ["ids", "predicates", "date_window", "free_text_terms", "include", "sort", "max_items"]

def ofData? (d : Data) : Option ItemFilter :=
  match d.fields? true fieldNames with
  | some [ids, predicates, window, terms, extras, sort, cap] => do
    return {
      ids := ← Data.withDefault? [] (Data.list? Data.uint64?) ids
      predicates := ← Data.withDefault? [] (Data.list? Predicate.ofData?) predicates
      dateWindow := ← Data.maybe? DateWindow.ofData? window
      freeTextTerms := ← Data.withDefault? [] (Data.list? Data.string?) terms
      extras := ← Data.withDefault? {} Extras.ofData? extras
      sort := ← Data.maybe? SortSpec.ofData? sort
      maxItems := ← Data.maybe? Data.uint64? cap }
  | _ => none

end ItemFilter
end WorkQuery
