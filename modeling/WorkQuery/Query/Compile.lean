import WorkQuery.Query.Caps
import WorkQuery.Query.Render

/-!
# WorkQuery.Query.Compile

Compilation of filters. Every part of a filter becomes a condition, and the project's scope is added
unless a predicate confines the query to listed projects.
-/

namespace WorkQuery

/-- The fields that may be asked for and the numbers of items that may be returned. -/
structure Compiler where
  registry : Registry
  caps : ResultCaps

namespace Compiler

/-- The standard fields and numbers. -/
def standard : Compiler := ⟨Registry.standard, {}⟩

def field (c : Compiler) (name : String) : Except CompileError FieldDef :=
  match c.registry.resolve? name with
  | some field => .ok field
  | none => .error (.unknownField name)

/-- Fails unless the reference of the field can stand in brackets. -/
def checkReference (field : FieldDef) : Except CompileError Unit :=
  match Quote.checkReference field.reference with
  | .ok _ => .ok ()
  | .error fault => .error (.invalidValue field.reference (.reference fault))

/-- The item numbers without repetitions, each where it first occurs. -/
def distinctIds : List Nat → List Nat → List Nat
  | _, [] => []
  | seen, id :: rest =>
    if seen.contains id then distinctIds seen rest else id :: distinctIds (id :: seen) rest

/-- The condition that lists item numbers. -/
def idsCondition (ids : List Nat) : Except CompileError Condition :=
  if ids.contains 0 then .error (.invalidValue Reference.id .idBelowOne)
  else
    .ok (.comparison ⟨FieldDef.id, .inList, (distinctIds [] ids).map fun (id : Nat) => Value.whole id⟩)

/-- The literals of a predicate, in the number that its operator takes. -/
def literals (field : FieldDef) (op : Operator) (value : Operand) :
    Except CompileError (List Literal) :=
  match value with
  | .single literal => .ok [literal]
  | .list items =>
    if op.takesList then
      if items.isEmpty then .error (.invalidValue field.reference (.emptyList op)) else .ok items
    else if items.length = 1 then .ok items
    else .error (.invalidValue field.reference (.manyValues op items.length))

/-- Fails if the operator searches for a blank text. -/
def checkSearch (field : FieldDef) (op : Operator) : List Literal → Except CompileError Unit
  | .text t :: _ =>
    if op.isSearch && Text.isBlankText t then
      .error (.invalidValue field.reference (.blankSearch op))
    else .ok ()
  | _ => .ok ()

/-- The comparison that a predicate asks for. -/
def comparison (c : Compiler) (ctx : QueryContext) (p : Predicate) :
    Except CompileError Comparison := do
  let field ← c.field p.field
  if !field.valueType.accepts p.operator then
    throw (.operatorMismatch field.reference p.operator field.valueType)
  let literals ← literals field p.operator p.value
  checkSearch field p.operator literals
  let values ← literals.mapM (Literal.render field ctx)
  checkReference field
  return ⟨field, p.operator, values⟩

/-- The comparisons that a date window asks for. -/
def windowComparisons (c : Compiler) (ctx : QueryContext) (w : DateWindow) :
    Except CompileError (List Comparison) := do
  let field ← c.field w.field
  if field.valueType != .dateTime then
    throw (.operatorMismatch field.reference .ge field.valueType)
  checkReference field
  match w.range with
  | .error fault => throw (.invalidValue field.reference (.window fault))
  | .ok (.relative period) => return [⟨field, .ge, [(period.resolve ctx.today).toValue]⟩]
  | .ok (.days start finish) =>
    return (start.toList.map fun day => ⟨field, .ge, [.day day]⟩)
      ++ (finish.toList.map fun day => ⟨field, .le, [.day day]⟩)

/-- The condition that an item's title or description has the search term. -/
def termCondition (term : String) : Except CompileError Condition :=
  let bare := Text.trim term
  if bare.toList.isEmpty then .error (.invalidValue "free_text_terms" .blankTerm)
  else
    .ok (.group (.join (.comparison ⟨FieldDef.title, .contains, [.text bare]⟩) .or
      (.comparison ⟨FieldDef.description, .containsWords, [.text bare]⟩)))

/-- The condition that an item has any of the search terms; none for no term. -/
def termsCondition (terms : List String) : Except CompileError (List Condition) := do
  match ← terms.mapM termCondition with
  | [] => return []
  | [single] => return [single]
  | first :: rest => return [.group (Condition.chain .or first rest)]

/-- The order that a filter asks for; items that are equal in it come last changed first. -/
def orderKeys (c : Compiler) : Option SortSpec → Except CompileError (List OrderKey)
  | none => .ok [OrderKey.default]
  | some sort => do
    let field ← c.field sort.field
    if field.valueType = .plainText then throw (.invalidValue field.reference .unsortable)
    checkReference field
    let key : OrderKey := ⟨field.reference, sort.direction⟩
    if Text.sameIgnoringCase field.reference Reference.changedDate then return [key]
    else return [key, OrderKey.default]

/-- The conditions of a filter, in order, without the project's scope. -/
def filterConditions (c : Compiler) (ctx : QueryContext) (f : ItemFilter) :
    Except CompileError (List Condition × Bool) := do
  let ids ← if f.ids.isEmpty then pure [] else (idsCondition f.ids).map fun cond => [cond]
  let comparisons ← f.predicates.mapM (c.comparison ctx)
  let window ← match f.dateWindow with
    | some w => c.windowComparisons ctx w
    | none => pure []
  let terms ← termsCondition f.freeTextTerms
  return (ids ++ comparisons.map .comparison ++ window.map .comparison ++ terms,
    comparisons.any Comparison.pinsProject)

/-- The number of items that a filter gets. -/
def filterCap (c : Compiler) (requested : Option Nat) : Except CompileError Nat :=
  match requested with
  | some 0 => .error (.invalidValue "max_items" .capBelowOne)
  | _ => .ok (c.caps.effective requested)

def compile (c : Compiler) (ctx : QueryContext) (f : ItemFilter) : Except CompileError Query := do
  if f.isEmpty then throw .emptyFilter
  let (conditions, pinned) ← c.filterConditions ctx f
  let cap ← c.filterCap f.maxItems
  let order ← c.orderKeys f.sort
  return Query.make (if pinned then conditions else ctx.scope :: conditions) order cap f.extras

/-- Whether the filter compiles; the context has no part in that. -/
def check (c : Compiler) (f : ItemFilter) : Except CompileError Unit :=
  (c.compile QueryContext.default f).map fun _ => ()

end Compiler
end WorkQuery
