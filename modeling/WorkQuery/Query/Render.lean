import WorkQuery.Calendar.Timestamp
import WorkQuery.Query.Context
import WorkQuery.Query.Error

/-!
# WorkQuery.Query.Render

The value that a literal stands for, as the type of its field admits it.
-/

namespace WorkQuery

/-- Spellings of the current user. -/
def currentUserNames : List String := ["me", "@me", "current user", "myself"]

def isCurrentUser (text : String) : Bool :=
  currentUserNames.any (Text.sameIgnoringCase (Text.trim text))

def isCurrentProject (text : String) : Bool :=
  Text.sameIgnoringCase (Text.trim text) "@project"

/-- The date that a text writes: a period, a macro, a day, or the day of a date and time. -/
def DateExpr.ofText? (today : Date) (text : String) : Option DateExpr :=
  let bare := Text.trimChars text.toList
  match RelativePeriod.ofText? (String.ofList bare) with
  | some period => some (period.resolve today)
  | none =>
    match DateMacro.ofChars? bare with
    | some m => some (.relative m)
    | none =>
      match Date.ofChars? bare with
      | some date => some (.day date)
      | none =>
        match Timestamp.strictLocalDate? bare with
        | some date => some (.day date)
        | none => (Timestamp.floatingDate? bare).map .day

/-- The value of a literal for a field. -/
def Literal.render (field : FieldDef) (ctx : QueryContext) (literal : Literal) :
    Except CompileError Value :=
  match field.valueType, literal with
  | .integer, .integer n => .ok (.whole n)
  | .integer, .text t =>
    match Numeral.readInt64? (Text.trimChars t.toList) with
    | some n => .ok (.whole n)
    | none => .error (.invalidValue field.reference (.notWhole t))
  | .dateTime, .text t =>
    match DateExpr.ofText? ctx.today t with
    | some date => .ok date.toValue
    | none => .error (.invalidValue field.reference (.notDate t))
  | .identity, .text t => .ok (if isCurrentUser t then .currentUser else .text t)
  | .string, .text t =>
    .ok (if field.isTeamProject && isCurrentProject t then .currentProject else .text t)
  | .string, .integer n => .ok (.text (Numeral.intText n))
  | _, .text t => .ok (.text t)
  | type, .integer n => .error (.invalidValue field.reference (.unexpectedNumber type n))

end WorkQuery
