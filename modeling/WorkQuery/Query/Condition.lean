import WorkQuery.Field.Operator
import WorkQuery.Field.Registry
import WorkQuery.Query.DateMacro

/-!
# WorkQuery.Query.Condition

Conditions of a query, as the store reads them: comparisons joined by AND and OR, groups in
parentheses, and NOT in front of either. NOT binds tighter than AND and AND tighter than OR.
-/

namespace WorkQuery

/-- A value that a field is compared with. -/
inductive Value where
  | text (content : String)
  | day (date : Date)
  | relative (date : DateMacro)
  | whole (n : Int)
  /-- A number that is written as it was given. -/
  | numeral (spelling : String)
  | currentUser
  | currentProject
  | currentIteration
  | field (reference : String)
  deriving DecidableEq

def Value.spelling : Value → String
  | .text content => Quote.literal content
  | .day date => Quote.literal date.text
  | .relative date => date.text
  | .whole n => Numeral.intText n
  | .numeral spelling => spelling
  | .currentUser => "@Me"
  | .currentProject => "@Project"
  | .currentIteration => "@CurrentIteration"
  | .field reference => Quote.bracketed reference

def DateExpr.toValue : DateExpr → Value
  | .relative m => .relative m
  | .day d => .day d

/-- A field compared with a value, or with a list of values. -/
structure Comparison where
  field : FieldDef
  operator : Operator
  values : List Value
  deriving DecidableEq

namespace Comparison

def text (c : Comparison) : String :=
  let values := c.values.map Value.spelling
  Quote.bracketed c.field.reference ++ " " ++ c.operator.token ++ " "
    ++ (if c.operator.takesList then "(" ++ Text.join ", " values ++ ")" else Text.join "" values)

end Comparison

/-- Whether the field is the one that holds the project. -/
def FieldDef.isTeamProject (f : FieldDef) : Bool :=
  Text.sameIgnoringCase f.reference Reference.teamProject

/-- Whether the comparison confines a query to the projects it lists. -/
def Comparison.pinsProject (c : Comparison) : Bool :=
  c.operator.pinsValue && c.field.isTeamProject

inductive Connective where
  | and
  | or
  deriving DecidableEq, Repr

def Connective.token : Connective → String
  | .and => "AND"
  | .or => "OR"

/-- A condition as it is written. A chain `a AND b OR c` is joined from the left, whatever binds
tighter: `join (join a and b) or c`. -/
inductive Condition where
  | comparison (c : Comparison)
  | group (inner : Condition)
  | negation (inner : Condition)
  | join (left : Condition) (connective : Connective) (right : Condition)
  deriving DecidableEq

namespace Condition

def text : Condition → String
  | .comparison c => c.text
  | .group inner => "(" ++ inner.text ++ ")"
  | .negation inner => "NOT " ++ inner.text
  | .join left k right => left.text ++ " " ++ k.token ++ " " ++ right.text

/-- Whether a comparison outside all groups and negations confines the query to listed projects. -/
def pinsProject : Condition → Bool
  | .comparison c => c.pinsProject
  | .group _ => false
  | .negation _ => false
  | .join left _ right => left.pinsProject || right.pinsProject

/-- Whether OR stands outside all groups. -/
def hasTopLevelOr : Condition → Bool
  | .comparison _ => false
  | .group _ => false
  | .negation _ => false
  | .join left k right => k == .or || left.hasTopLevelOr || right.hasTopLevelOr

/-- Whether every item that satisfies the condition lies in a listed project. -/
def isScoped (c : Condition) : Bool := c.pinsProject && !c.hasTopLevelOr

/-- The conditions one after another with the same connective. -/
def chain (k : Connective) (first : Condition) (rest : List Condition) : Condition :=
  rest.foldl (fun left right => .join left k right) first

end Condition

def FieldDef.id : FieldDef := ⟨Reference.id, .integer⟩

def FieldDef.title : FieldDef := ⟨Reference.title, .string⟩

def FieldDef.description : FieldDef := ⟨Reference.description, .plainText⟩

def FieldDef.teamProject : FieldDef := ⟨Reference.teamProject, .string⟩

end WorkQuery
