import WorkQuery.Filter.Basic
import WorkQuery.Query.Condition

/-!
# WorkQuery.Query.Statement

Complete queries. The number of items is no part of the query text and travels beside it.
-/

namespace WorkQuery

/-- Largest number of items that the store returns for one query. -/
def storeLimit : Nat := 20000

def coreColumns : List String :=
  [Reference.id, Reference.title, Reference.state, Reference.workItemType, Reference.assignedTo,
    Reference.changedDate, Reference.priority]

structure OrderKey where
  reference : String
  direction : SortDirection
  deriving DecidableEq

def OrderKey.text (k : OrderKey) : String :=
  Quote.bracketed k.reference ++ " " ++ k.direction.token

/-- The order in which items come unless another is asked for: last changed first. -/
def OrderKey.default : OrderKey := ⟨Reference.changedDate, .descending⟩

/-- A query for the items that satisfy every one of the conditions. -/
structure Query where
  conditions : List Condition
  order : List OrderKey
  cap : Nat
  extras : Extras
  deriving DecidableEq

namespace Query

/-- A query whose number of items is kept between one and the store's limit. -/
def make (conditions : List Condition) (order : List OrderKey) (cap : Nat) (extras : Extras) :
    Query :=
  ⟨conditions, order, max 1 (min cap storeLimit), extras⟩

/-- Spelling of what the items have to satisfy. -/
def body (q : Query) : String := Text.join " AND " (q.conditions.map Condition.text)

def columnsText : String := Text.join ", " (coreColumns.map Quote.bracketed)

def orderText (q : Query) : String := Text.join ", " (q.order.map OrderKey.text)

def text (q : Query) : String :=
  "SELECT " ++ columnsText ++ " FROM WorkItems WHERE " ++ q.body ++ " ORDER BY " ++ q.orderText

/-- The number of items as a request parameter. -/
def topParameter (q : Query) : String := "$top=" ++ Numeral.natText q.cap

end Query
end WorkQuery
