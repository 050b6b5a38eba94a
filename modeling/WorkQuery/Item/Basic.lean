import WorkQuery.Calendar.Timestamp

/-!
# WorkQuery.Item.Basic

Work items as the store returns them. Comments and state changes come only if the query asks for
them.
-/

namespace WorkQuery

structure Comment where
  author : String
  createdDate : Option Timestamp := none
  text : String
  deriving DecidableEq

/-- A change of an item's state; the creation of an item has no state before it. -/
structure StateChange where
  before : Option String := none
  after : String
  date : Option Timestamp := none
  deriving DecidableEq

/-- A work item. Comments and state changes come oldest first. -/
structure WorkItem where
  id : Nat
  type : String
  title : String
  state : String
  assignedTo : Option String := none
  priority : Option Int := none
  tags : List String := []
  areaPath : Option String := none
  iterationPath : Option String := none
  createdDate : Option Timestamp := none
  changedDate : Option Timestamp := none
  comments : List Comment := []
  stateChanges : List StateChange := []
  url : Option String := none
  deriving DecidableEq

/-- Tags of the store's form: separated by semicolons, blank ones left out. -/
def WorkItem.tagsOfText (s : String) : List String :=
  ((Text.splitWhere (· == ';') s.toList).map fun piece => String.ofList (Text.trimChars piece)).filter
    fun tag => !tag.toList.isEmpty

end WorkQuery
