import WorkQuery.Field.Registry
import WorkQuery.Filter.Builder
import WorkQuery.Intent.Patterns

/-!
# WorkQuery.Intent.Criteria

Criteria that people type: numbers, types, states, priorities, dates, tags, areas, assignees and
phrases in quotes. What is recognised becomes part of a filter, and anything else is left alone.
-/

namespace WorkQuery

inductive Criterion where
  | ids
  | type
  | state
  | priority
  | date
  | tag
  | area
  | assignee
  | text
  deriving DecidableEq, Repr

def Criterion.name : Criterion → String
  | .ids => "ids"
  | .type => "type"
  | .state => "state"
  | .priority => "priority"
  | .date => "date"
  | .tag => "tag"
  | .area => "area"
  | .assignee => "assignee"
  | .text => "text"

/-- The criteria recognised in an utterance, as a filter and by kind. -/
structure Criteria where
  filter : ItemFilter
  matched : List Criterion
  deriving DecidableEq

def Criteria.found (c : Criteria) : Bool := !c.matched.isEmpty

namespace Criteria

/-- The words of an utterance: its runs of letters and digits, in lowercase. -/
def wordsOf (text : List Char) : List String :=
  (Text.splitNonempty (fun c => !Text.isAlphanumeric c) text).map fun piece =>
    String.ofList (Text.lowerChars piece)

/-- The list without items that repeat the item before them. -/
def withoutRepeats {α : Type} [BEq α] : List α → List α
  | a :: b :: rest => if a == b then withoutRepeats (b :: rest) else a :: withoutRepeats (b :: rest)
  | short => short

/-- The number that a match has kept; digits outside ASCII make none. -/
def numberOf? (place : Place) : Option Nat := (place.text? 1).bind Numeral.readDigits?

/-- Item numbers, first those after a number sign, then those after a noun. -/
def ids (text : List Char) : List Nat :=
  let afterHash := (Patterns.hashId.findAll text).filterMap numberOf?
  let afterNoun := (Patterns.nounIds.findAll text).flatMap fun place =>
    (Patterns.number.findAll ((place.text? 1).getD [])).filterMap numberOf?
  withoutRepeats ((afterHash ++ afterNoun).filter (0 < ·))

/-- Words that name a type but are too general to ask for it. -/
def generalTypeWords : List String := ["item", "items", "review", "reviews"]

/-- The list with the item at its end, unless it has it. -/
def addOnce (items : List String) (item : String) : List String :=
  if items.contains item then items else items ++ [item]

/-- Types of work items that the words name, two words before one. -/
def types (r : Registry) (found : List String) : List String → List String
  | first :: second :: rest =>
    let pair := r.normalizeWorkItemType (first ++ " " ++ second)
    if pair.mapped then types r (addOnce found pair.name) rest
    else types r (addWord r found first) (second :: rest)
  | [last] => addWord r found last
  | [] => found
where
  /-- The types with that of one word. -/
  addWord (r : Registry) (found : List String) (word : String) : List String :=
    if generalTypeWords.contains word then found
    else
      let single := r.normalizeWorkItemType word
      if single.mapped then addOnce found single.name else found

/-- Words that name states; then the states, and whether they are asked for or ruled out. -/
def stateWords : List (String × List String × Bool) := [
  ("active", ["Active"], true),
  ("resolved", ["Resolved"], true),
  ("closed", ["Closed"], true),
  ("done", ["Done"], true),
  ("open", ["Closed", "Removed", "Done"], false),
  ("unresolved", ["Resolved", "Closed", "Removed", "Done"], false)]

def priorityOf (digit : List Char) : Option Int := (Numeral.readDigits? digit).map Int.ofNat

/-- Lowest and highest priority asked for. -/
def priorities (text : List Char) : Option (Int × Int) := do
  let place ← Patterns.priority.find? text
  let low := ((place.text? 1).bind priorityOf).getD 1
  let high := ((place.text? 2).bind priorityOf).getD low
  return (min low high, max low high)

/-- A counted period; the unit may be in the plural. -/
def countedPeriod? (count : Nat) (unit : List Char) : Option RelativePeriod :=
  let singular := Text.dropEndWhile (· == 's') (Text.lowerChars unit)
  RelativePeriod.ofText? ("last_" ++ Numeral.natText count ++ "_" ++ String.ofList singular)

/-- The period that the utterance names, a counted one first. -/
def period (text : List Char) : Option RelativePeriod :=
  let counted := do
    let place ← Patterns.countedPeriod.find? text
    let count ← (place.text? 1).bind (Numeral.readUpTo? Numeral.maxUInt32)
    countedPeriod? count ((place.text? 2).getD [])
  let named := do
    let place ← Patterns.namedPeriod.find? text
    RelativePeriod.ofText? (place.text 1)
  counted.orElse fun _ => named

/-- The day after the words of a pattern. -/
def dayAfter (p : Pattern) (text : List Char) : Option Date := do
  let place ← p.find? text
  Date.ofChars? (← place.text? 1)

/-- The date window that the utterance asks for; days come before periods. -/
def window (text : List Char) : Option DateWindow :=
  let field :=
    if Patterns.creation.occursIn text then Reference.createdDate else Reference.changedDate
  let since := dayAfter Patterns.sinceDate text
  let untilDay := dayAfter Patterns.untilDate text
  if since.isSome || untilDay.isSome then some { field, start := since, finish := untilDay }
  else (period text).map fun p => { field, relative := some p }

/-- The first text that a match has kept, trimmed, unless it is blank. -/
def keptPhrase (place : Place) : Option String :=
  let texts := [1, 2, 3].filterMap place.text?
  match texts with
  | first :: _ =>
    let trimmed := Text.trimChars first
    if trimmed.isEmpty then none else some (String.ofList trimmed)
  | [] => none

/-- Whether the lowercase text has one of the words in it. -/
def mentions (lowered : List Char) (ws : List String) : Bool :=
  ws.any fun w => Text.containsBlock w.toList lowered

/-- A step of the recognition: the criteria so far, with another one. -/
def add (c : Criteria) (kind : Criterion) (change : ItemFilter → ItemFilter) : Criteria :=
  ⟨change c.filter, c.matched ++ [kind]⟩

/-- With the criterion of a value, if there is one. -/
def addMaybe {α : Type} (c : Criteria) (kind : Criterion) (value : Option α)
    (change : ItemFilter → α → ItemFilter) : Criteria :=
  match value with
  | some a => c.add kind fun f => change f a
  | none => c

/-- With a criterion for each of the values. -/
def addAll {α : Type} (c : Criteria) (kind : Criterion) (values : List α)
    (change : ItemFilter → α → ItemFilter) : Criteria :=
  values.foldl (fun c a => c.add kind fun f => change f a) c

def ofUtterance (r : Registry) (utterance : String) : Criteria :=
  let text := utterance.toList
  let words := wordsOf text
  let ids := ids text
  let types := types r [] words
  let state := stateWords.find? fun entry => words.contains entry.1
  let tags := (Patterns.tagged.findAll text).filterMap keptPhrase
  let area := (Patterns.area.find? text).bind keptPhrase
  let name := (Patterns.assignedToName.find? text).bind keptPhrase
  let assignee :=
    name.orElse fun _ => if Patterns.assignedToMe.occursIn text then some "me" else none
  let used := tags ++ area.toList ++ name.toList
  let phrases := ((Patterns.quotedPhrase.findAll text).filterMap keptPhrase).filter
    fun p => !used.contains p
  let mentioned := ((Patterns.mentioning.findAll text).map fun place => place.text 1).filter
    fun term => !(r.normalizeWorkItemType term).mapped
  let start : Criteria := ⟨{}, []⟩
  let found := start
    |>.addMaybe .ids (if ids.isEmpty then none else some ids) ItemFilter.withIds
    |>.addMaybe .type (if types.isEmpty then none else some types) ItemFilter.withWorkItemTypes
    |>.addMaybe .state state (fun f (_, states, asked) =>
      if asked then f.withStatesIn states else f.withStatesNotIn states)
    |>.addMaybe .priority (priorities text) (fun f (low, high) => f.withPriorityRange low high)
    |>.addMaybe .date (window text) ItemFilter.withDateWindow
    |>.addAll .tag tags ItemFilter.withTag
    |>.addMaybe .area area ItemFilter.withAreaPath
    |>.addMaybe .assignee assignee ItemFilter.withAssignee
    |>.addAll .text phrases ItemFilter.withFreeText
    |>.addAll .text mentioned ItemFilter.withFreeText
  let lowered := Text.lowerChars text
  let extras : Extras :=
    ⟨mentions lowered ["comment", "discussion"],
      mentions lowered ["history", "timeline", "state change"]⟩
  ⟨{ found.filter with extras := extras }, withoutRepeats found.matched⟩

end Criteria
end WorkQuery
