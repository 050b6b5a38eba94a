import WorkQuery.Data.Decode
import WorkQuery.Filter.Data

/-!
# WorkQuery.Intent.Decision

What a turn of a conversation needs: a query for new items, an analysis of the items at hand, or
both. The parts that each kind needs are parts of its value.
-/

namespace WorkQuery

inductive IntentKind where
  | newQuery
  | cachedAnalysis
  | combined
  deriving DecidableEq, Repr

namespace IntentKind

def all : List IntentKind := [.newQuery, .cachedAnalysis, .combined]

def name : IntentKind → String
  | .newQuery => "NEW_QUERY"
  | .cachedAnalysis => "CACHED_ANALYSIS"
  | .combined => "COMBINED"

def needsFetch : IntentKind → Bool
  | .newQuery | .combined => true
  | .cachedAnalysis => false

def needsAnalysis : IntentKind → Bool
  | .cachedAnalysis | .combined => true
  | .newQuery => false

end IntentKind

/-- What to make of a set of items. -/
inductive AnalysisType where
  | newsletter
  | summary
  | insights
  /-- A digest of the discussions. -/
  | comments
  /-- The state changes in order. -/
  | timeline
  | report
  /-- All of the others. -/
  | full
  deriving DecidableEq, Repr

namespace AnalysisType

def all : List AnalysisType :=
  [.newsletter, .summary, .insights, .comments, .timeline, .report, .full]

def name : AnalysisType → String
  | .newsletter => "newsletter"
  | .summary => "summary"
  | .insights => "insights"
  | .comments => "comments"
  | .timeline => "timeline"
  | .report => "report"
  | .full => "full"

/-- The type of that name, in any case. -/
def ofText? (s : String) : Option AnalysisType :=
  all.find? fun t => Text.sameIgnoringCase t.name (Text.trim s)

end AnalysisType

/-- A request for an analysis: its type, constraints on the form of the answer, and the user's
words. -/
structure AnalysisRequest where
  type : AnalysisType
  format : Option String := none
  prompt : String
  deriving DecidableEq, Repr

namespace AnalysisRequest

def toData (r : AnalysisRequest) : Data :=
  .record ([("analysis_type", .string r.type.name)]
    ++ Data.member? "format_requirements" .string r.format ++ [("prompt", .string r.prompt)])

/-- The type of exactly that name. -/
def typeOfData? (d : Data) : Option AnalysisType :=
  d.name?.bind fun s => AnalysisType.all.find? fun t => t.name == s

def ofData? (d : Data) : Option AnalysisRequest :=
  match d.fields? false ["analysis_type", "format_requirements", "prompt"] with
  | some [some type, format, some prompt] => do
    return ⟨← typeOfData? type, ← Data.maybe? Data.string? format, ← prompt.string?⟩
  | _ => none

end AnalysisRequest

/-- What to do in a turn. -/
inductive Action where
  | newQuery (filter : ItemFilter)
  | cachedAnalysis (request : AnalysisRequest)
  | combined (filter : ItemFilter) (request : AnalysisRequest)
  deriving DecidableEq

namespace Action

def kind : Action → IntentKind
  | .newQuery _ => .newQuery
  | .cachedAnalysis _ => .cachedAnalysis
  | .combined _ _ => .combined

def filter? : Action → Option ItemFilter
  | .newQuery f => some f
  | .cachedAnalysis _ => none
  | .combined f _ => some f

def request? : Action → Option AnalysisRequest
  | .newQuery _ => none
  | .cachedAnalysis r => some r
  | .combined _ r => some r

end Action

/-- What to do in a turn, how sure that is, and why. -/
structure Decision where
  action : Action
  confidence : Binary64
  reasoning : String
  deriving DecidableEq

namespace Decision

/-- The confidence brought between zero and one; no number counts as zero. -/
def clampConfidence (x : Binary64) : Binary64 :=
  let zero := Binary64.zero false
  let one := Binary64.ofNat 1
  if x.same x then if x.lt zero then zero else if one.lt x then one else x else zero

def make (action : Action) (confidence : Binary64) (reasoning : String) : Decision :=
  ⟨action, clampConfidence confidence, reasoning⟩

def kind (d : Decision) : IntentKind := d.action.kind

end Decision
end WorkQuery
