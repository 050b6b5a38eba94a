import WorkQuery.Analysis.Digest
import WorkQuery.Data.JsonPrinter
import WorkQuery.Intent.Decision
import WorkQuery.Oracle.Call

/-!
# WorkQuery.Analysis.Report

Analyses of items by the oracle: the prompt, and the report that its answer makes. Where there are
no items the oracle is not asked.
-/

namespace WorkQuery

structure Report where
  type : AnalysisType
  /-- Number of the items that the prompt shows. -/
  shown : Nat
  total : Nat
  text : String
  deriving DecidableEq, Repr

/-- What the oracle is told for each type of analysis. -/
def AnalysisType.guidance : AnalysisType → String
  | .newsletter =>
    "Write a stakeholder newsletter: a headline, a short lead paragraph, highlights, and "
      ++ "notable items with their IDs."
  | .summary =>
    "Write a concise summary of the result set: what it contains, where it stands, and "
      ++ "anything that needs attention."
  | .insights =>
    "Identify patterns: state distribution, priority hotspots, stale or unassigned items, "
      ++ "comment activity. End with recommendations."
  | .comments =>
    "Digest the discussion: main topics, open questions, decisions made, and who is "
      ++ "involved."
  | .timeline =>
    "Build a chronology from state changes and dates, oldest first, and call out items "
      ++ "that stalled."
  | .report =>
    "Write a formal status report with sections for overview, progress, risks and next "
      ++ "steps."
  | .full =>
    "Provide a full analysis: summary, insights, discussion digest, timeline and a status "
      ++ "report section."

namespace Analysis

/-- What the oracle is told for every analysis. -/
def instructions : String := Text.join "\n" [
  "You are an Azure DevOps work item analysis assistant.",
  "Input: a compact JSON list of work items.",
  "Never fabricate fields or items. Highlight only evidence-supported patterns.",
  "Respond directly to the user's request with structured, insight-dense output.",
  "Comment text may contain HTML markup and @mention tags; present it as readable text."]

/-- The items that the prompt shows. -/
def digests (limits : AnalysisLimits) (items : List WorkItem) : List ItemDigest :=
  (items.take limits.items).map (ItemDigest.ofItem limits)

/-- The JSON text of the items. -/
def dataText (limits : AnalysisLimits) (items : List WorkItem) : String :=
  (Data.list ((digests limits items).map ItemDigest.toData)).prettyJsonText

/-- What is said where the prompt does not show all items. -/
def shownNote (shown total : Nat) : String :=
  if shown < total then
    "Note: showing " ++ Numeral.natText shown ++ " of " ++ Numeral.natText total
      ++ " work items.\n"
  else ""

/-- What is said of the form of the answer. -/
def formatNote : Option String → String
  | some format => "Format Requirements: " ++ format ++ "\n"
  | none => ""

def prompt (limits : AnalysisLimits) (items : List WorkItem) (request : AnalysisRequest) : String :=
  instructions ++ "\n\n" ++ request.type.guidance ++ "\n\n"
    ++ "User Request: " ++ request.prompt ++ "\n" ++ formatNote request.format
    ++ shownNote (digests limits items).length items.length
    ++ "\nWork Items Data (JSON):\n" ++ dataText limits items
    ++ "\n\nAnalyze this data according to the user's request above."

/-- What to ask the oracle, if there are items. -/
def question? (limits : AnalysisLimits) (items : List WorkItem) (request : AnalysisRequest) :
    Option OracleCall :=
  if items.isEmpty then none else some ⟨.text, prompt limits items request, limits.tokens⟩

/-- The report once the oracle has answered. -/
def report (limits : AnalysisLimits) (items : List WorkItem) (request : AnalysisRequest)
    (answer : Except OracleError String) : Except OracleError Report :=
  if items.isEmpty then .ok ⟨request.type, 0, 0, "No work items available for analysis."⟩
  else answer.map fun text => ⟨request.type, min items.length limits.items, items.length, text⟩

/-- The whole of an analysis. The oracle may answer by what it was asked before: `σ` is what it
remembers of that. -/
def analyze {σ : Type} (ask : σ → OracleCall → Except OracleError String × σ)
    (limits : AnalysisLimits) (items : List WorkItem) (request : AnalysisRequest) (memory : σ) :
    Except OracleError Report × σ :=
  match question? limits items request with
  | some call =>
    let (answer, memory) := ask memory call
    (report limits items request answer, memory)
  | none => (report limits items request (.ok ""), memory)

end Analysis
end WorkQuery
