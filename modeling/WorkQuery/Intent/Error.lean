import WorkQuery.Decimal.Shortest
import WorkQuery.Intent.Decision
import WorkQuery.Oracle.Call
import WorkQuery.Query.Error

/-!
# WorkQuery.Intent.Error

Why an utterance got no decision.
-/

namespace WorkQuery

/-- Why there is no valid decision, or no valid filter in it. -/
inductive CriteriaFault where
  /-- A reply that begins a code block and has no further line. -/
  | emptyCodeBlock
  /-- A reply that is not a decision in JSON. -/
  | notADecision
  | confidenceOutside (confidence : Binary64)
  | doesNotCompile (error : CompileError)
  /-- A decision whose parts are not those of its kind. -/
  | payload (kind : IntentKind) (hasFilter hasAnalysis : Bool)

def CriteriaFault.message : CriteriaFault → String
  | .emptyCodeBlock => "Empty code block"
  | .notADecision => "JSON parse error"
  | .confidenceOutside confidence =>
    "confidence " ++ confidence.positionalText ++ " is outside [0, 1]"
  | .doesNotCompile error => error.message
  | .payload kind hasFilter hasAnalysis =>
    let presence (there : Bool) : String := if there then "present" else "absent"
    kind.name ++ " decision with filter " ++ presence hasFilter ++ " and analysis "
      ++ presence hasAnalysis

inductive ClassifyError where
  | criteria (fault : CriteriaFault)
  /-- The best reading is less sure than the threshold. -/
  | unsure (confidence threshold : Binary64)
  /-- An analysis of cached items, and none of them fresh. -/
  | noCachedItems
  | oracle (error : OracleError)

/-- What is said when a session has no fresh items. -/
def noCachedItemsMessage : String := "No cached results for this session; run a query first"

def ClassifyError.message : ClassifyError → String
  | .criteria fault => "Could not extract query criteria: " ++ fault.message
  | .unsure confidence threshold =>
    "Not confident enough to act (" ++ confidence.fixedText 2 ++ " < " ++ threshold.fixedText 2
      ++ "); please rephrase or add detail"
  | .noCachedItems => noCachedItemsMessage
  | .oracle error => "Text generation failed: " ++ error.message

/-- Whether asking the user again could help. -/
def ClassifyError.isRecoverable : ClassifyError → Bool
  | .oracle _ => false
  | _ => true

end WorkQuery
