import WorkQuery.Intent.Error

/-!
# WorkQuery.Turn.Error

Why a turn failed.
-/

namespace WorkQuery

/-- A stage that waits for someone else. -/
inductive Wait where
  | classification
  | fetch
  | analysis
  deriving DecidableEq, Repr

def Wait.name : Wait → String
  | .classification => "classification"
  | .fetch => "fetch"
  | .analysis => "analysis"

inductive TurnError where
  | intent (error : ClassifyError)
  | compile (error : CompileError)
  /-- The store failed; nothing was put in the cache. -/
  | fetch (detail : String)
  | analysis (error : OracleError)
  | timeout (wait : Wait)
  | noCachedItems
  /-- A decision without what its kind needs. -/
  | missingPart (kind : IntentKind)

namespace TurnError

def message : TurnError → String
  | .intent error => error.message
  | .compile error => "Query compilation failed: " ++ error.message
  | .fetch detail => "Fetch error: " ++ detail
  | .analysis error => "Analysis error: " ++ error.message
  | .timeout wait => wait.name ++ " timed out"
  | .noCachedItems => noCachedItemsMessage
  | .missingPart kind => "Configuration error: " ++ kind.name ++ " decision is missing its payload"

/-- Whether asking the user to say it another way could help. -/
def isRecoverable : TurnError → Bool
  | .intent error => error.isRecoverable
  | .compile _ | .noCachedItems => true
  | .fetch _ | .analysis _ | .timeout _ | .missingPart _ => false

end TurnError
end WorkQuery
