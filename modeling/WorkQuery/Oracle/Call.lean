/-!
# WorkQuery.Oracle.Call

Calls to the oracle, a service that generates text: what is asked, and how a call fails.
-/

namespace WorkQuery

/-- The form of the answer that a call asks for. -/
inductive AnswerForm where
  | text
  | json
  deriving DecidableEq, Repr

/-- A call: the prompt, the form of the answer, and how many tokens it may take. -/
structure OracleCall where
  form : AnswerForm
  prompt : String
  maxTokens : Nat
  deriving DecidableEq, Repr

/-- Why a call failed. -/
inductive OracleError where
  | communication (detail : String)
  | invalidResponse (detail : String)
  | rateLimitExceeded
  | modelNotAvailable (name : String)
  | misconfigured (detail : String)
  | other (detail : String)
  deriving DecidableEq, Repr

def OracleError.message : OracleError → String
  | .communication detail => "Communication error: " ++ detail
  | .invalidResponse detail => "Invalid response: " ++ detail
  | .rateLimitExceeded => "Rate limit exceeded"
  | .modelNotAvailable name => "Model not available: " ++ name
  | .misconfigured detail => "Configuration error: " ++ detail
  | .other detail => "LLM error: " ++ detail

end WorkQuery
