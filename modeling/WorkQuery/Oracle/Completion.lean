import WorkQuery.Data.Decode
import WorkQuery.Data.JsonReader
import WorkQuery.Oracle.Call

/-!
# WorkQuery.Oracle.Completion

Answers of a chat service, and the larger number of tokens to ask for when an answer was cut short.
-/

namespace WorkQuery

/-- The first choice of an answer. -/
structure Completion where
  content : String
  /-- Whether the answer ended because the tokens did. -/
  truncated : Bool
  tokensUsed : Nat
  deriving DecidableEq, Repr

namespace Completion

/-- A choice: its content, null counting as empty, and why it ended. -/
def choiceOfData? (d : Data) : Option (String × Option String) :=
  match d.fields? false ["message", "finish_reason"] with
  | some [some message, reason] =>
    match message.fields? false ["content"] with
    | some [content] => do
      return ((← Data.maybe? Data.string? content).getD "", ← Data.maybe? Data.string? reason)
    | _ => none
  | _ => none

def tokensOfData? (d : Data) : Option Nat :=
  match d.fields? false ["completion_tokens"] with
  | some [some tokens] => tokens.uint32?
  | _ => none

/-- The choices of a response, and the tokens that it used. -/
def choicesOfData? (d : Data) : Option (List (String × Option String) × Option Nat) :=
  match d.fields? false ["choices", "usage"] with
  | some [some choices, usage] => do
    return (← choices.list? choiceOfData?, ← Data.maybe? tokensOfData? usage)
  | _ => none

/-- The completion in the body of a response. -/
def ofBody (body : String) : Except OracleError Completion :=
  match (Data.ofJsonText? body).bind choicesOfData? with
  | none => .error (.invalidResponse "Failed to parse response")
  | some ([], _) => .error (.invalidResponse "response has no choices")
  | some ((content, reason) :: _, tokens) =>
    .ok ⟨content, reason == some "length", tokens.getD 0⟩

/-- The tokens to allow after an answer that was cut short: half again what it used, but no more
than `most`; none if that is no more than it was allowed. -/
def retryTokens? (used allowed most : Nat) : Option Nat :=
  if most ≤ allowed then none
  else
    let proposed := min (min (used + used / 2) Numeral.maxUInt32) most
    if allowed < proposed then some proposed else none

end Completion
end WorkQuery
