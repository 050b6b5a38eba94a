import WorkQuery.Oracle.Call

/-!
# WorkQuery.Oracle.Rehearsed

An oracle with prepared answers. For each call it looks for a failure prepared for that prompt, then
for an answer to that prompt, then takes the next answer in line, and at last its standing answer.
-/

namespace WorkQuery

structure RehearsedOracle where
  /-- The answer when nothing else is left. -/
  standing : String := "Default mock response"
  failures : List String := []
  /-- Answers to prompts; the newest comes first and counts. -/
  answers : List (String × String) := []
  line : List String := []
  /-- The calls so far, the newest first. -/
  calls : List OracleCall := []
  deriving DecidableEq, Repr

namespace RehearsedOracle

def withFailure (o : RehearsedOracle) (prompt : String) : RehearsedOracle :=
  { o with failures := prompt :: o.failures }

def withAnswer (o : RehearsedOracle) (prompt answer : String) : RehearsedOracle :=
  { o with answers := (prompt, answer) :: o.answers }

/-- With one more answer at the end of the line. -/
def enqueue (o : RehearsedOracle) (answer : String) : RehearsedOracle :=
  { o with line := o.line ++ [answer] }

/-- Without the memory of its calls. -/
def forget (o : RehearsedOracle) : RehearsedOracle := { o with calls := [] }

/-- The answer to a call, and the oracle after it. -/
def ask (o : RehearsedOracle) (call : OracleCall) :
    Except OracleError String × RehearsedOracle :=
  let after := { o with calls := call :: o.calls }
  if o.failures.contains call.prompt then (.error (.other "Mock error"), after)
  else
    match o.answers.find? fun a => a.1 == call.prompt with
    | some (_, answer) => (.ok answer, after)
    | none =>
      match o.line with
      | answer :: rest => (.ok answer, { after with line := rest })
      | [] => (.ok o.standing, after)

def prompts (o : RehearsedOracle) : List String := o.calls.reverse.map OracleCall.prompt

def lastMaxTokens (o : RehearsedOracle) : Option Nat := o.calls.head?.map OracleCall.maxTokens

end RehearsedOracle
end WorkQuery
