import WorkQuery.Intent.Criteria
import WorkQuery.Intent.Prompt
import WorkQuery.Intent.Settings
import WorkQuery.Text.Quoted

/-!
# WorkQuery.Intent.Classifier

What an utterance asks for. The oracle decides, if there is one and the settings ask for it;
otherwise cues and criteria do. A decision counts only if it is sure enough, and an analysis of
cached items only while the session has fresh ones.

`question?` is what has to be asked of the oracle first, if anything; `classify` is the decision once
the oracle has answered.
-/

namespace WorkQuery

structure Classifier where
  compiler : Compiler
  settings : ClassifierSettings
  hasOracle : Bool

/-- What the decision may depend on besides the utterance. -/
structure Situation where
  cache : Cache
  session : SessionId
  /-- Earlier turns of the user, oldest first. -/
  history : List String := []

namespace Classifier

def usesOracle (c : Classifier) : Bool := c.hasOracle && c.settings.strategy == .oracle

def unsure (c : Classifier) (confidence : Binary64) : ClassifyError :=
  .unsure confidence c.settings.threshold

def criteria (c : Classifier) (text : String) : Criteria :=
  Criteria.ofUtterance c.compiler.registry text

/-- Tokens for the oracle: fewer if there is an analysis to decide on and no criterion. -/
def tokens (c : Classifier) (text : String) : Nat :=
  if (c.settings.cues.scan text).wantsAnalysis && !(c.criteria text).found then
    c.settings.decisionTokens
  else c.settings.filterTokens

def prompt (c : Classifier) (s : Situation) (text : String) : ClassificationPrompt where
  utterance := text
  registry := c.compiler.registry
  cache := s.cache.status s.session
  history := s.history
  turns := c.settings.historyTurns

/-- What to ask the oracle about an utterance; a blank one is not asked about. -/
def question? (c : Classifier) (s : Situation) (utterance : String) : Option OracleCall :=
  let text := Text.trim utterance
  if !Text.isBlankText text && c.usesOracle then
    some ⟨.json, (c.prompt s text).text, c.tokens text⟩
  else none

def request (text : String) (hits : CueHits) : AnalysisRequest where
  type := hits.type.getD .summary
  format := (Patterns.answerFormat.find? text.toList).map fun place => Text.lower (place.text 1)
  prompt := text

/-- How sure a query is that meets a number of criteria: 0.6 and 0.1 more for each of them, but no
more than 0.95. -/
def queryConfidence (criteria : Nat) : Binary64 :=
  let sum := Binary64.addMagnitudes (Binary64.ofDecimal false 6 (-1))
    (Binary64.mul (Binary64.ofDecimal false 1 (-1)) (Binary64.ofNat criteria))
  let most := Binary64.ofDecimal false 95 (-2)
  if Binary64.lt most sum then most else sum

/-- Criteria that describe new items rather than those at hand. -/
def namesNewItems (c : Criteria) : Bool :=
  c.matched.any fun kind => kind == .date || kind == .type

/-- Why cues and criteria decided as they did. -/
def reasoning (criteria : Criteria) (hits : CueHits) : String :=
  "heuristic: criteria " ++ Text.quotedList (criteria.matched.map Criterion.name)
    ++ ", analysis cues " ++ Text.quotedList hits.analysis
    ++ ", cache references " ++ Text.quotedList hits.references

/-- Whether there are criteria to fetch by. Criteria that do not compile are an error, unless the
utterance also asks for an analysis. -/
def retrieves (c : Classifier) (criteria : Criteria) (wantsAnalysis : Bool) :
    Except ClassifyError Bool :=
  if !criteria.found then .ok false
  else
    match c.compiler.check criteria.filter with
    | .ok () => .ok true
    | .error e => if wantsAnalysis then .ok false else .error (.criteria (.doesNotCompile e))

def byHeuristic (c : Classifier) (text : String) : Except ClassifyError Decision := do
  let hits := c.settings.cues.scan text
  let criteria := c.criteria text
  let retrieves ← c.retrieves criteria hits.wantsAnalysis
  let decide (action : Action) (confidence : Binary64) : Except ClassifyError Decision :=
    .ok (Decision.make action confidence (reasoning criteria hits))
  if hits.wantsAnalysis && hits.refersBack && !namesNewItems criteria then
    decide (.cachedAnalysis (request text hits)) (Binary64.ofDecimal false 85 (-2))
  else
    match retrieves, hits.wantsAnalysis with
    | true, true =>
      decide (.combined criteria.filter (request text hits)) (Binary64.ofDecimal false 75 (-2))
    | true, false => decide (.newQuery criteria.filter) (queryConfidence criteria.matched.length)
    | false, true =>
      decide (.cachedAnalysis (request text hits)) (Binary64.ofDecimal false 7 (-1))
    | false, false => .error (c.unsure (Binary64.ofDecimal false 2 (-1)))

/-- The filter to fetch by where an analysis finds no fresh items: the criteria of the utterance if
they compile, else the filter that brought the items which are no longer fresh. -/
def filterAgain? (c : Classifier) (s : Situation) (text : String) : Option ItemFilter :=
  let criteria := c.criteria text
  if criteria.found && (c.compiler.check criteria.filter).isOk then some criteria.filter
  else (s.cache.peek s.session).bind fun entry => entry.results.filter

/-- The decision, if it is sure enough and the items that it needs are fresh. -/
def accept (c : Classifier) (s : Situation) (text : String) (decision : Decision) :
    Except ClassifyError Decision :=
  if decision.confidence.lt c.settings.threshold then .error (c.unsure decision.confidence)
  else if decision.kind != .cachedAnalysis || (s.cache.get s.session).isSome then .ok decision
  else if !c.settings.fetchAgain then .error .noCachedItems
  else
    match c.filterAgain? s text with
    | some filter =>
      .ok (Decision.make (.newQuery filter) decision.confidence
        "no fresh cached results; re-running the query")
    | none => .error .noCachedItems

def byOracle (c : Classifier) (text : String) :
    Except OracleError String → Except ClassifyError Decision
  | .ok reply => (Decision.ofReply c.compiler text reply).mapError .criteria
  | .error e => if c.settings.fallback then c.byHeuristic text else .error (.oracle e)

/-- The decision on an utterance; `answer` is what the oracle said to the question. -/
def classify (c : Classifier) (s : Situation) (utterance : String)
    (answer : Except OracleError String) : Except ClassifyError Decision :=
  let text := Text.trim utterance
  if Text.isBlankText text then .error (c.unsure (Binary64.zero false))
  else
    match if c.usesOracle then c.byOracle text answer else c.byHeuristic text with
    | .ok decision => c.accept s text decision
    | .error e => .error e

end Classifier
end WorkQuery
