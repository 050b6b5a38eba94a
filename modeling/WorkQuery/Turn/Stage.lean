import WorkQuery.Analysis.Report
import WorkQuery.Filter.Describe
import WorkQuery.Intent.Classifier
import WorkQuery.Query.Reader
import WorkQuery.Turn.Error
import WorkQuery.Turn.Settings

/-!
# WorkQuery.Turn.Stage

A turn of a conversation, stage by stage: classify the utterance, compile the filter, fetch the
items, put them in the session's place, analyse them. Each stage is one step. The turns of several
users share the cache, and their stages may come in any order between each other; `Turn.step` says
what one stage of one turn does.

Only the stage `storing` changes the cache.
-/

namespace WorkQuery

/-- An answer, and the milliseconds that it took. -/
structure Timed (α : Type) where
  delay : Nat := 0
  value : α

/-- Whether the answer came after a deadline, in seconds. -/
def Timed.isLate {α : Type} (t : Timed α) (seconds : Nat) : Bool := 1000 * seconds < t.delay

/-- What a stage asks of someone else. -/
inductive Question where
  | oracle (call : OracleCall)
  | store (query : Query)

/-- How the oracle and the store answer, if they are asked now, and what the clock of the machine
says. -/
structure Surroundings where
  oracle : OracleCall → Timed (Except OracleError String)
  store : Query → Timed (Except String (List WorkItem))
  /-- The cache has a clock of its own. -/
  clock : Nat := 0

/-- The parts that turns share. -/
structure Pipeline where
  classifier : Classifier
  /-- What an analysis is shown. -/
  limits : AnalysisLimits
  compiler : Compiler
  settings : TurnSettings

/-- The pipeline in which one oracle classifies and analyses, and one compiler checks the filters of
decisions and compiles them. -/
def Pipeline.withOracle (compiler : Compiler) (classifier : ClassifierSettings)
    (settings : TurnSettings) : Pipeline :=
  ⟨⟨compiler, classifier, true⟩, settings.limits, compiler, settings⟩

inductive Outcome where
  | fetched (query : Query) (entry : CacheEntry)
  | analyzed (entry : CacheEntry) (report : Report)
  | fetchedAndAnalyzed (query : Query) (entry : CacheEntry) (report : Report)

namespace Outcome

def kind : Outcome → IntentKind
  | .fetched _ _ => .newQuery
  | .analyzed _ _ => .cachedAnalysis
  | .fetchedAndAnalyzed _ _ _ => .combined

def entry : Outcome → CacheEntry
  | .fetched _ entry | .analyzed entry _ | .fetchedAndAnalyzed _ entry _ => entry

def query? : Outcome → Option Query
  | .fetched query _ | .fetchedAndAnalyzed query _ _ => some query
  | .analyzed _ _ => none

def report? : Outcome → Option Report
  | .fetched _ _ => none
  | .analyzed _ report | .fetchedAndAnalyzed _ _ report => some report

end Outcome

/-- A fetch: what it is asked by, its description for people, and the analysis to follow, if any. -/
structure FetchPlan where
  input : QueryInput
  description : String
  analysis : Option AnalysisRequest := none

/-- The filter that the fetch is asked by, if it is one. -/
def FetchPlan.filter? (p : FetchPlan) : Option ItemFilter :=
  match p.input with
  | .filter f => some f
  | .condition _ => none

/-- The items of a fetch, with what they come from. -/
def FetchPlan.results (p : FetchPlan) (query : Query) (items : List WorkItem) : ResultSet :=
  ⟨items, p.filter?, some query, p.description⟩

/-- Where a turn stands, and what it still needs. -/
inductive Stage where
  | classifying (utterance : String) (history : List String)
  | compiling (plan : FetchPlan)
  | fetching (plan : FetchPlan) (query : Query)
  | storing (plan : FetchPlan) (query : Query) (items : List WorkItem)
  /-- Taking the items from the session's place. -/
  | reading (request : AnalysisRequest)
  /-- Items just fetched come with their query. -/
  | analyzing (entry : CacheEntry) (query : Option Query) (request : AnalysisRequest)
  | finished (result : Except TurnError Outcome)

namespace Stage

/-- First stage of a turn that begins with an utterance. -/
def ofUtterance (utterance : String) (history : List String) : Stage :=
  .classifying utterance history

def ofFilter (f : ItemFilter) : Stage := .compiling ⟨.filter f, f.describe, none⟩

/-- First stage of a turn that begins with a condition in query text. -/
def ofCondition (text : String) : Stage := .compiling ⟨.condition text, Text.trim text, none⟩

def ofRequest (request : AnalysisRequest) : Stage := .reading request

/-- No more than this many stages follow. -/
def rank : Stage → Nat
  | .classifying _ _ => 5
  | .compiling _ => 4
  | .fetching _ _ => 3
  | .storing _ _ _ => 2
  | .reading _ => 2
  | .analyzing _ _ _ => 1
  | .finished _ => 0

/-- The result of a turn at its end. -/
def result? : Stage → Option (Except TurnError Outcome)
  | .finished result => some result
  | _ => none

end Stage

/-- The turn of a session, in a context for its queries. -/
structure Turn where
  session : SessionId
  context : QueryContext
  stage : Stage

namespace Turn

def moveTo (t : Turn) (stage : Stage) : Turn := { t with stage }

def fail (t : Turn) (e : TurnError) : Turn := t.moveTo (.finished (.error e))

def succeed (t : Turn) (outcome : Outcome) : Turn := t.moveTo (.finished (.ok outcome))

def situation (t : Turn) (cache : Cache) (history : List String) : Situation :=
  ⟨cache, t.session, history⟩

/-- What the stage asks of someone else. -/
def question? (p : Pipeline) (cache : Cache) (t : Turn) : Option Question :=
  match t.stage with
  | .classifying utterance history =>
    (p.classifier.question? (t.situation cache history) utterance).map .oracle
  | .fetching _ query => some (.store query)
  | .analyzing entry _ request =>
    (Analysis.question? p.limits entry.results.items request).map .oracle
  | _ => none

/-- The oracle's answer to the question of the stage. Where nothing is asked, nothing depends on it. -/
def answer (p : Pipeline) (w : Surroundings) (cache : Cache) (t : Turn) :
    Timed (Except OracleError String) :=
  match t.question? p cache with
  | some (.oracle call) => w.oracle call
  | _ => ⟨0, .ok ""⟩

/-- The stage after a decision, by its kind and its parts. -/
def afterDecision (utterance : String) (d : Decision) : Stage :=
  match d.kind, d.action.filter?, d.action.request? with
  | .newQuery, some filter, _ => .compiling ⟨.filter filter, utterance, none⟩
  | .cachedAnalysis, _, some request => .reading request
  | .combined, some filter, some request => .compiling ⟨.filter filter, utterance, some request⟩
  | kind, _, _ => .finished (.error (.missingPart kind))

def analysisOutcome (entry : CacheEntry) (query : Option Query) (report : Report) : Outcome :=
  match query with
  | some query => .fetchedAndAnalyzed query entry report
  | none => .analyzed entry report

/-- One stage of a turn: the turn after it, and the cache. -/
def step (p : Pipeline) (w : Surroundings) (cache : Cache) (t : Turn) : Turn × Cache :=
  match t.stage with
  | .classifying utterance history =>
    let answer := t.answer p w cache
    if answer.isLate p.settings.classification then (t.fail (.timeout .classification), cache)
    else
      match p.classifier.classify (t.situation cache history) utterance answer.value with
      | .error e => (t.fail (.intent e), cache)
      | .ok decision => (t.moveTo (afterDecision utterance decision), cache)
  | .compiling plan =>
    match p.compiler.compileInput t.context plan.input with
    | .error e => (t.fail (.compile e), cache)
    | .ok query => (t.moveTo (.fetching plan query), cache)
  | .fetching plan query =>
    let items := w.store query
    if items.isLate p.settings.fetch then (t.fail (.timeout .fetch), cache)
    else
      match items.value with
      | .error e => (t.fail (.fetch e), cache)
      | .ok items => (t.moveTo (.storing plan query items), cache)
  | .storing plan query items =>
    let made : CacheEntry := ⟨plan.results query items, w.clock⟩
    let entry := cache.stamp made
    let next := match plan.analysis with
      | some request => t.moveTo (.analyzing entry (some query) request)
      | none => t.succeed (.fetched query entry)
    (next, cache.put t.session made)
  | .reading request =>
    match cache.get t.session with
    | some entry => (t.moveTo (.analyzing entry none request), cache)
    | none => (t.fail .noCachedItems, cache)
  | .analyzing entry query request =>
    let answer := t.answer p w cache
    if answer.isLate p.settings.analysis then (t.fail (.timeout .analysis), cache)
    else
      match Analysis.report p.limits entry.results.items request answer.value with
      | .error e => (t.fail (.analysis e), cache)
      | .ok report => (t.succeed (analysisOutcome entry query report), cache)
  | .finished _ => (t, cache)

end Turn
end WorkQuery
