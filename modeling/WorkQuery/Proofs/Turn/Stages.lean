import WorkQuery.Turn.World

/-!
# WorkQuery.Proofs.Turn.Stages

What one stage of a turn can do.

* `Takes`: the stages that may follow a stage, case by case, each with what it rests on.
* `takes_step`: `Turn.step` does nothing else, so that a case analysis on `Takes` says where a turn
  came from; and only the stage `storing` changes the cache.
-/

namespace WorkQuery

/-- What the oracle says to the question of a stage. -/
def Moment.answer (p : Pipeline) (m : Moment) (c : Call) (stage : Stage) :
    Timed (Except OracleError String) :=
  (c.turn stage).answer p m.around m.world.cache

/-- The classifier makes the decision of an utterance, and in time. -/
structure Decides (p : Pipeline) (c : Call) (m : Moment) (utterance : String)
    (history : List String) (d : Decision) : Prop where
  inTime : (m.answer p c (.classifying utterance history)).isLate p.settings.classification = false
  classified : p.classifier.classify ⟨m.world.cache, c.session, history⟩ utterance
    (m.answer p c (.classifying utterance history)).value = .ok d

/-- The store gives the items for the query, and in time. -/
structure Gives (p : Pipeline) (m : Moment) (query : Query) (items : List WorkItem) : Prop where
  inTime : (m.around.store query).isLate p.settings.fetch = false
  value : (m.around.store query).value = .ok items

/-- The oracle's answer on the items of an entry makes the report, and in time. -/
structure Reports (p : Pipeline) (c : Call) (m : Moment) (entry : CacheEntry) (query : Option Query)
    (request : AnalysisRequest) (report : Report) : Prop where
  inTime : (m.answer p c (.analyzing entry query request)).isLate p.settings.analysis = false
  report : Analysis.report p.limits entry.results.items request
    (m.answer p c (.analyzing entry query request)).value = .ok report

/-- At the moment, the turn of the call goes from the first stage to the second. -/
inductive Takes (p : Pipeline) (c : Call) (m : Moment) : Stage → Stage → Prop where
  | decidedLate {utterance history} :
      (m.answer p c (.classifying utterance history)).isLate p.settings.classification = true →
      Takes p c m (.classifying utterance history) (.finished (.error (.timeout .classification)))
  | undecided {utterance history e} :
      p.classifier.classify ⟨m.world.cache, c.session, history⟩ utterance
        (m.answer p c (.classifying utterance history)).value = .error e →
      Takes p c m (.classifying utterance history) (.finished (.error (.intent e)))
  | decidedFetch {utterance history d filter} : Decides p c m utterance history d →
      d.action.filter? = some filter →
      Takes p c m (.classifying utterance history)
        (.compiling ⟨.filter filter, utterance, d.action.request?⟩)
  | decidedAnalysis {utterance history d request} : Decides p c m utterance history d →
      d.action = .cachedAnalysis request →
      Takes p c m (.classifying utterance history) (.reading request)
  | rejected {plan e} : p.compiler.compileInput c.context plan.input = .error e →
      Takes p c m (.compiling plan) (.finished (.error (.compile e)))
  | compiled {plan query} : p.compiler.compileInput c.context plan.input = .ok query →
      Takes p c m (.compiling plan) (.fetching plan query)
  | fetchedLate {plan query} : (m.around.store query).isLate p.settings.fetch = true →
      Takes p c m (.fetching plan query) (.finished (.error (.timeout .fetch)))
  | unfetched {plan query e} : (m.around.store query).value = .error e →
      Takes p c m (.fetching plan query) (.finished (.error (.fetch e)))
  | fetched {plan query items} : Gives p m query items →
      Takes p c m (.fetching plan query) (.storing plan query items)
  | stored {plan query items} : plan.analysis = none →
      Takes p c m (.storing plan query items)
        (.finished (.ok (.fetched query ⟨plan.results query items, m.world.cache.now⟩)))
  | storedFirst {plan query items request} : plan.analysis = some request →
      Takes p c m (.storing plan query items)
        (.analyzing ⟨plan.results query items, m.world.cache.now⟩ (some query) request)
  | found {request entry} : m.world.cache.get c.session = some entry →
      Takes p c m (.reading request) (.analyzing entry none request)
  | notFound {request} : m.world.cache.get c.session = none →
      Takes p c m (.reading request) (.finished (.error .noCachedItems))
  | reportedLate {entry query request} :
      (m.answer p c (.analyzing entry query request)).isLate p.settings.analysis = true →
      Takes p c m (.analyzing entry query request) (.finished (.error (.timeout .analysis)))
  | unreported {entry query request e} :
      Analysis.report p.limits entry.results.items request
        (m.answer p c (.analyzing entry query request)).value = .error e →
      Takes p c m (.analyzing entry query request) (.finished (.error (.analysis e)))
  | reported {entry request report} : Reports p c m entry none request report →
      Takes p c m (.analyzing entry none request) (.finished (.ok (.analyzed entry report)))
  | reportedNew {entry query request report} : Reports p c m entry (some query) request report →
      Takes p c m (.analyzing entry (some query) request)
        (.finished (.ok (.fetchedAndAnalyzed query entry report)))

variable {p : Pipeline} {c : Call} {m : Moment} {stage : Stage}

/-- A decision has what its kind needs, so that the turn goes on. -/
theorem takes_decision {utterance : String} {history : List String} {d : Decision}
    (h : Decides p c m utterance history d) :
    Takes p c m (.classifying utterance history) (Turn.afterDecision utterance d) := by
  obtain ⟨action, confidence, reasoning⟩ := d
  cases action with
  | newQuery f => exact .decidedFetch h rfl
  | cachedAnalysis r => exact .decidedAnalysis h rfl
  | combined f r => exact .decidedFetch h rfl

theorem Decides.unique {utterance : String} {history : List String} {d d' : Decision}
    (h : Decides p c m utterance history d) (h' : Decides p c m utterance history d') : d = d' :=
  Except.ok.inj (h.classified.symm.trans h'.classified)

theorem Stage.eq_finished {result : Except TurnError Outcome} (h : stage.result? = some result) :
    stage = .finished result := by
  cases stage with
  | finished => exact congrArg Stage.finished (Option.some.inj h)
  | classifying | compiling | fetching | storing | reading | analyzing => cases h

/-- A turn that has ended takes no further stage. -/
theorem Takes.isOpen {next : Stage} (h : Takes p c m stage next) : stage.result? = none := by
  cases h <;> rfl

/-- The cache after a stage of the turn of the call. -/
def Moment.cacheAfter (m : Moment) (c : Call) : Stage → Cache
  | .storing plan query items =>
    m.world.cache.put c.session ⟨plan.results query items, m.around.clock⟩
  | _ => m.world.cache

theorem Moment.cacheAfter_freshness :
    (m.cacheAfter c stage).freshness = m.world.cache.freshness := by
  cases stage <;> rfl

/-- A turn with stages left takes one of the steps of `Takes`, and keeps its session and its
context. -/
theorem takes_step (h : stage.result? = none) :
    ∃ next, (c.turn stage).step p m.around m.world.cache = (c.turn next, m.cacheAfter c stage) ∧
      Takes p c m stage next := by
  cases stage with
  | classifying utterance history =>
    unfold Call.turn
    simp only [Turn.step]
    split
    · next hlate => exact ⟨_, rfl, .decidedLate hlate⟩
    · next hlate =>
      split
      · next e he => exact ⟨_, rfl, .undecided he⟩
      · next d hd => exact ⟨_, rfl, takes_decision ⟨Bool.eq_false_iff.mpr hlate, hd⟩⟩
  | compiling plan =>
    unfold Call.turn
    simp only [Turn.step]
    split
    · next e he => exact ⟨_, rfl, .rejected he⟩
    · next query hquery => exact ⟨_, rfl, .compiled hquery⟩
  | fetching plan query =>
    unfold Call.turn
    simp only [Turn.step]
    split
    · next hlate => exact ⟨_, rfl, .fetchedLate hlate⟩
    · next hlate =>
      split
      · next e he => exact ⟨_, rfl, .unfetched he⟩
      · next items hitems => exact ⟨_, rfl, .fetched ⟨Bool.eq_false_iff.mpr hlate, hitems⟩⟩
  | storing plan query items =>
    unfold Call.turn
    simp only [Turn.step]
    split
    · next request hrequest => exact ⟨_, rfl, .storedFirst hrequest⟩
    · next hnone => exact ⟨_, rfl, .stored hnone⟩
  | reading request =>
    unfold Call.turn
    simp only [Turn.step]
    split
    · next entry hentry => exact ⟨_, rfl, .found hentry⟩
    · next hnone => exact ⟨_, rfl, .notFound hnone⟩
  | analyzing entry query request =>
    unfold Call.turn
    simp only [Turn.step]
    split
    · next hlate => exact ⟨_, rfl, .reportedLate hlate⟩
    · next hlate =>
      split
      · next e he => exact ⟨_, rfl, .unreported he⟩
      · next report hreport =>
        cases query with
        | none => exact ⟨_, rfl, .reported ⟨Bool.eq_false_iff.mpr hlate, hreport⟩⟩
        | some query => exact ⟨_, rfl, .reportedNew ⟨Bool.eq_false_iff.mpr hlate, hreport⟩⟩
  | finished result => cases h

end WorkQuery
