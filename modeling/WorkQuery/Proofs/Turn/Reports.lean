import WorkQuery.Proofs.Outcome
import WorkQuery.Proofs.Turn.Provenance

/-!
# WorkQuery.Proofs.Turn.Reports

What the reports of turns are about, whatever the other turns do in between.

* `Reports.over`: the report of an analysis is about the items of the entry that it was given.
* `Reaches.analyzed`, `Reaches.fetchedAndAnalyzed`: where that entry is from.
* `Reaches.queries`: what a turn asks the store for.
* `run_reports`: these for the turns after any events.
-/

namespace WorkQuery

/-- The report is about the items: their number, how many of them the oracle is shown, and its answer
to the prompt with them, or what is said where there are none. -/
structure Report.Over (p : Pipeline) (m : Moment) (items : List WorkItem) (request : AnalysisRequest)
    (report : Report) : Prop where
  type : report.type = request.type
  total : report.total = items.length
  shown : report.shown = min items.length p.limits.items
  fixed : items = [] → report.text = "No work items available for analysis."
  answered : items ≠ [] →
    let answer := m.around.oracle ⟨.text, Analysis.prompt p.limits items request, p.limits.tokens⟩
    answer.isLate p.settings.analysis = false ∧ answer.value = .ok report.text

/-- What the stage asks the store for. -/
def Stage.query? : Stage → Option Query
  | .fetching _ query => some query
  | _ => none

/-- Whether the stage can lead to a fetch. -/
def Stage.leadsToFetch : Stage → Bool
  | .classifying _ _ | .compiling _ | .fetching _ _ => true
  | .storing _ _ _ | .reading _ | .analyzing _ _ _ | .finished _ => false

section Turn

variable {p : Pipeline} {i : Nat} {c : Call} {m : Moment} {ms : List Moment} {stage next : Stage}

theorem Reports.over {entry : CacheEntry} {query : Option Query} {request : AnalysisRequest}
    {report : Report} (h : Reports p c m entry query request report) :
    report.Over p m entry.results.items request := by
  obtain ⟨hinTime, hreport⟩ := h
  cases hitems : entry.results.items with
  | nil =>
    simp only [Analysis.report, hitems, List.isEmpty_nil, if_true, Except.ok.injEq] at hreport
    subst hreport
    exact ⟨rfl, rfl, by simp, fun _ => rfl, fun hne => absurd rfl hne⟩
  | cons item items =>
    have hanswer : m.answer p c (.analyzing entry query request) = m.around.oracle
        ⟨.text, Analysis.prompt p.limits (item :: items) request, p.limits.tokens⟩ := by
      simp [Moment.answer, Turn.answer, Turn.question?, Analysis.question?, Call.turn, hitems]
    rw [hanswer] at hinTime hreport
    simp only [Analysis.report, hitems, List.isEmpty_cons, Bool.false_eq_true, if_false,
      map_ok_iff] at hreport
    obtain ⟨text, htext, rfl⟩ := hreport
    exact ⟨rfl, rfl, rfl, nofun, fun _ => ⟨hinTime, htext⟩⟩

/-! ## Where the entry is from -/

theorem Reaches.analyzed {entry : CacheEntry} {report : Report}
    (h : Reaches p i c ms (.finished (.ok (.analyzed entry report)))) :
    ∃ asked read analyzed request, ms = asked ++ [read, analyzed] ∧ Requests p c asked request ∧
      read.world.cache.get c.session = some entry ∧
      report.Over p analyzed entry.results.items request := by
  cases h with
  | begun hbegins => cases hbegins
  | took hearlier hturn htakes =>
    cases htakes with
    | reported hreports =>
      obtain ⟨asked, read, rfl, hrequests, hentry⟩ := hearlier.analyzing
      exact ⟨asked, read, _, _, by simp, hrequests, hentry, hreports.over⟩

theorem Reaches.fetchedAndAnalyzed {query : Query} {entry : CacheEntry} {report : Report}
    (h : Reaches p i c ms (.finished (.ok (.fetchedAndAnalyzed query entry report)))) :
    ∃ fetching stored analyzed plan items request, ms = fetching ++ [stored, analyzed] ∧
      Fetches p c fetching plan query items ∧ plan.analysis = some request ∧
      entry = ⟨⟨items, plan.filter?, some query, plan.description⟩, stored.world.cache.now⟩ ∧
      (stored.after p i).cache.peek c.session = some entry ∧
      report.Over p analyzed entry.results.items request := by
  cases h with
  | begun hbegins => cases hbegins
  | took hearlier hturn htakes =>
    cases htakes with
    | reportedNew hreports =>
      obtain ⟨fetching, stored, plan, items, rfl, hfetches, hrequest, hstored, rfl⟩ :=
        hearlier.analyzingNew
      exact ⟨fetching, stored, _, plan, items, _, by simp, hfetches, hrequest, rfl,
        stored_peek hstored, hreports.over⟩

/-! ## What the store is asked for -/

theorem Moment.query?_eq (hturn : m.world.turns[i]? = some (c.turn stage)) :
    m.query? p i = stage.query? := by
  rw [Moment.query?, hturn]
  cases stage with
  | classifying utterance history =>
    simp only [Option.bind_some, Turn.question?, Call.turn, Stage.query?]
    cases p.classifier.question? _ utterance <;> rfl
  | analyzing entry query request =>
    simp only [Option.bind_some, Turn.question?, Call.turn, Stage.query?]
    cases Analysis.question? p.limits entry.results.items request <;> rfl
  | compiling | fetching | storing | reading | finished => rfl

theorem Takes.leadsToFetch (h : Takes p c m stage next) (hnext : next.leadsToFetch = true) :
    stage.leadsToFetch = true ∧ stage.query? = none := by
  cases h with
  | decidedFetch | compiled => exact ⟨rfl, rfl⟩
  | decidedLate | undecided | decidedAnalysis | rejected | fetchedLate | unfetched | fetched | stored
  | storedFirst | found | notFound | reportedLate | unreported | reported | reportedNew =>
    cases hnext

/-- Before the fetch nothing is asked. -/
theorem Reaches.no_query (h : Reaches p i c ms stage) (hstage : stage.leadsToFetch = true) :
    ms.filterMap (Moment.query? p i) = [] := by
  induction h with
  | begun => rfl
  | took hearlier hturn htakes ih =>
    obtain ⟨hbefore, hquery⟩ := htakes.leadsToFetch hstage
    rw [List.filterMap_append, ih hbefore]
    simp [Moment.query?_eq hturn, hquery]

/-- A turn asks the store for nothing, or once, at its fetch. -/
theorem Reaches.queries (h : Reaches p i c ms stage) :
    ms.filterMap (Moment.query? p i) = [] ∨
      ∃ earlier later plan query, ms = earlier ++ later ∧
        Reaches p i c earlier (.fetching plan query) ∧
        ms.filterMap (Moment.query? p i) = [query] := by
  induction h with
  | begun => exact .inl rfl
  | @took earlier m before next hearlier hturn htakes ih =>
    rw [List.filterMap_append]
    cases before with
    | fetching plan query =>
      refine .inr ⟨earlier, [m], plan, query, rfl, hearlier, ?_⟩
      rw [hearlier.no_query rfl]
      simp [Moment.query?_eq hturn, Stage.query?]
    | classifying | compiling | storing | reading | analyzing | finished =>
      have hnone : [m].filterMap (Moment.query? p i) = [] := by
        simp [Moment.query?_eq hturn, Stage.query?]
      rw [hnone, List.append_nil]
      rcases ih with ih | ⟨first, later, plan, query, rfl, hfirst, ih⟩
      · exact .inl ih
      · exact .inr ⟨first, later ++ [m], plan, query, by simp, hfirst, ih⟩

/-- A decision's filter is all that its turn fetches by. -/
theorem Reaches.decided_queries {utterance : String} {history : List String} {d : Decision}
    {decided : Moment} {rest : List Moment} (h : Reaches p i c (decided :: rest) stage)
    (hopening : c.opening = .utterance utterance history)
    (hd : Decides p c decided utterance history d) :
    (decided :: rest).filterMap (Moment.query? p i) = [] ∨
      ∃ filter query, d.action.filter? = some filter ∧
        p.compiler.compile c.context filter = .ok query ∧
        (decided :: rest).filterMap (Moment.query? p i) = [query] := by
  rcases h.queries with hnone | ⟨earlier, later, plan, query, hms, hearlier, hquery⟩
  · exact .inl hnone
  · obtain ⟨planned, compiled, rfl, hplans, hcompiled⟩ := hearlier.fetching
    obtain ⟨first, d', filter, rfl, hd', hfilter, rfl⟩ := hplans.decided hopening
    cases hms
    rw [← hd.unique hd'] at hfilter
    exact .inr ⟨filter, query, hfilter, hcompiled, hquery⟩

end Turn

namespace World

/-- After any events from an empty cache on, in any order. An analysis of cached items is about the
entry that was in the session's place when the turn looked there, no older than the limit. An analysis
of new items is about those that the turn itself fetched and stored, whatever came to the place since.
A turn that a decision sends to cached items asks the store for nothing; any other asks at most once,
for the query of its decision's filter. -/
theorem run_reports (p : Pipeline) (f : Freshness) (now : Nat) (events : List Event) :
    let w := run p (start f now) events
    (∀ i c entry report, (calls events)[i]? = some c →
      w.result? i = some (.ok (.analyzed entry report)) →
      ∃ asked read analyzed request,
        moments p i (start f now) events = asked ++ [read, analyzed] ∧
        Requests p c asked request ∧ read.world.cache.peek c.session = some entry ∧
        (0 < f.seconds →
          (read.world.cache.now : Int) ≤ entry.storedAt + Freshness.perSecond * f.seconds) ∧
        report.Over p analyzed entry.results.items request) ∧
    (∀ i c query entry report, (calls events)[i]? = some c →
      w.result? i = some (.ok (.fetchedAndAnalyzed query entry report)) →
      ∃ fetching stored analyzed plan items request,
        moments p i (start f now) events = fetching ++ [stored, analyzed] ∧
        Fetches p c fetching plan query items ∧ plan.analysis = some request ∧
        entry = ⟨⟨items, plan.filter?, some query, plan.description⟩, stored.world.cache.now⟩ ∧
        (stored.after p i).cache.peek c.session = some entry ∧
        report.Over p analyzed entry.results.items request) ∧
    (∀ i c utterance history d decided rest, (calls events)[i]? = some c →
      c.opening = .utterance utterance history →
      moments p i (start f now) events = decided :: rest →
      Decides p c decided utterance history d →
      let queries := (moments p i (start f now) events).filterMap (Moment.query? p i)
      (d.kind = .cachedAnalysis → queries = []) ∧
      (queries = [] ∨ ∃ filter query, d.action.filter? = some filter ∧
        p.compiler.compile c.context filter = .ok query ∧ queries = [query])) := by
  intro w
  refine ⟨fun i c entry report hcall hresult => ?_, fun i c query entry report hcall hresult => ?_,
    fun i c utterance history d decided rest hcall hopening hmoments hd => ?_⟩
  · obtain ⟨asked, read, analyzed, request, hms, hrequests, hget, hover⟩ :=
      (result?_reaches hcall hresult).analyzed
    obtain ⟨hpeek, hfresh⟩ := Cache.get_fresh hget
    have hread : read ∈ moments p i (start f now) events := by simp [hms]
    obtain ⟨earlier, later, -, hworld⟩ := mem_moments hread
    rw [hworld, run_freshness, ← hworld] at hfresh
    exact ⟨asked, read, analyzed, request, hms, hrequests, hpeek, hfresh, hover⟩
  · exact (result?_reaches hcall hresult).fetchedAndAnalyzed
  · obtain ⟨stage, -, hreaches⟩ := run_reaches p f now hcall
    rw [hmoments] at hreaches ⊢
    have hqueries := hreaches.decided_queries hopening hd
    refine ⟨fun hkind => ?_, hqueries⟩
    rcases hqueries with hnone | ⟨filter, query, hfilter, -, -⟩
    · exact hnone
    · obtain ⟨action, confidence, reasoning⟩ := d
      cases action with
      | cachedAnalysis => cases hfilter
      | newQuery | combined => cases hkind

/-- Another turn stores between the look at the place and the analysis, which is about what was there
before. -/
example :
    let p := Pipeline.withOracle ⟨⟨[], [], [], []⟩, {}⟩ {} {}
    let around : Surroundings := ⟨fun _ => ⟨0, .ok ""⟩, fun _ => ⟨0, .ok []⟩, 0⟩
    let fetch (i : Nat) : List Event := [.call ⟨⟨1⟩, .default, .filter { ids := [7] }⟩,
      .stage i around, .stage i around, .stage i around]
    let look : List Event := [.call ⟨⟨1⟩, .default, .request ⟨.summary, none, "sum up"⟩⟩,
      .stage 1 around]
    let w := run p (start {} 90) (fetch 0 ++ look ++ [.wait 5] ++ fetch 2 ++ [.stage 1 around])
    (w.cache.peek ⟨1⟩).map CacheEntry.storedAt = some 95 ∧
      (w.result? 1).map (fun result => result.toOption.map fun o => o.entry.storedAt) =
        some (some 90) := by
  constructor <;> rfl

end World
end WorkQuery
