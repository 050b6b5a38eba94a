import WorkQuery.Proofs.Turn.Provenance

/-!
# WorkQuery.Proofs.Turn.Atomicity

When a session's place changes, and to what, whatever the order of the stages of the turns.

* `step_slots`: one event changes no place, or empties one, or puts the items of one finished fetch
  into the place of its session.
* `Reaches.cache_eq`: a turn that has stored nothing has changed nothing.
* `run_atomic`: both after any events, and what a failed analysis of new items leaves behind.
-/

namespace WorkQuery

/-- Whether a turn with the error has stored nothing. A failed analysis does not tell. -/
def TurnError.isBeforeStoring : TurnError → Bool
  | .analysis _ | .timeout .analysis => false
  | .intent _ | .compile _ | .fetch _ | .timeout _ | .noCachedItems | .missingPart _ => true

/-- Whether a turn at the stage has stored nothing so far. -/
def Stage.isUnstored : Stage → Bool
  | .classifying _ _ | .compiling _ | .fetching _ _ | .storing _ _ _ | .reading _ => true
  | .analyzing _ query _ => query.isNone
  | .finished (.ok outcome) => outcome.query?.isNone
  | .finished (.error e) => e.isBeforeStoring

section Turn

variable {p : Pipeline} {i : Nat} {c : Call} {m : Moment} {ms : List Moment} {stage next : Stage}

theorem Takes.unstored (h : Takes p c m stage next) (hnext : next.isUnstored = true) :
    stage.isUnstored = true ∧ m.cacheAfter c stage = m.world.cache := by
  cases h with
  | decidedLate | undecided | decidedFetch | decidedAnalysis | rejected | compiled | fetchedLate
  | unfetched | fetched | found | notFound | reported => exact ⟨rfl, rfl⟩
  | stored | storedFirst | reportedLate | unreported | reportedNew => cases hnext

theorem Reaches.cache_eq (h : Reaches p i c ms stage) (hstage : stage.isUnstored = true) :
    ∀ m ∈ ms, (m.after p i).cache = m.world.cache := by
  induction h with
  | begun => simp
  | took hearlier hturn htakes ih =>
    obtain ⟨hbefore, hcache⟩ := htakes.unstored hstage
    intro m hm
    rcases List.mem_append.mp hm with hm | hm
    · exact ih hbefore m hm
    · obtain rfl := List.mem_singleton.mp hm
      rw [World.after_cache hturn htakes.isOpen, hcache]

theorem Reaches.analysis_failed {e : TurnError} (h : Reaches p i c ms (.finished (.error e)))
    (he : e.isBeforeStoring = false) :
    ∃ earlier analyzed entry query request, ms = earlier ++ [analyzed] ∧
      Reaches p i c earlier (.analyzing entry query request) ∧
      (analyzed.after p i).cache = analyzed.world.cache := by
  cases h with
  | begun hbegins => cases hbegins
  | took hearlier hturn htakes =>
    cases htakes with
    | decidedLate | undecided | rejected | fetchedLate | unfetched | notFound => cases he
    | reportedLate | unreported =>
      exact ⟨_, _, _, _, _, rfl, hearlier, World.after_cache hturn rfl⟩

theorem Reaches.fetched_stored {query : Query} {entry : CacheEntry}
    (h : Reaches p i c ms (.finished (.ok (.fetched query entry)))) :
    ∃ fetching stored plan items, ms = fetching ++ [stored] ∧
      Fetches p c fetching plan query items ∧ entry.results = plan.results query items ∧
      (stored.after p i).cache.peek c.session = some entry := by
  cases h with
  | begun hbegins => cases hbegins
  | took hearlier hturn htakes =>
    cases htakes with
    | stored => exact ⟨_, _, _, _, rfl, hearlier.storing, rfl, stored_peek hturn⟩

end Turn

namespace World

variable {p : Pipeline} {f : Freshness} {now : Nat} {events : List Event}

/-- What one more event does to the places: nothing, or it empties one, or it is the moment at which
a call stores what it fetched in the place of its own session. -/
theorem step_slots (p : Pipeline) (f : Freshness) (now : Nat) (events : List Event) (e : Event) :
    let w := run p (start f now) events
    let after := w.step p e
    (∀ s, after.cache.peek s = w.cache.peek s) ∨
    (∃ s, e = .invalidate s ∧ after.cache.peek s = none ∧
      ∀ s', s' ≠ s → after.cache.peek s' = w.cache.peek s') ∨
    (∃ i around c plan query items, e = .stage i around ∧ (calls events)[i]? = some c ∧
      Fetches p c (moments p i (start f now) events) plan query items ∧
      after.cache.peek c.session =
        some ⟨⟨items, plan.filter?, some query, plan.description⟩, w.cache.now⟩ ∧
      ∀ s, s ≠ c.session → after.cache.peek s = w.cache.peek s) := by
  intro w after
  cases e with
  | call | wait => exact .inl fun s => rfl
  | invalidate s =>
    refine .inr (.inl ⟨s, rfl, ?_, fun s' hne => ?_⟩)
    · exact (Cache.peek_invalidate w.cache s s).trans (if_pos rfl)
    · exact (Cache.peek_invalidate w.cache s s').trans (if_neg hne)
  | stage i around =>
    cases ht : w.turns[i]? with
    | none =>
      have hsame : after = w := by simp only [after, step, ht]
      exact .inl fun s => by rw [hsame]
    | some t =>
      obtain ⟨c, stage, hcall, hturn, hreaches⟩ := turn_reaches ht
      have hafter : stage.result? = none → after.cache = Moment.cacheAfter ⟨w, around⟩ c stage :=
        fun hopen => after_cache (m := ⟨w, around⟩) hturn hopen
      cases stage with
      | storing plan query items =>
        refine .inr (.inr ⟨i, around, c, plan, query, items, rfl, hcall, hreaches.storing,
          stored_peek (m := ⟨w, around⟩) hturn, fun s hne => ?_⟩)
        rw [hafter rfl, Moment.cacheAfter, Cache.peek_put, if_neg hne]
      | classifying | compiling | fetching | reading | analyzing =>
        exact .inl fun s => by rw [hafter rfl]; rfl
      | finished result => exact .inl fun s => by rw [show after = w from step_ended hturn]

/-- A turn that was to fetch and then analyze, and whose analysis failed, has stored the new items;
the failure takes nothing away. -/
theorem combined_failed {i : Nat} {c : Call} {utterance : String} {history : List String}
    {d : Decision} {decided : Moment} {rest : List Moment} {e : TurnError}
    (hcall : (calls events)[i]? = some c) (hopening : c.opening = .utterance utterance history)
    (hmoments : moments p i (start f now) events = decided :: rest)
    (hd : Decides p c decided utterance history d) (hkind : d.kind = .combined)
    (hresult : (run p (start f now) events).result? i = some (.error e))
    (he : e.isBeforeStoring = false) :
    ∃ compiled fetched stored analyzed plan query items,
      rest = [compiled, fetched, stored, analyzed] ∧
      Fetches p c [decided, compiled, fetched] plan query items ∧
      (stored.after p i).cache.peek c.session =
        some ⟨⟨items, plan.filter?, some query, plan.description⟩, stored.world.cache.now⟩ ∧
      (analyzed.after p i).cache = analyzed.world.cache := by
  obtain ⟨earlier, analyzed, entry, query, request, hms, hearlier, hcache⟩ :=
    (result?_reaches hcall hresult).analysis_failed he
  rw [hmoments] at hms
  cases query with
  | none =>
    -- Only a decision to analyze cached items comes here.
    obtain ⟨asked, read, rfl, hrequests, -⟩ := hearlier.analyzing
    obtain ⟨first, d', rfl, hd', haction⟩ := hrequests.decided hopening
    cases hms
    rw [hd.unique hd', Decision.kind, haction] at hkind
    cases hkind
  | some query =>
    obtain ⟨fetching, stored, plan, items, rfl, hfetches, -, hturn, -⟩ := hearlier.analyzingNew
    obtain @⟨planned, compiled, fetched, _, _, _, hplans, hquery, hgives⟩ := hfetches
    obtain ⟨first, d', filter, rfl, -⟩ := hplans.decided hopening
    cases hms
    exact ⟨compiled, fetched, stored, analyzed, plan, query, items, rfl, .mk hplans hquery hgives,
      stored_peek hturn, hcache⟩

/-- After any events from an empty cache on, in any order: one more event changes no place, or is an
`invalidate` of the one that it empties, or is the moment at which a call, with its filter or
condition compiled and all items fetched in time, stores them in the place of its session; a call that
fails before it could store has changed nothing; a call that fetches and then fails to analyze has
stored, and the failure takes nothing away. -/
theorem run_atomic (p : Pipeline) (f : Freshness) (now : Nat) (events : List Event) :
    let w := run p (start f now) events
    (∀ e, let after := w.step p e
      (∀ s, after.cache.peek s = w.cache.peek s) ∨
      (∃ s, e = .invalidate s ∧ after.cache.peek s = none ∧
        ∀ s', s' ≠ s → after.cache.peek s' = w.cache.peek s') ∨
      (∃ i around c plan query items, e = .stage i around ∧ (calls events)[i]? = some c ∧
        Fetches p c (moments p i (start f now) events) plan query items ∧
        after.cache.peek c.session =
          some ⟨⟨items, plan.filter?, some query, plan.description⟩, w.cache.now⟩ ∧
        ∀ s, s ≠ c.session → after.cache.peek s = w.cache.peek s)) ∧
    (∀ i c e, (calls events)[i]? = some c → w.result? i = some (.error e) →
      e.isBeforeStoring = true →
      ∀ m ∈ moments p i (start f now) events, (m.after p i).cache = m.world.cache) ∧
    (∀ i c query entry, (calls events)[i]? = some c →
      w.result? i = some (.ok (.fetched query entry)) →
      ∃ fetching stored plan items,
        moments p i (start f now) events = fetching ++ [stored] ∧
        Fetches p c fetching plan query items ∧ entry.results = plan.results query items ∧
        (stored.after p i).cache.peek c.session = some entry) ∧
    (∀ i c utterance history d decided rest e, (calls events)[i]? = some c →
      c.opening = .utterance utterance history →
      moments p i (start f now) events = decided :: rest →
      Decides p c decided utterance history d → d.kind = .combined →
      w.result? i = some (.error e) → e.isBeforeStoring = false →
      ∃ compiled fetched stored analyzed plan query items,
        rest = [compiled, fetched, stored, analyzed] ∧
        Fetches p c [decided, compiled, fetched] plan query items ∧
        (stored.after p i).cache.peek c.session =
          some ⟨⟨items, plan.filter?, some query, plan.description⟩, stored.world.cache.now⟩ ∧
        (analyzed.after p i).cache = analyzed.world.cache) := by
  intro w
  refine ⟨step_slots p f now events, fun i c e hcall hresult he => ?_,
    fun i c query entry hcall hresult => ?_,
    fun i c utterance history d decided rest e hcall hopening hmoments hd hkind hresult he => ?_⟩
  · exact (result?_reaches hcall hresult).cache_eq he
  · exact (result?_reaches hcall hresult).fetched_stored
  · exact combined_failed hcall hopening hmoments hd hkind hresult he

/-- The fourth stage stores what was fetched. At the fifth the oracle fails to analyze it, and it
stays. -/
example :
    let p := Pipeline.withOracle ⟨⟨[], [], [], []⟩, {}⟩ { strategy := .heuristic } {}
    let crash : WorkItem := { id := 7, type := "Bug", title := "Crash", state := "New" }
    let around : Surroundings :=
      ⟨fun _ => ⟨0, .error .rateLimitExceeded⟩, fun _ => ⟨0, .ok [crash]⟩, 0⟩
    let w (stages : Nat) := run p (start {} 90)
      (.call ⟨⟨1⟩, .default, .utterance "summarize #7" []⟩ ::
        List.replicate stages (.stage 0 around))
    let items (stages : Nat) := ((w stages).cache.peek ⟨1⟩).map fun entry => entry.results.items
    [3, 4, 5].map items = [none, some [crash], some [crash]] ∧
      ((w 5).result? 0).map (fun
        | .ok _ => ""
        | .error e => e.message) = some "Analysis error: Rate limit exceeded" := by
  decide +kernel

end World
end WorkQuery
