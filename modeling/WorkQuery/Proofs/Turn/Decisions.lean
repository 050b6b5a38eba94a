import WorkQuery.Proofs.Intent.Decisions
import WorkQuery.Proofs.Query.Independence
import WorkQuery.Proofs.Turn.Atomicity

/-!
# WorkQuery.Proofs.Turn.Decisions

The filter of a decision compiles, wherever it is from: the oracle's reply, the criteria of the
utterance, or an entry of the cache that is no longer fresh.
-/

namespace WorkQuery

/-- The filter compiles in every context. -/
def Compiler.Accepts (c : Compiler) (f : ItemFilter) : Prop :=
  ∀ ctx, ∃ query, c.compile ctx f = .ok query

/-- If the decision has a filter, it compiles in every context. -/
def Decision.IsAccepted (c : Compiler) (d : Decision) : Prop :=
  ∀ f, d.action.filter? = some f → c.Accepts f

/-- The filters of all entries, fresh or not, compile in every context. -/
def Cache.IsAccepted (c : Compiler) (cache : Cache) : Prop :=
  ∀ s entry f, cache.peek s = some entry → entry.results.filter = some f → c.Accepts f

namespace Compiler

variable {c : Compiler} {ctx : QueryContext} {f : ItemFilter}

theorem accepts_of_compile {query : Query} (h : c.compile ctx f = .ok query) : c.Accepts f := by
  intro ctx'
  obtain ⟨query', hquery', -⟩ := (compileInput_agree c ctx ctx' (.filter f)).ok_of_ok h
  exact ⟨query', hquery'⟩

theorem accepts_of_check {u : Unit} (h : c.check f = .ok u) : c.Accepts f := by
  obtain ⟨query, hquery, -⟩ := map_ok_iff.mp h
  exact accepts_of_compile hquery

end Compiler

/-! ## Decisions -/

theorem Decision.IsMade.isAccepted {c : Compiler} {d : Decision} (h : d.IsMade c) : d.IsAccepted c :=
  fun f hf => Compiler.accepts_of_check (h.filter f hf)

namespace Classifier

variable {c : Classifier} {s : Situation} {text : String} {d : Decision}

/-- The filter to fetch by again is one of the utterance that has passed the check, or one that is in
the cache. -/
theorem filterAgain?_accepts {f : ItemFilter} (hcache : s.cache.IsAccepted c.compiler)
    (hstale : s.cache.get s.session = none) (h : c.filterAgain? s text = some f) :
    c.compiler.Accepts f := by
  rcases filterAgain?_cases hstale h with hcheck | ⟨entry, hentry, -, hf⟩
  · exact Compiler.accepts_of_check hcheck
  · exact hcache s.session entry f hentry hf

theorem accept_isAccepted {d' : Decision} (hcache : s.cache.IsAccepted c.compiler)
    (hd : d.IsAccepted c.compiler) (h : c.accept s text d = .ok d') : d'.IsAccepted c.compiler := by
  rcases accept_cases c s text d with hbad | ⟨-, ⟨-, hsame⟩ | ⟨hstale, hbad | ⟨-, f, _, hf, hmake⟩⟩⟩
  · cases hbad.symm.trans h
  · obtain rfl := Except.ok.inj (hsame.symm.trans h)
    exact hd
  · cases hbad.symm.trans h
  · cases hmake.symm.trans h
    rintro _ ⟨⟩
    exact filterAgain?_accepts hcache hstale hf

theorem classify_isAccepted {utterance : String} {answer : Except OracleError String}
    (hcache : s.cache.IsAccepted c.compiler) (h : c.classify s utterance answer = .ok d) :
    d.IsAccepted c.compiler := by
  rcases classify_cases c s utterance answer with ⟨made, _, hmade, haccept, hok⟩ | ⟨_, hbad⟩ |
    ⟨_, hbad⟩ | ⟨-, hbad⟩ | ⟨_, hbad, -⟩
  · cases hok.symm.trans h
    exact accept_isAccepted hcache hmade.isAccepted haccept
  all_goals cases hbad.symm.trans h

end Classifier

/-! ## Turns -/

theorem Fetches.accepts {p : Pipeline} {c : Call} {ms : List Moment} {plan : FetchPlan}
    {query : Query} {items : List WorkItem} {f : ItemFilter} (h : Fetches p c ms plan query items)
    (hf : plan.filter? = some f) : p.compiler.Accepts f := by
  obtain ⟨input, description, analysis⟩ := plan
  cases h with
  | mk _ hquery _ =>
    cases input with
    | filter f' =>
      cases hf
      exact Compiler.accepts_of_compile hquery
    | condition text => cases hf

namespace Reaches

variable {p : Pipeline} {i : Nat} {c : Call} {ms : List Moment}

theorem rejected {e : CompileError} (h : Reaches p i c ms (.finished (.error (.compile e)))) :
    ∃ planned m plan, ms = planned ++ [m] ∧ Plans p c planned plan ∧
      p.compiler.compileInput c.context plan.input = .error e := by
  cases h with
  | begun hbegins => cases hbegins
  | took hearlier _ htakes =>
    cases htakes with
    | rejected he => exact ⟨_, _, _, rfl, hearlier.compiling, he⟩

theorem not_missingPart {kind : IntentKind} :
    ¬ Reaches p i c ms (.finished (.error (.missingPart kind))) := by
  intro h
  cases h with
  | begun hbegins => cases hbegins
  | took _ _ htakes => cases htakes

end Reaches

namespace World

variable {p : Pipeline} {f : Freshness} {now : Nat} {events : List Event}

/-- What the turns leave in the cache has compiled. -/
theorem run_isAccepted : (run p (start f now) events).cache.IsAccepted p.compiler := by
  induction events using List.reverseRecOn with
  | nil => exact fun s entry filter hentry => nomatch hentry
  | append_singleton events e ih =>
    rw [run_concat]
    intro s entry filter hentry hfilter
    rcases step_slots p f now events e with hsame | ⟨s', -, hnone, hothers⟩ |
      ⟨i, around, c, plan, query, items, -, -, hfetches, hput, hothers⟩
    · rw [hsame s] at hentry
      exact ih s entry filter hentry hfilter
    · by_cases hs : s = s'
      · rw [hs, hnone] at hentry
        cases hentry
      · rw [hothers s hs] at hentry
        exact ih s entry filter hentry hfilter
    · by_cases hs : s = c.session
      · rw [hs, hput] at hentry
        cases hentry
        exact hfetches.accepts hfilter
      · rw [hothers s hs] at hentry
        exact ih s entry filter hentry hfilter

theorem classify_isAccepted {s : SessionId} {history : List String} {utterance : String}
    {answer : Except OracleError String} {d : Decision} (hp : p.classifier.compiler = p.compiler)
    (hd : p.classifier.classify ⟨(run p (start f now) events).cache, s, history⟩ utterance answer =
      .ok d) : d.IsAccepted p.compiler := by
  have hcache : (run p (start f now) events).cache.IsAccepted p.compiler := run_isAccepted
  rw [← hp] at hcache ⊢
  exact Classifier.classify_isAccepted hcache hd

/-- Where one compiler checks the filters of decisions and compiles them, a turn that begins with an
utterance does not fail to compile. -/
theorem utterance_compiles {i : Nat} {c : Call} {utterance : String} {history : List String}
    {e : TurnError} (hp : p.classifier.compiler = p.compiler) (hcall : (calls events)[i]? = some c)
    (hopening : c.opening = .utterance utterance history)
    (hresult : (run p (start f now) events).result? i = some (.error e)) :
    (∀ fault, e ≠ .compile fault) ∧ ∀ kind, e ≠ .missingPart kind := by
  have hreaches := result?_reaches hcall hresult
  constructor
  · rintro fault rfl
    obtain ⟨planned, m, plan, hms, hplans, hfault⟩ := hreaches.rejected
    obtain ⟨decided, d, filter, rfl, hd, hfilter, rfl⟩ := hplans.decided hopening
    have hdecided : decided ∈ moments p i (start f now) events := by simp [hms]
    obtain ⟨earlier, later, -, hworld⟩ := mem_moments hdecided
    have hclassified := hd.classified
    rw [hworld] at hclassified
    obtain ⟨query, hquery⟩ := classify_isAccepted hp hclassified filter hfilter c.context
    cases hquery.symm.trans hfault
  · rintro kind rfl
    exact hreaches.not_missingPart

/-- The same for a turn alone, on the cache that others have left. -/
theorem utterance_alone_compiles {σ : Type} {ask : Option Question → σ → Surroundings × σ}
    {memory : σ} {s : SessionId} {ctx : QueryContext} {utterance : String} {history : List String} {e : TurnError}
    (hp : p.classifier.compiler = p.compiler)
    (hresult : ((⟨s, ctx, .ofUtterance utterance history⟩ : Turn).run p ask
      (run p (start f now) events).cache memory).1 = .error e) :
    (∀ fault, e ≠ .compile fault) ∧ ∀ kind, e ≠ .missingPart kind := by
  let c : Call := ⟨s, ctx, .utterance utterance history⟩
  have hturn : ((run p (start f now) events).step p (.call c)).turns[(calls events).length]? =
      some ⟨s, ctx, .ofUtterance utterance history⟩ := by
    simp [step, c, Call.turn, Opening.stage, ← run_turns_length p f now]
  obtain ⟨stages, hend, -⟩ := run_alone ask memory hturn
  have hcache : ((run p (start f now) events).step p (.call c)).cache =
      (run p (start f now) events).cache := rfl
  rw [hcache, hresult] at hend
  have hevents : run p (start f now) (events ++ .call c :: stages) =
      run p ((run p (start f now) events).step p (.call c)) stages := by
    simp [run]
  rw [← hevents] at hend
  have hcall : (calls (events ++ .call c :: stages))[(calls events).length]? = some c := by
    simp [calls, Event.call?]
  exact utterance_compiles hp hcall rfl hend

/-- One oracle, one compiler, and a cache that was empty and that only the pipeline's turns write, in
any order of their stages. A turn that begins with an utterance never fails to compile a query, and
never for a missing part of a decision, be it among other turns or alone; whatever the oracle answers,
a decision has the parts of its kind, and its filter compiles in every context. -/
theorem withOracle_compiles (compiler : Compiler) (classifier : ClassifierSettings)
    (settings : TurnSettings) (f : Freshness) (now : Nat) (events : List Event) :
    let p := Pipeline.withOracle compiler classifier settings
    let w := run p (start f now) events
    (∀ i c utterance history e, (calls events)[i]? = some c →
      c.opening = .utterance utterance history → w.result? i = some (.error e) →
      (∀ fault, e ≠ .compile fault) ∧ ∀ kind, e ≠ .missingPart kind) ∧
    (∀ (σ : Type) (ask : Option Question → σ → Surroundings × σ) memory s ctx utterance history e,
      ((⟨s, ctx, .ofUtterance utterance history⟩ : Turn).run p ask w.cache memory).1 = .error e →
      (∀ fault, e ≠ .compile fault) ∧ ∀ kind, e ≠ .missingPart kind) ∧
    (∀ s utterance history answer d,
      p.classifier.classify ⟨w.cache, s, history⟩ utterance answer = .ok d →
      d.action.filter?.isSome = d.kind.needsFetch ∧
      d.action.request?.isSome = d.kind.needsAnalysis ∧
      ∀ filter, d.action.filter? = some filter →
        ∀ ctx, ∃ query, compiler.compile ctx filter = .ok query) := by
  intro p w
  refine ⟨fun i c utterance history e => utterance_compiles rfl,
    fun σ ask memory s ctx utterance history e => utterance_alone_compiles rfl,
    fun s utterance history answer d hd => ⟨?_, ?_, ?_⟩⟩
  · obtain ⟨action, confidence, reasoning⟩ := d
    cases action <;> rfl
  · obtain ⟨action, confidence, reasoning⟩ := d
    cases action <;> rfl
  · exact classify_isAccepted (p := p) rfl hd

end World
end WorkQuery
