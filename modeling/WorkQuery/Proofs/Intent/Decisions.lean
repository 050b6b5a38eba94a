import WorkQuery.Intent.Classifier
import WorkQuery.Proofs.Outcome
import WorkQuery.Proofs.Session.Slots
import WorkQuery.Proofs.Text

/-!
# WorkQuery.Proofs.Intent.Decisions

What holds of the decision on an utterance, whoever has made it.

* `Decision.IsMade`: the confidence lies between zero and one, and the filter, if there is one, has
  passed the compiler's check. So it is of the oracle's decisions and of those by cues and criteria.
* `Classifier.accept_ok`: what the rules do with a decision that they do not refuse.
* `Classifier.Promises`, `classify_promises`: what a decision promises once the rules have accepted
  it, and what its absence means.
-/

namespace WorkQuery

/-! ## Confidence -/

namespace Binary64

theorem le_iff {a b : Binary64} : a.le b = true ↔ a ≠ .nan ∧ b ≠ .nan ∧ b.lt a = false := by
  cases a <;> cases b <;> simp [le]

theorem lt_irrefl (a : Binary64) : a.lt a = false := by
  cases a <;> simp [lt]

end Binary64

theorem isConfidence_iff {x : Binary64} : isConfidence x = true ↔
    x ≠ .nan ∧ x.lt (.zero false) = false ∧ (Binary64.ofNat 1).lt x = false := by
  have hone : Binary64.ofNat 1 ≠ .nan := by decide
  simp [isConfidence, Binary64.le_iff, Binary64.zero, hone]
  tauto

namespace Decision

theorem isConfidence_clamp (x : Binary64) : isConfidence (clampConfidence x) = true := by
  have hzero : isConfidence (.zero false) = true := by decide +kernel
  have hone : isConfidence (.ofNat 1) = true := by decide +kernel
  simp only [clampConfidence]
  split
  · next hsame =>
    have hx : x ≠ .nan := by
      rintro rfl
      cases hsame
    split
    · exact hzero
    · next hlow =>
      split
      · exact hone
      · next hhigh => exact isConfidence_iff.mpr ⟨hx, by simpa using hlow, by simpa using hhigh⟩
  · exact hzero

theorem clamp_of_isConfidence {x : Binary64} (h : isConfidence x = true) : clampConfidence x = x := by
  obtain ⟨hx, hlow, hhigh⟩ := isConfidence_iff.mp h
  have hsame : x.same x = true := by
    simp [Binary64.same, Binary64.le_iff, hx, Binary64.lt_irrefl]
  simp [clampConfidence, hsame, hlow, hhigh]

/-- The confidence lies between zero and one, and the filter passes the check. -/
structure IsMade (c : Compiler) (d : Decision) : Prop where
  confidence : isConfidence d.confidence = true
  filter : ∀ f, d.action.filter? = some f → c.check f = .ok ()

theorem make_isMade {c : Compiler} {action : Action}
    (h : ∀ f, action.filter? = some f → c.check f = .ok ()) (confidence : Binary64)
    (reasoning : String) : (make action confidence reasoning).IsMade c :=
  ⟨isConfidence_clamp confidence, h⟩

theorem make_isMade_of_none {c : Compiler} {action : Action} (h : action.filter? = none)
    (confidence : Binary64) (reasoning : String) : (make action confidence reasoning).IsMade c :=
  make_isMade (fun f hf => by cases h.symm.trans hf) confidence reasoning

theorem make_isMade_of_some {c : Compiler} {action : Action} {f : ItemFilter}
    (h : action.filter? = some f) (hcheck : c.check f = .ok ()) (confidence : Binary64)
    (reasoning : String) : (make action confidence reasoning).IsMade c :=
  make_isMade (fun f' hf => by
    obtain rfl := Option.some.inj (h.symm.trans hf)
    exact hcheck) confidence reasoning

/-! ## Decisions by the oracle's reply -/

theorem checkFilter_ok {c : Compiler} {f named : ItemFilter} (h : checkFilter c f = .ok named) :
    f.withTypeNames c.registry = named ∧ c.check named = .ok () := by
  simp only [checkFilter] at h
  split at h
  · next hcheck =>
    cases h
    exact ⟨rfl, hcheck⟩
  · cases h

end Decision

theorem Action.ofParts_ok {kind : IntentKind} {f : Option ItemFilter} {r : Option AnalysisRequest}
    {action : Action} (h : Action.ofParts kind f r = .ok action) :
    action.kind = kind ∧ action.filter? = f ∧ action.request? = r := by
  unfold Action.ofParts at h
  split at h <;> cases h <;> exact ⟨rfl, rfl, rfl⟩

theorem Action.filter?_isSome (action : Action) :
    action.filter?.isSome = true ↔ action.kind = .newQuery ∨ action.kind = .combined := by
  cases action <;> simp [Action.filter?, Action.kind]

theorem Action.request?_isSome (action : Action) :
    action.request?.isSome = true ↔ action.kind = .cachedAnalysis ∨ action.kind = .combined := by
  cases action <;> simp [Action.request?, Action.kind]

namespace Decision

variable {c : Compiler} {d : Decision} {utterance : String}

/-- A decision has the kind, the confidence and the reasoning of its draft, the filter with the
store's names of types, which passes the check, and the analysis, where the utterance stands for a
blank prompt. -/
theorem ofDraft_ok {draft : DecisionDraft} (h : ofDraft c utterance draft = .ok d) :
    isConfidence draft.confidence = true ∧ d.kind = draft.kind ∧ d.confidence = draft.confidence ∧
    d.reasoning = draft.reasoning ∧
    d.action.filter? = draft.filter.map (ItemFilter.withTypeNames c.registry) ∧
    (∀ f, d.action.filter? = some f → c.check f = .ok ()) ∧
    d.action.request? = draft.analysis.map fun (type, format, prompt) =>
      ⟨type, Reply.unlessBlank format, (Reply.unlessBlank prompt).getD utterance⟩ := by
  simp only [ofDraft, refusal_ok_iff] at h
  obtain ⟨hconfidence, h⟩ := h
  have hconfidence : isConfidence draft.confidence = true := by simpa using hconfidence
  -- with a filter or without one, the action is made of the parts in the same way
  obtain ⟨filter, action, hfilter, hcheck, haction, rfl⟩ : ∃ filter action,
      filter = draft.filter.map (ItemFilter.withTypeNames c.registry) ∧
      (∀ f, filter = some f → c.check f = .ok ()) ∧
      Action.ofParts draft.kind filter (draft.analysis.map fun (type, format, prompt) =>
        ⟨type, Reply.unlessBlank format, (Reply.unlessBlank prompt).getD utterance⟩) = .ok action ∧
      make action draft.confidence draft.reasoning = d := by
    cases hgiven : draft.filter with
    | none =>
      simp only [hgiven, ok_bind, bind_ok_iff] at h
      obtain ⟨action, haction, h⟩ := h
      refine ⟨none, action, rfl, fun f hf => ?_, haction, Except.ok.inj h⟩
      cases hf
    | some given =>
      simp only [hgiven, bind_ok_iff, map_ok_iff] at h
      obtain ⟨_, ⟨named, hnamed, rfl⟩, action, haction, h⟩ := h
      obtain ⟨rfl, hcheck⟩ := checkFilter_ok hnamed
      refine ⟨_, action, rfl, fun f hf => ?_, haction, Except.ok.inj h⟩
      cases hf
      exact hcheck
  obtain ⟨hkind, hsome, hrequest⟩ := Action.ofParts_ok haction
  exact ⟨hconfidence, hkind, clamp_of_isConfidence hconfidence, rfl, hsome.trans hfilter,
    fun f hf => hcheck f (hsome.symm.trans hf), hrequest⟩

theorem ofReply_ok {reply : String} (h : ofReply c utterance reply = .ok d) :
    ∃ json doc draft, Reply.jsonChars reply.toList = .ok json ∧ Data.Json.ofChars? json = some doc ∧
      DecisionDraft.ofData? doc = some draft ∧ ofDraft c utterance draft = .ok d := by
  simp only [ofReply, bind_ok_iff] at h
  obtain ⟨json, hjson, h⟩ := h
  split at h
  · next draft hdraft =>
    obtain ⟨doc, hdoc, hdraft⟩ := Option.bind_eq_some_iff.mp hdraft
    exact ⟨json, doc, draft, hjson, hdoc, hdraft, h⟩
  · cases h

theorem ofReply_isMade {reply : String} (h : ofReply c utterance reply = .ok d) : d.IsMade c := by
  obtain ⟨_, _, draft, -, -, -, hdraft⟩ := ofReply_ok h
  obtain ⟨hconfidence, -, hsame, -, -, hcheck, -⟩ := ofDraft_ok hdraft
  exact ⟨by rwa [hsame], hcheck⟩

end Decision

/-! ## Decisions by cues and criteria -/

namespace Classifier

variable {c : Classifier} {s : Situation} {text utterance : String} {d : Decision}
  {answer : Except OracleError String}

theorem retrieves_check {criteria : Criteria} {wantsAnalysis : Bool}
    (h : c.retrieves criteria wantsAnalysis = .ok true) : c.compiler.check criteria.filter = .ok () := by
  unfold retrieves at h
  split at h
  · cases h
  · split at h
    · next hcheck => exact hcheck
    · split at h <;> cases h

theorem retrieves_error {criteria : Criteria} {wantsAnalysis : Bool} {e : ClassifyError}
    (h : c.retrieves criteria wantsAnalysis = .error e) : ∃ fault, e = .criteria fault := by
  unfold retrieves at h
  split at h
  · cases h
  · split at h
    · cases h
    · split at h <;> cases h
      exact ⟨_, rfl⟩

/-- The decision of the cues and criteria, or why there is none: the criteria do not compile, or
there is neither a criterion nor a cue. -/
theorem byHeuristic_cases (c : Classifier) (text : String) :
    (∃ d, c.byHeuristic text = .ok d ∧ d.IsMade c.compiler) ∨
    (∃ fault, c.byHeuristic text = .error (.criteria fault)) ∨
    ∃ confidence, c.byHeuristic text = .error (c.unsure confidence) := by
  simp only [byHeuristic]
  cases hretrieves : c.retrieves (c.criteria text) (c.settings.cues.scan text).wantsAnalysis with
  | error e =>
    obtain ⟨fault, rfl⟩ := retrieves_error hretrieves
    exact .inr (.inl ⟨fault, rfl⟩)
  | ok retrieves =>
    simp only [ok_bind]
    split
    · exact .inl ⟨_, rfl, Decision.make_isMade_of_none rfl _ _⟩
    · split
      · exact .inl ⟨_, rfl, Decision.make_isMade_of_some rfl (retrieves_check hretrieves) _ _⟩
      · exact .inl ⟨_, rfl, Decision.make_isMade_of_some rfl (retrieves_check hretrieves) _ _⟩
      · exact .inl ⟨_, rfl, Decision.make_isMade_of_none rfl _ _⟩
      · exact .inr (.inr ⟨_, rfl⟩)

/-- The decision once the oracle has answered. Of the errors only the one that the oracle itself gave
is about the oracle, and it is reported only where cues and criteria do not decide instead. -/
theorem byOracle_cases (c : Classifier) (text : String) (answer : Except OracleError String) :
    (∃ d, c.byOracle text answer = .ok d ∧ d.IsMade c.compiler) ∨
    (∃ fault, c.byOracle text answer = .error (.criteria fault)) ∨
    (∃ confidence, c.byOracle text answer = .error (c.unsure confidence)) ∨
    ∃ e, c.byOracle text answer = .error (.oracle e) ∧ answer = .error e ∧
      c.settings.fallback = false := by
  cases answer with
  | ok reply =>
    rw [byOracle]
    cases hreply : Decision.ofReply c.compiler text reply with
    | ok d => exact .inl ⟨d, rfl, Decision.ofReply_isMade hreply⟩
    | error fault => exact .inr (.inl ⟨fault, rfl⟩)
  | error e =>
    rw [byOracle]
    split
    · rcases byHeuristic_cases c text with h | h | h
      · exact .inl h
      · exact .inr (.inl h)
      · exact .inr (.inr (.inl h))
    · next hfallback => exact .inr (.inr (.inr ⟨e, rfl, rfl, by simpa using hfallback⟩))

/-! ## Decisions after the rules -/

/-- The filter of the session's items that are no longer fresh. -/
def IsStale (s : Situation) (f : ItemFilter) : Prop :=
  ∃ entry, s.cache.peek s.session = some entry ∧ s.cache.isExpired entry = true ∧
    entry.results.filter = some f

theorem filterAgain?_cases {f : ItemFilter} (hstale : s.cache.get s.session = none)
    (h : c.filterAgain? s text = some f) : c.compiler.check f = .ok () ∨ IsStale s f := by
  simp only [filterAgain?] at h
  split at h
  · next hfound =>
    cases h
    cases hcheck : c.compiler.check (c.criteria text).filter with
    | ok u => exact .inl rfl
    | error e => simp [hcheck, Except.isOk, Except.toBool] at hfound
  · obtain ⟨entry, hpeek, hfilter⟩ := Option.bind_eq_some_iff.mp h
    refine .inr ⟨entry, hpeek, ?_, hfilter⟩
    simpa [Cache.get_eq hpeek] using hstale

/-- What the rules do with a decision. It is not sure enough; or it stands, and has fresh items if it
is an analysis of them alone; or it is such an analysis without fresh items, and they are fetched
again if that is wanted and there is a filter for it. -/
theorem accept_cases (c : Classifier) (s : Situation) (text : String) (d : Decision) :
    c.accept s text d = .error (c.unsure d.confidence) ∨
    d.confidence.lt c.settings.threshold = false ∧
      ((d.kind = .cachedAnalysis → (s.cache.get s.session).isSome = true) ∧
          c.accept s text d = .ok d ∨
        s.cache.get s.session = none ∧
          (c.accept s text d = .error .noCachedItems ∨
            c.settings.fetchAgain = true ∧ ∃ f reasoning, c.filterAgain? s text = some f ∧
              c.accept s text d = .ok (.make (.newQuery f) d.confidence reasoning))) := by
  unfold accept
  split
  · exact .inl rfl
  · next hsure =>
    refine .inr ⟨by simpa using hsure, ?_⟩
    split
    · next hfresh =>
      refine .inl ⟨fun hkind => ?_, rfl⟩
      simpa [hkind] using hfresh
    · next hstale =>
      refine .inr ⟨?_, ?_⟩
      · simp only [Bool.or_eq_true, not_or, Bool.not_eq_true, Option.isSome_eq_false_iff,
          Option.isNone_iff_eq_none] at hstale
        exact hstale.2
      · split
        · exact .inl rfl
        · next hagain =>
          split
          · next f hf => exact .inr ⟨by simpa using hagain, f, _, hf, rfl⟩
          · exact .inl rfl

/-! ## Decisions on an utterance -/

/-- What a decision promises: it is sure enough and has the parts of its kind; an analysis of cached
items has fresh ones; and the filter passes the check, unless items that are no longer fresh are
fetched again by theirs. -/
structure Promises (c : Classifier) (s : Situation) (d : Decision) : Prop where
  confident : c.settings.threshold.le d.confidence = true
  filter : d.action.filter?.isSome = true ↔ d.kind = .newQuery ∨ d.kind = .combined
  request : d.action.request?.isSome = true ↔ d.kind = .cachedAnalysis ∨ d.kind = .combined
  fresh : d.kind = .cachedAnalysis →
    ∃ entry, s.cache.peek s.session = some entry ∧ s.cache.isExpired entry = false
  checked : ∀ f, d.action.filter? = some f →
    c.compiler.check f = .ok () ∨ c.settings.fetchAgain = true ∧ IsStale s f

theorem isConfidence_threshold {settings : ClassifierSettings} (h : settings.fault? = none) :
    isConfidence settings.threshold = true := by
  unfold ClassifierSettings.fault? at h
  split at h
  · cases h
  · next hthreshold => simpa using hthreshold

/-- Not less sure than the threshold is as sure at least, as neither is undefined. -/
theorem threshold_le {confidence : Binary64} (hc : c.settings.fault? = none)
    (hconfidence : isConfidence confidence = true)
    (hsure : confidence.lt c.settings.threshold = false) :
    c.settings.threshold.le confidence = true :=
  Binary64.le_iff.mpr ⟨(isConfidence_iff.mp (isConfidence_threshold hc)).1,
    (isConfidence_iff.mp hconfidence).1, hsure⟩

theorem accept_promises (hc : c.settings.fault? = none) (hmade : d.IsMade c.compiler) {d' : Decision}
    (h : c.accept s text d = .ok d') : c.Promises s d' := by
  rcases accept_cases c s text d with hbad | ⟨hsure, ⟨hfresh, hsame⟩ | ⟨hstale, hbad | hagain⟩⟩
  · cases hbad.symm.trans h
  · obtain rfl := Except.ok.inj (hsame.symm.trans h)
    refine ⟨threshold_le hc hmade.confidence hsure, d.action.filter?_isSome,
      d.action.request?_isSome, fun hkind => ?_, fun f hf => .inl (hmade.filter f hf)⟩
    obtain ⟨entry, hentry⟩ := Option.isSome_iff_exists.mp (hfresh hkind)
    exact ⟨entry, Cache.get_eq_some_iff.mp hentry⟩
  · cases hbad.symm.trans h
  · obtain ⟨hagain, f, reasoning, hf, hmake⟩ := hagain
    obtain rfl := Except.ok.inj (hmake.symm.trans h)
    -- the query is as sure as the analysis it replaces, and needs no fresh items
    refine ⟨?_, Action.filter?_isSome _, Action.request?_isSome _, fun hkind => ?_, fun f' hf' => ?_⟩
    · rw [Decision.make, Decision.clamp_of_isConfidence hmade.confidence]
      exact threshold_le hc hmade.confidence hsure
    · cases hkind
    · cases hf'
      exact (filterAgain?_cases hstale hf).imp_right fun h => ⟨hagain, h⟩

theorem accept_error {e : ClassifyError} (h : c.accept s text d = .error e) :
    e = c.unsure d.confidence ∨ e = .noCachedItems ∧ s.cache.get s.session = none := by
  rcases accept_cases c s text d with hbad | ⟨-, ⟨-, hsame⟩ | ⟨hstale, hbad | ⟨-, _, _, -, hmake⟩⟩⟩
  · exact .inl (Except.error.inj (h.symm.trans hbad))
  · cases hsame.symm.trans h
  · exact .inr ⟨Except.error.inj (h.symm.trans hbad), hstale⟩
  · cases hmake.symm.trans h

/-- The decision before the rules, if the utterance is not blank. -/
theorem classify_of_not_blank {utterance : String} (h : Text.isBlankText utterance = false)
    (answer : Except OracleError String) : c.classify s utterance answer =
      (if c.usesOracle then c.byOracle (Text.trim utterance) answer
        else c.byHeuristic (Text.trim utterance)) >>= c.accept s (Text.trim utterance) := by
  rw [← Text.isBlankText_trim_eq] at h
  simp only [classify, h, Bool.false_eq_true, if_false]
  split
  · next hok => rw [hok, ok_bind]
  · next herror =>
    rw [herror]
    rfl

theorem question?_isSome {utterance : String} : (c.question? s utterance).isSome = true ↔
    Text.isBlankText utterance = false ∧ c.usesOracle = true := by
  simp only [question?, Text.isBlankText_trim_eq]
  split <;> simp_all

/-- The decision before the rules, or why there is none; what the oracle has failed at is reported
only where it is asked, and cues and criteria do not decide instead. -/
theorem decided_cases (c : Classifier) (text : String) (answer : Except OracleError String) :
    let decided := if c.usesOracle then c.byOracle text answer else c.byHeuristic text
    (∃ d, decided = .ok d ∧ d.IsMade c.compiler) ∨
    (∃ fault, decided = .error (.criteria fault)) ∨
    (∃ confidence, decided = .error (c.unsure confidence)) ∨
    ∃ e, decided = .error (.oracle e) ∧ c.usesOracle = true ∧ answer = .error e ∧
      c.settings.fallback = false := by
  intro decided
  by_cases husesOracle : c.usesOracle = true
  · simp only [decided, husesOracle, if_true, true_and]
    exact byOracle_cases c text answer
  · simp only [decided, husesOracle]
    rcases byHeuristic_cases c text with h | h | h
    · exact .inl h
    · exact .inr (.inl h)
    · exact .inr (.inr (.inl h))

theorem classify_blank {utterance : String} (h : Text.isBlankText utterance = true)
    (answer : Except OracleError String) : c.question? s utterance = none ∧
      c.classify s utterance answer = .error (c.unsure (.zero false)) := by
  rw [← Text.isBlankText_trim_eq] at h
  constructor
  · simp [question?, h]
  · simp [classify, h]

/-- Without a question it does not matter what the oracle would have answered. -/
theorem classify_unasked {utterance : String} (h : c.question? s utterance = none)
    (answer answer' : Except OracleError String) :
    c.classify s utterance answer = c.classify s utterance answer' := by
  cases hblank : Text.isBlankText utterance with
  | true => rw [(classify_blank hblank answer).2, (classify_blank hblank answer').2]
  | false =>
    have huses : c.usesOracle = false := by
      have hnot := question?_isSome.not.mp (by simpa using h)
      simpa [hblank] using hnot
    rw [classify_of_not_blank hblank, classify_of_not_blank hblank]
    simp [huses]

/-- The outcomes: a decision that the rules accept; not sure enough, or criteria that do not do; an
analysis without fresh items; or an oracle that was asked and failed. -/
theorem classify_cases (c : Classifier) (s : Situation) (utterance : String)
    (answer : Except OracleError String) :
    (∃ made d, made.IsMade c.compiler ∧ c.accept s (Text.trim utterance) made = .ok d ∧
      c.classify s utterance answer = .ok d) ∨
    (∃ confidence, c.classify s utterance answer = .error (c.unsure confidence)) ∨
    (∃ fault, c.classify s utterance answer = .error (.criteria fault)) ∨
    (s.cache.get s.session = none ∧ c.classify s utterance answer = .error .noCachedItems) ∨
    ∃ e, c.classify s utterance answer = .error (.oracle e) ∧
      (c.question? s utterance).isSome = true ∧ answer = .error e ∧ c.settings.fallback = false := by
  cases hblank : Text.isBlankText utterance with
  | true => exact .inr (.inl ⟨_, (classify_blank hblank answer).2⟩)
  | false =>
    rw [classify_of_not_blank hblank, question?_isSome]
    rcases decided_cases c (Text.trim utterance) answer with ⟨made, hdecided, hmade⟩ |
      ⟨fault, hdecided⟩ | ⟨confidence, hdecided⟩ | ⟨e, hdecided, huses, hanswer, hfallback⟩
    · rw [hdecided, ok_bind]
      cases haccept : c.accept s (Text.trim utterance) made with
      | ok d => exact .inl ⟨made, d, hmade, haccept, rfl⟩
      | error e =>
        rcases accept_error haccept with rfl | ⟨rfl, hstale⟩
        · exact .inr (.inl ⟨_, rfl⟩)
        · exact .inr (.inr (.inr (.inl ⟨hstale, rfl⟩)))
    · rw [hdecided]
      exact .inr (.inr (.inl ⟨fault, rfl⟩))
    · rw [hdecided]
      exact .inr (.inl ⟨confidence, rfl⟩)
    · rw [hdecided]
      exact .inr (.inr (.inr (.inr ⟨e, rfl, ⟨hblank, huses⟩, hanswer, hfallback⟩)))

/-- For all settings that are in order, whatever the oracle answers, the session's items, the time,
the earlier turns and the utterance: a decision promises what it should; that there are no cached
items is said only if the session has no fresh ones; that the oracle failed, only if it was asked and
did, and cues and criteria do not decide instead; and a blank utterance is not asked about and is
refused as not sure at all. Where nothing is asked, no answer matters. -/
theorem classify_promises (c : Classifier) (hc : c.settings.fault? = none) (s : Situation)
    (utterance : String) (answer : Except OracleError String) :
    (∀ d, c.classify s utterance answer = .ok d → c.Promises s d) ∧
    (c.classify s utterance answer = .error .noCachedItems →
      ∀ entry, s.cache.peek s.session = some entry → s.cache.isExpired entry = true) ∧
    (∀ e, c.classify s utterance answer = .error (.oracle e) →
      (c.question? s utterance).isSome = true ∧ answer = .error e ∧ c.settings.fallback = false) ∧
    (Text.isBlankText utterance = true → c.question? s utterance = none ∧
      c.classify s utterance answer = .error (.unsure (.zero false) c.settings.threshold)) ∧
    (c.question? s utterance = none →
      ∀ answer', c.classify s utterance answer' = c.classify s utterance answer) := by
  refine ⟨fun d hd => ?_, fun herror entry hpeek => ?_, fun e herror => ?_,
    fun hblank => classify_blank hblank answer, fun h answer' => classify_unasked h answer' answer⟩
  · rcases classify_cases c s utterance answer with ⟨made, d', hmade, haccept, h⟩ | ⟨_, h⟩ | ⟨_, h⟩ |
      ⟨-, h⟩ | ⟨_, h, -⟩
    · obtain rfl := Except.ok.inj (h.symm.trans hd)
      exact accept_promises hc hmade haccept
    all_goals cases h.symm.trans hd
  · rcases classify_cases c s utterance answer with ⟨_, _, -, -, h⟩ | ⟨_, h⟩ | ⟨_, h⟩ |
      ⟨hstale, -⟩ | ⟨_, h, -⟩
    case inr.inr.inr.inl => simpa [Cache.get_eq hpeek] using hstale
    all_goals cases h.symm.trans herror
  · rcases classify_cases c s utterance answer with ⟨_, _, -, -, h⟩ | ⟨_, h⟩ | ⟨_, h⟩ | ⟨-, h⟩ |
      ⟨e', h, hfailed⟩
    case inr.inr.inr.inr =>
      cases h.symm.trans herror
      exact hfailed
    all_goals cases h.symm.trans herror

/-- The items are a nanosecond past their minute: the oracle's analysis of them becomes a query by the
filter that brought them. -/
theorem classify_promises_stale :
    let c : Classifier := ⟨Compiler.standard, { fetchAgain := true }, true⟩
    let stored := ({ freshness := ⟨60⟩ } : Cache).put ⟨1⟩ ⟨⟨[], some {}, none, "all"⟩, 0⟩
    let s : Situation := ⟨stored.advance 60000000001, ⟨1⟩, []⟩
    let answer := "\x7b\"intent_type\":\"CACHED_ANALYSIS\",\"confidence\":1," ++
      "\"analysis\":\x7b\"analysis_type\":\"summary\"\x7d\x7d"
    c.settings.fault? = none ∧ ∃ d, c.classify s "sum up" (.ok answer) = .ok d ∧
      d.action = .newQuery {} ∧ c.Promises s d := by
  intro c stored s answer
  have hc : c.settings.fault? = none := by decide +kernel
  have haction : (c.classify s "sum up" (.ok answer)).toOption.map Decision.action =
      some (.newQuery {}) := by decide +kernel
  cases hd : c.classify s "sum up" (.ok answer) with
  | error e =>
    rw [hd] at haction
    cases haction
  | ok d =>
    rw [hd] at haction
    exact ⟨hc, d, rfl, Option.some.inj haction, (classify_promises c hc s _ _).1 d hd⟩

end Classifier
end WorkQuery
