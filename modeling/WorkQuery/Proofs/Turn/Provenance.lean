import WorkQuery.Proofs.Session.Slots
import WorkQuery.Proofs.Turn.Trace

/-!
# WorkQuery.Proofs.Turn.Provenance

Where the stages of a turn come from, read backwards from the stage.

* `Plans`, `Fetches`, `Requests`: how a call comes to the plan of a fetch, to the items of that fetch
  and to a request for an analysis of cached items, moment by moment.
* `Plans.decided`, `Requests.decided`: the one moment and the decision, for a call with an utterance.
* `stored_peek`: what is in the session's place after the items were stored.
* `Reaches.classifying` to `Reaches.analyzingNew`: the moments before each stage.
-/

namespace WorkQuery

/-- Through the moments the call comes to the plan of a fetch. -/
inductive Plans (p : Pipeline) (c : Call) : List Moment → FetchPlan → Prop where
  | ofFilter {f} : c.opening = .filter f → Plans p c [] ⟨.filter f, f.describe, none⟩
  | ofCondition {text} : c.opening = .condition text →
      Plans p c [] ⟨.condition text, Text.trim text, none⟩
  | ofDecision {utterance history decided d f} : c.opening = .utterance utterance history →
      Decides p c decided utterance history d → d.action.filter? = some f →
      Plans p c [decided] ⟨.filter f, utterance, d.action.request?⟩

/-- Through the moments the call comes to a request for an analysis of cached items. -/
inductive Requests (p : Pipeline) (c : Call) : List Moment → AnalysisRequest → Prop where
  | ofRequest {request} : c.opening = .request request → Requests p c [] request
  | ofDecision {utterance history decided d request} :
      c.opening = .utterance utterance history → Decides p c decided utterance history d →
      d.action = .cachedAnalysis request → Requests p c [decided] request

/-- Through the moments the call fetches: what it plans to fetch by compiles to the query, and the
store gives all the items for the query. -/
inductive Fetches (p : Pipeline) (c : Call) : List Moment → FetchPlan → Query → List WorkItem → Prop
  where
  | mk {planned compiled fetched plan query items} : Plans p c planned plan →
      p.compiler.compileInput c.context plan.input = .ok query → Gives p fetched query items →
      Fetches p c (planned ++ [compiled, fetched]) plan query items

section Utterance

variable {p : Pipeline} {c : Call} {ms : List Moment} {utterance : String} {history : List String}

theorem Plans.decided {plan : FetchPlan} (h : Plans p c ms plan)
    (hopening : c.opening = .utterance utterance history) :
    ∃ decided d f, ms = [decided] ∧ Decides p c decided utterance history d ∧
      d.action.filter? = some f ∧ plan = ⟨.filter f, utterance, d.action.request?⟩ := by
  cases h with
  | ofFilter hother => cases hopening.symm.trans hother
  | ofCondition hother => cases hopening.symm.trans hother
  | ofDecision hsame hd hfilter =>
    cases hopening.symm.trans hsame
    exact ⟨_, _, _, rfl, hd, hfilter, rfl⟩

theorem Requests.decided {request : AnalysisRequest} (h : Requests p c ms request)
    (hopening : c.opening = .utterance utterance history) :
    ∃ decided d, ms = [decided] ∧ Decides p c decided utterance history d ∧
      d.action = .cachedAnalysis request := by
  cases h with
  | ofRequest hother => cases hopening.symm.trans hother
  | ofDecision hsame hd haction =>
    cases hopening.symm.trans hsame
    exact ⟨_, _, rfl, hd, haction⟩

end Utterance

theorem stored_peek {p : Pipeline} {i : Nat} {c : Call} {m : Moment} {plan : FetchPlan}
    {query : Query} {items : List WorkItem}
    (hturn : m.world.turns[i]? = some (c.turn (.storing plan query items))) :
    (m.after p i).cache.peek c.session =
      some ⟨⟨items, plan.filter?, some query, plan.description⟩, m.world.cache.now⟩ := by
  rw [World.after_cache hturn rfl, Moment.cacheAfter, Cache.peek_put, if_pos rfl]
  rfl

namespace Reaches

variable {p : Pipeline} {i : Nat} {c : Call} {ms : List Moment} {stage : Stage}

theorem classifying {utterance history} (h : Reaches p i c ms (.classifying utterance history)) :
    ms = [] ∧ c.opening = .utterance utterance history := by
  cases h with
  | begun hbegins =>
    cases hbegins with
    | utterance hopening => exact ⟨rfl, hopening⟩
  | took _ _ htakes => cases htakes

theorem compiling {plan} (h : Reaches p i c ms (.compiling plan)) : Plans p c ms plan := by
  cases h with
  | begun hbegins =>
    cases hbegins with
    | filter hopening => exact .ofFilter hopening
    | condition hopening => exact .ofCondition hopening
  | took hearlier _ htakes =>
    cases htakes with
    | decidedFetch hd hfilter =>
      obtain ⟨rfl, hopening⟩ := hearlier.classifying
      exact .ofDecision hopening hd hfilter

theorem fetching {plan query} (h : Reaches p i c ms (.fetching plan query)) :
    ∃ planned compiled, ms = planned ++ [compiled] ∧ Plans p c planned plan ∧
      p.compiler.compileInput c.context plan.input = .ok query := by
  cases h with
  | begun hbegins => cases hbegins
  | took hearlier _ htakes =>
    cases htakes with
    | compiled hquery => exact ⟨_, _, rfl, hearlier.compiling, hquery⟩

theorem storing {plan query items} (h : Reaches p i c ms (.storing plan query items)) :
    Fetches p c ms plan query items := by
  cases h with
  | begun hbegins => cases hbegins
  | took hearlier _ htakes =>
    cases htakes with
    | fetched hgives =>
      obtain ⟨planned, compiled, rfl, hplans, hquery⟩ := hearlier.fetching
      rw [List.append_assoc]
      exact .mk hplans hquery hgives

theorem reading {request} (h : Reaches p i c ms (.reading request)) : Requests p c ms request := by
  cases h with
  | begun hbegins =>
    cases hbegins with
    | request hopening => exact .ofRequest hopening
  | took hearlier _ htakes =>
    cases htakes with
    | decidedAnalysis hd haction =>
      obtain ⟨rfl, hopening⟩ := hearlier.classifying
      exact .ofDecision hopening hd haction

theorem analyzing {entry request} (h : Reaches p i c ms (.analyzing entry none request)) :
    ∃ asked read, ms = asked ++ [read] ∧ Requests p c asked request ∧
      read.world.cache.get c.session = some entry := by
  cases h with
  | begun hbegins => cases hbegins
  | took hearlier _ htakes =>
    cases htakes with
    | found hentry => exact ⟨_, _, rfl, hearlier.reading, hentry⟩

/-- Items just fetched are analyzed as they were stored, whatever is in the session's place by
then. -/
theorem analyzingNew {entry query request}
    (h : Reaches p i c ms (.analyzing entry (some query) request)) :
    ∃ fetching stored plan items, ms = fetching ++ [stored] ∧
      Fetches p c fetching plan query items ∧ plan.analysis = some request ∧
      stored.world.turns[i]? = some (c.turn (.storing plan query items)) ∧
      entry = ⟨plan.results query items, stored.world.cache.now⟩ := by
  cases h with
  | begun hbegins => cases hbegins
  | took hearlier hturn htakes =>
    cases htakes with
    | storedFirst hrequest => exact ⟨_, _, _, _, rfl, hearlier.storing, hrequest, hturn, rfl⟩

end Reaches
end WorkQuery
