import WorkQuery.Proofs.Turn.Stages
import WorkQuery.Turn.Run
import Mathlib.Data.List.Induction

/-!
# WorkQuery.Proofs.Turn.Trace

The turns of a world, through all of their moments.

* `Begins`, `Reaches`: the first stage of a turn, and the moments through which it came to its stage.
* `step_reaches`, `run_reaches`: after any events each call has its turn, which came there through its
  own moments, whatever the other turns did between them.
* `run_alone`: `Turn.run`, with no other turn in between, is one of those ways.
-/

namespace WorkQuery

inductive Begins (c : Call) : Stage → Prop where
  | utterance {text history} : c.opening = .utterance text history →
      Begins c (.classifying text history)
  | filter {f} : c.opening = .filter f → Begins c (.compiling ⟨.filter f, f.describe, none⟩)
  | condition {text} : c.opening = .condition text →
      Begins c (.compiling ⟨.condition text, Text.trim text, none⟩)
  | request {r} : c.opening = .request r → Begins c (.reading r)

theorem Call.begins (c : Call) : Begins c c.opening.stage := by
  cases h : c.opening with
  | utterance => exact .utterance h
  | filter => exact .filter h
  | condition => exact .condition h
  | request => exact .request h

/-- Through the moments, in order, the turn of the call comes to the stage. The turn's number is
`i`. -/
inductive Reaches (p : Pipeline) (i : Nat) (c : Call) : List Moment → Stage → Prop where
  | begun {stage} : Begins c stage → Reaches p i c [] stage
  | took {earlier m stage next} : Reaches p i c earlier stage →
      m.world.turns[i]? = some (c.turn stage) → Takes p c m stage next →
      Reaches p i c (earlier ++ [m]) next

theorem calls_concat (events : List Event) (e : Event) :
    calls (events ++ [e]) = calls events ++ e.call?.toList := by
  rw [calls, List.filterMap_append]
  cases e <;> rfl

namespace World

variable {p : Pipeline} {w : World} {events : List Event} {e : Event} {i j : Nat} {c : Call}
  {stage : Stage} {around : Surroundings}

theorem run_concat : run p w (events ++ [e]) = (run p w events).step p e := by
  rw [run, List.foldl_append]
  rfl

theorem moments_concat : moments p i w (events ++ [e]) =
    moments p i w events ++ ((run p w events).moment? i e).toList := by
  induction events generalizing w with
  | nil => simp [moments, run]
  | cons first events ih =>
    simp only [List.cons_append, moments, ih, List.append_assoc]
    rfl

theorem step_open (p : Pipeline) (around : Surroundings)
    (hturn : w.turns[i]? = some (c.turn stage)) (hopen : stage.result? = none) :
    ∃ next, w.step p (.stage i around) =
        ⟨Moment.cacheAfter ⟨w, around⟩ c stage, w.turns.set i (c.turn next)⟩ ∧
      Takes p c ⟨w, around⟩ stage next := by
  obtain ⟨next, hstep, htakes⟩ := takes_step (p := p) (c := c) (m := ⟨w, around⟩) hopen
  refine ⟨next, ?_, htakes⟩
  simp only [step, hturn]
  rw [hstep]

theorem step_ended {result : Except TurnError Outcome}
    (hturn : w.turns[i]? = some (c.turn (.finished result))) :
    w.step p (.stage i around) = w := by
  obtain ⟨hlt, hget⟩ := List.getElem?_eq_some_iff.mp hturn
  have hset : w.turns.set i (c.turn (.finished result)) = w.turns := by
    rw [← hget, List.set_getElem_self]
  simp only [step, hturn]
  exact congrArg (World.mk w.cache) hset

theorem step_turns_length :
    (w.step p e).turns.length = w.turns.length + e.call?.toList.length := by
  cases e with
  | call c => simp [step, Event.call?]
  | stage i around =>
    simp only [step]
    split <;> simp [Event.call?]
  | wait | invalidate => simp [step, Event.call?]

/-- An event that is not a stage of a turn leaves that turn where it is. -/
theorem step_turns_getElem? (he : ∀ around, e ≠ .stage i around) (hi : i < w.turns.length) :
    (w.step p e).turns[i]? = w.turns[i]? := by
  cases e with
  | call c => exact List.getElem?_append_left hi
  | stage j around =>
    have hne : j ≠ i := by
      rintro rfl
      exact he around rfl
    simp only [step]
    split
    · exact List.getElem?_set_ne hne
    · rfl
  | wait | invalidate => rfl

theorem moment?_eq_none (he : ∀ around, e ≠ .stage i around) : w.moment? i e = none := by
  cases e with
  | stage j around =>
    have hne : j ≠ i := by
      rintro rfl
      exact he around rfl
    simp [moment?, hne]
  | call | wait | invalidate => rfl

theorem isOpen_eq (hturn : w.turns[i]? = some (c.turn stage)) :
    w.isOpen i = stage.result?.isNone := by
  rw [isOpen, hturn]
  rfl

/-- One event takes a turn one stage further, or leaves it where it is. -/
theorem step_reaches {ms : List Moment} (hturn : w.turns[i]? = some (c.turn stage))
    (hreaches : Reaches p i c ms stage) :
    ∃ next, (w.step p e).turns[i]? = some (c.turn next) ∧
      Reaches p i c (ms ++ (w.moment? i e).toList) next := by
  have hlt := (List.getElem?_eq_some_iff.mp hturn).1
  by_cases he : ∃ around, e = .stage i around
  · obtain ⟨around, rfl⟩ := he
    cases hresult : stage.result? with
    | none =>
      obtain ⟨next, hstep, htakes⟩ := step_open p around hturn hresult
      refine ⟨next, by simp [hstep, hlt], ?_⟩
      rw [moment?, if_pos ⟨rfl, by simp [isOpen_eq hturn, hresult]⟩]
      exact .took hreaches hturn htakes
    | some result =>
      obtain rfl := Stage.eq_finished hresult
      refine ⟨_, by rw [step_ended hturn, hturn], ?_⟩
      simpa [moment?, isOpen_eq hturn, Stage.result?] using hreaches
  · have hother : ∀ around, e ≠ .stage i around := fun around h => he ⟨around, h⟩
    refine ⟨stage, ?_, ?_⟩
    · rw [step_turns_getElem? hother hlt, hturn]
    · rw [moment?_eq_none hother]
      simpa using hreaches

variable {f : Freshness} {now : Nat}

theorem run_turns_length (p : Pipeline) (f : Freshness) (now : Nat) (events : List Event) :
    (run p (start f now) events).turns.length = (calls events).length := by
  induction events using List.reverseRecOn with
  | nil => rfl
  | append_singleton events e ih =>
    rw [run_concat, step_turns_length, ih, calls_concat, List.length_append]

/-- The world of a moment is that after the events so far. -/
theorem mem_moments {m : Moment} (h : m ∈ moments p i (start f now) events) :
    ∃ earlier later, events = earlier ++ .stage i m.around :: later ∧
      m.world = run p (start f now) earlier := by
  induction events using List.reverseRecOn with
  | nil => cases h
  | append_singleton events e ih =>
    rw [moments_concat, List.mem_append] at h
    rcases h with h | h
    · obtain ⟨earlier, later, rfl, hworld⟩ := ih h
      exact ⟨earlier, later ++ [e], by simp, hworld⟩
    · cases e with
      | stage j around =>
        simp only [moment?, Option.mem_toList, Option.ite_none_right_eq_some,
          Option.some.injEq] at h
        obtain ⟨⟨rfl, -⟩, rfl⟩ := h
        exact ⟨events, [], rfl, rfl⟩
      | call | wait | invalidate => cases h

theorem moments_eq_nil (h : (calls events).length ≤ i) :
    moments p i (start f now) events = [] := by
  induction events using List.reverseRecOn with
  | nil => rfl
  | append_singleton events e ih =>
    rw [calls_concat, List.length_append] at h
    have hearlier : (calls events).length ≤ i := by omega
    have hnone : (run p (start f now) events).isOpen i = false := by
      rw [isOpen, List.getElem?_eq_none (run_turns_length p f now events ▸ hearlier)]
      rfl
    rw [moments_concat, ih hearlier]
    cases e with
    | stage j around => simp [moment?, hnone]
    | call | wait | invalidate => rfl

theorem run_reaches (p : Pipeline) (f : Freshness) (now : Nat) (h : (calls events)[i]? = some c) :
    ∃ stage, (run p (start f now) events).turns[i]? = some (c.turn stage) ∧
      Reaches p i c (moments p i (start f now) events) stage := by
  induction events using List.reverseRecOn with
  | nil => cases h
  | append_singleton events e ih =>
    rw [run_concat, moments_concat]
    by_cases hi : i < (calls events).length
    · rw [calls_concat, List.getElem?_append_left hi] at h
      obtain ⟨stage, hturn, hreaches⟩ := ih h
      exact step_reaches hturn hreaches
    · cases e with
      | call opened =>
        -- The only call at a number that no earlier call has is the one that comes now.
        rw [calls_concat, List.getElem?_append_right (Nat.le_of_not_lt hi)] at h
        obtain ⟨hlast, rfl⟩ : i - (calls events).length = 0 ∧ opened = c := by
          simpa [Event.call?, List.getElem?_singleton] using h
        obtain rfl : i = (calls events).length := by omega
        refine ⟨opened.opening.stage, ?_, ?_⟩
        · simp [step, ← run_turns_length p f now]
        · rw [moments_eq_nil (Nat.le_refl _)]
          exact .begun opened.begins
      | stage | wait | invalidate =>
        rw [calls_concat] at h
        exact absurd (List.getElem?_eq_some_iff.mp h).1 (by simpa [Event.call?] using hi)

theorem turn_reaches {t : Turn} (h : (run p (start f now) events).turns[i]? = some t) :
    ∃ c stage, (calls events)[i]? = some c ∧
      (run p (start f now) events).turns[i]? = some (c.turn stage) ∧
      Reaches p i c (moments p i (start f now) events) stage := by
  have hlt : i < (calls events).length :=
    run_turns_length p f now events ▸ (List.getElem?_eq_some_iff.mp h).1
  have hcall := List.getElem?_eq_getElem hlt
  obtain ⟨stage, hturn, hreaches⟩ := run_reaches p f now hcall
  exact ⟨_, stage, hcall, hturn, hreaches⟩

theorem run_freshness : (run p (start f now) events).cache.freshness = f := by
  induction events using List.reverseRecOn with
  | nil => rfl
  | append_singleton events e ih =>
    rw [run_concat]
    cases e with
    | stage i around =>
      cases ht : (run p (start f now) events).turns[i]? with
      | none => simpa only [step, ht] using ih
      | some t =>
        obtain ⟨c, stage, -, hturn, -⟩ := turn_reaches ht
        cases hresult : stage.result? with
        | none =>
          obtain ⟨next, hstep, -⟩ := step_open p around hturn hresult
          rw [hstep, Moment.cacheAfter_freshness, ih]
        | some result =>
          obtain rfl := Stage.eq_finished hresult
          rw [step_ended hturn, ih]
    | call | wait | invalidate => exact ih

/-- A turn that has ended came to its result through its moments. -/
theorem result?_reaches {result : Except TurnError Outcome} (h : (calls events)[i]? = some c)
    (hresult : (run p (start f now) events).result? i = some result) :
    Reaches p i c (moments p i (start f now) events) (.finished result) := by
  obtain ⟨stage, hturn, hreaches⟩ := run_reaches p f now h
  rw [result?, hturn] at hresult
  obtain rfl : stage = .finished result := Stage.eq_finished hresult
  exact hreaches

theorem after_cache {m : Moment} (hturn : m.world.turns[i]? = some (c.turn stage))
    (hopen : stage.result? = none) : (m.after p i).cache = m.cacheAfter c stage := by
  obtain ⟨_, hstep, _⟩ := step_open p m.around hturn hopen
  rw [Moment.after, hstep]

end World

/-! ## A turn alone -/

section Alone

variable {σ : Type} {p : Pipeline} (ask : Option Question → σ → Surroundings × σ) {t : Turn}
  {cache : Cache} (memory : σ)

theorem Turn.run_ended {result : Except TurnError Outcome} (h : t.stage.result? = some result) :
    t.run p ask cache memory = (result, cache, memory) := by
  rw [Turn.run]
  split
  · next other hother => rw [Option.some.inj (hother.symm.trans h)]
  · next hopen => cases hopen.symm.trans h

theorem Turn.run_open (h : t.stage.result? = none) :
    t.run p ask cache memory =
      let asked := ask (t.question? p cache) memory
      let after := t.step p asked.1 cache
      after.1.run p ask after.2 asked.2 := by
  rw [Turn.run]
  split
  · next result hresult => cases hresult.symm.trans h
  · rfl

/-- A turn without other turns between its stages is a run of the world. -/
theorem World.run_alone {w : World} {i : Nat} (h : w.turns[i]? = some t) :
    ∃ stages, (run p w stages).result? i = some (t.run p ask w.cache memory).1 ∧
      (run p w stages).cache = (t.run p ask w.cache memory).2.1 := by
  induction hrank : t.stage.rank using Nat.strongRecOn generalizing t w memory with
  | _ rank ih =>
    subst hrank
    cases hresult : t.stage.result? with
    | some result =>
      rw [Turn.run_ended ask memory hresult]
      exact ⟨[], by simp only [run, List.foldl_nil, result?, h, Option.bind_some, hresult], rfl⟩
    | none =>
      rw [Turn.run_open ask memory hresult]
      generalize ask (t.question? p w.cache) memory = asked
      have hstep : w.step p (.stage i asked.1) =
          ⟨(t.step p asked.1 w.cache).2, w.turns.set i (t.step p asked.1 w.cache).1⟩ := by
        simp only [step, h]
      have hlt := (List.getElem?_eq_some_iff.mp h).1
      have hturn : (w.step p (.stage i asked.1)).turns[i]? = some (t.step p asked.1 w.cache).1 := by
        rw [hstep, List.getElem?_set_self hlt]
      have hcache : (w.step p (.stage i asked.1)).cache = (t.step p asked.1 w.cache).2 := by
        rw [hstep]
      obtain ⟨stages, hend, hlast⟩ := ih _
        (Turn.rank_step_lt p asked.1 w.cache t (Stage.rank_pos hresult)) asked.2 hturn rfl
      rw [hcache] at hend hlast
      exact ⟨.stage i asked.1 :: stages, hend, hlast⟩

end Alone
end WorkQuery
