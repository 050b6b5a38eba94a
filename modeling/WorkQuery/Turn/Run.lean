import WorkQuery.Turn.Stage

/-!
# WorkQuery.Turn.Run

A turn from its first stage to its end, with no other turn between its stages. The answers of the
oracle and the store may depend on what was asked before: `σ` is what is remembered of that.
-/

namespace WorkQuery

/-- A turn without a result has stages left. -/
theorem Stage.rank_pos {s : Stage} (h : s.result? = none) : 0 < s.rank := by
  cases s <;> simp_all [Stage.result?, Stage.rank]

namespace Turn

/-- After a decision fewer stages are left than before it. -/
theorem rank_afterDecision_lt (utterance : String) (history : List String) (d : Decision) :
    (afterDecision utterance d).rank < (Stage.classifying utterance history).rank := by
  unfold afterDecision
  split <;> simp [Stage.rank]

/-- Each stage brings a turn nearer to its end. -/
theorem rank_step_lt (p : Pipeline) (w : Surroundings) (cache : Cache) (t : Turn)
    (h : 0 < t.stage.rank) : (t.step p w cache).1.stage.rank < t.stage.rank := by
  obtain ⟨session, context, stage⟩ := t
  cases stage with
  | classifying utterance history =>
    simp only [step]
    split
    · simp [fail, moveTo, Stage.rank]
    · split
      · simp [fail, moveTo, Stage.rank]
      · exact rank_afterDecision_lt utterance history _
  | compiling plan =>
    simp only [step]
    split <;> simp [fail, moveTo, Stage.rank]
  | fetching plan query =>
    simp only [step]
    split
    · simp [fail, moveTo, Stage.rank]
    · split <;> simp [fail, moveTo, Stage.rank]
  | storing plan query items =>
    simp only [step]
    split <;> simp [succeed, moveTo, Stage.rank]
  | reading request =>
    simp only [step]
    split <;> simp [fail, moveTo, Stage.rank]
  | analyzing entry query request =>
    simp only [step]
    split
    · simp [fail, moveTo, Stage.rank]
    · split <;> simp [fail, succeed, moveTo, Stage.rank]
  | finished result => simp [Stage.rank] at h

/-- The result of a turn, the cache after it, and what is remembered. -/
def run {σ : Type} (p : Pipeline) (ask : Option Question → σ → Surroundings × σ) (t : Turn)
    (cache : Cache) (memory : σ) : Except TurnError Outcome × Cache × σ :=
  match h : t.stage.result? with
  | some result => (result, cache, memory)
  | none =>
    let (w, memory) := ask (t.question? p cache) memory
    let after := t.step p w cache
    have : after.1.stage.rank < t.stage.rank := rank_step_lt p w cache t (Stage.rank_pos h)
    run p ask after.1 after.2 memory
termination_by t.stage.rank

end Turn
end WorkQuery
