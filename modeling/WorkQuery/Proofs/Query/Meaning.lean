import WorkQuery.Proofs.Query.Truth

/-!
# WorkQuery.Proofs.Query.Meaning

What a condition means, and that the store reads it so.

* `Condition.Holds`: the meaning by recursion over the condition. A chain is joined from the left
  whatever binds tighter, so the last disjunct is kept apart from those before it: AND goes on with
  the last one only.
* `Condition.reads`: the tokens of a condition are read as what it means.
* `Query.reads_body`: the body of a query is read as all its conditions together.
-/

namespace WorkQuery

variable {v : WrittenComparison → Prop}

theorem Reads.congr {l : Level} {ts : List Token} {P Q : Prop} (h : Reads v l ts P) (hPQ : P ↔ Q) :
    Reads v l ts Q := by
  rw [← propext hPQ]
  exact h

theorem Reads.alone {ts : List Token} {P : Prop} (h : Reads v .conjunction ts P) :
    Reads v .disjunction ts P := by
  have hparts : ∀ p ∈ [(ts, P)], Reads v .conjunction p.1 p.2 := by
    intro p hp
    obtain rfl := List.mem_singleton.mp hp
    exact h
  exact (Reads.disjunction (by simp) hparts).congr (by simp)

theorem joinTokens_concat {sep : List Token} {pieces : List (List Token)} (hne : pieces ≠ [])
    (ts : List Token) : joinTokens sep (pieces ++ [ts]) = joinTokens sep pieces ++ sep ++ ts := by
  induction pieces with
  | nil => exact absurd rfl hne
  | cons us more ih =>
    cases more with
    | nil => rfl
    | cons vs more =>
      have := ih (by simp)
      simp only [List.cons_append, joinTokens, List.append_assoc] at this ⊢
      rw [this]

theorem joinTokens_extend (sep : List Token) (pieces : List (List Token)) (ts us : List Token) :
    joinTokens sep (pieces ++ [ts ++ us]) = joinTokens sep (pieces ++ [ts]) ++ us := by
  cases pieces with
  | nil => rfl
  | cons vs more =>
    rw [joinTokens_concat (by simp), joinTokens_concat (by simp), List.append_assoc,
      List.append_assoc, List.append_assoc]

namespace Condition

/-- Whether a disjunct before the last one holds, and whether the last one does. -/
def truth (v : WrittenComparison → Prop) : Condition → Prop × Prop
  | .comparison c => (False, v c.written)
  | .group inner => (False, (inner.truth v).1 ∨ (inner.truth v).2)
  | .negation inner => (False, ¬((inner.truth v).1 ∨ (inner.truth v).2))
  | .join left .and right =>
    ((left.truth v).1, (left.truth v).2 ∧ ((right.truth v).1 ∨ (right.truth v).2))
  | .join left .or right =>
    ((left.truth v).1 ∨ (left.truth v).2, (right.truth v).1 ∨ (right.truth v).2)

/-- What the condition means. AND binds what stands right before it, not all of the chain. -/
def Holds (v : WrittenComparison → Prop) (c : Condition) : Prop := (c.truth v).1 ∨ (c.truth v).2

/-- A condition that can stand after NOT and between connectives. -/
def IsFactor : Condition → Prop
  | .join _ _ _ => False
  | _ => True

/-- A condition whose chains are joined from the left. -/
def IsChained : Condition → Prop
  | .comparison _ => True
  | .group inner => inner.IsChained
  | .negation inner => inner.IsFactor ∧ inner.IsChained
  | .join left _ right => left.IsChained ∧ right.IsFactor ∧ right.IsChained

@[simp] theorem holds_comparison (c : Comparison) : (comparison c).Holds v ↔ v c.written := by
  simp [Holds, truth]

@[simp] theorem holds_group (inner : Condition) : (group inner).Holds v ↔ inner.Holds v := by
  simp [Holds, truth]

@[simp] theorem holds_negation (inner : Condition) : (negation inner).Holds v ↔ ¬inner.Holds v := by
  simp [Holds, truth]

@[simp] theorem holds_or (left right : Condition) :
    (join left .or right).Holds v ↔ left.Holds v ∨ right.Holds v := by
  simp [Holds, truth]

/-- Without OR outside groups, AND is conjunction. -/
theorem holds_and {left : Condition} (h : left.hasTopLevelOr = false) (right : Condition) :
    (join left .and right).Holds v ↔ left.Holds v ∧ right.Holds v := by
  -- nothing has been closed off by an OR before the last disjunct
  have hleft : (left.truth v).1 ↔ False := by
    induction left with
    | comparison _ | group _ _ | negation _ _ => rfl
    | join first k last ihfirst _ =>
      cases k with
      | and =>
        simp only [hasTopLevelOr, Bool.or_eq_false_iff] at h
        exact ihfirst h.1.2
      | or => simp [hasTopLevelOr] at h
  simp [Holds, truth, hleft]

/-- The conjunctions before the last one and the factors of the last one, as the tokens of a
condition are read. -/
structure Split (v : WrittenComparison → Prop) (c : Condition) (before last : List (List Token × Prop)) :
    Prop where
  nonempty : last ≠ []
  conjunctions : ∀ p ∈ before, Reads v .conjunction p.1 p.2
  factors : ∀ p ∈ last, Reads v .factor p.1 p.2
  tokens : c.tokens = joinTokens [.word "OR"]
    (before.map Prod.fst ++ [joinTokens [.word "AND"] (last.map Prod.fst)])
  before_holds : (∃ p ∈ before, p.2) ↔ (c.truth v).1
  last_holds : (∀ p ∈ last, p.2) ↔ (c.truth v).2

namespace Split

variable {c left right : Condition} {before last : List (List Token × Prop)}

theorem reads (h : Split v c before last) : Reads v .disjunction c.tokens (c.Holds v) := by
  have hlast := Reads.conjunction h.nonempty h.factors
  have hparts : ∀ p ∈ before ++ [(joinTokens [.word "AND"] (last.map Prod.fst), ∀ p ∈ last, p.2)],
      Reads v .conjunction p.1 p.2 := by
    intro p hp
    rcases List.mem_append.mp hp with hp | hp
    · exact h.conjunctions p hp
    · obtain rfl := List.mem_singleton.mp hp
      exact hlast
  have hall := Reads.disjunction (by simp) hparts
  rw [List.map_append, List.map_singleton, ← h.tokens] at hall
  refine hall.congr ?_
  simp only [List.mem_append, List.mem_singleton, Holds, ← h.before_holds, ← h.last_holds]
  constructor
  · rintro ⟨p, hp | rfl, htrue⟩
    · exact .inl ⟨p, hp, htrue⟩
    · exact .inr htrue
  · rintro (⟨p, hp, htrue⟩ | htrue)
    · exact ⟨p, .inl hp, htrue⟩
    · exact ⟨_, .inr rfl, htrue⟩

theorem single (hc : c.IsFactor) (h : Reads v .factor c.tokens (c.Holds v)) :
    Split v c [] [(c.tokens, c.Holds v)] := by
  have hbefore : (c.truth v).1 ↔ False := by
    cases c with
    | comparison _ | group _ | negation _ => rfl
    | join _ _ _ => exact absurd hc id
  refine ⟨by simp, by simp, ?_, by simp [joinTokens], by simp [hbefore], by simp [Holds, hbefore]⟩
  intro p hp
  obtain rfl := List.mem_singleton.mp hp
  exact h

theorem and (h : Split v left before last) (hright : Reads v .factor right.tokens (right.Holds v)) :
    Split v (.join left .and right) before (last ++ [(right.tokens, right.Holds v)]) := by
  refine ⟨by simp, h.conjunctions, ?_, ?_, h.before_holds, ?_⟩
  · intro p hp
    rcases List.mem_append.mp hp with hp | hp
    · exact h.factors p hp
    · obtain rfl := List.mem_singleton.mp hp
      exact hright
  · have hne : last.map Prod.fst ≠ [] := by simpa using h.nonempty
    rw [List.map_append, List.map_singleton, joinTokens_concat hne, List.append_assoc,
      joinTokens_extend, ← h.tokens]
    rfl
  · have hlast := h.last_holds
    simp only [List.forall_mem_append, List.forall_mem_singleton, hlast, truth, Holds]

theorem or (h : Split v left before last) (hright : Reads v .factor right.tokens (right.Holds v)) :
    Split v (.join left .or right)
      (before ++ [(joinTokens [.word "AND"] (last.map Prod.fst), ∀ p ∈ last, p.2)])
      [(right.tokens, right.Holds v)] := by
  have hlast := Reads.conjunction h.nonempty h.factors
  refine ⟨by simp, ?_, ?_, ?_, ?_, ?_⟩
  · intro p hp
    rcases List.mem_append.mp hp with hp | hp
    · exact h.conjunctions p hp
    · obtain rfl := List.mem_singleton.mp hp
      exact hlast
  · intro p hp
    obtain rfl := List.mem_singleton.mp hp
    exact hright
  · rw [List.map_append, List.map_singleton, joinTokens_concat (by simp), ← h.tokens]
    simp [Condition.tokens, joinTokens, Connective.token]
  · rw [show ((join left .or right).truth v).1 = left.Holds v from rfl, Holds, ← h.before_holds,
      ← h.last_holds]
    constructor
    · rintro ⟨p, hp, htrue⟩
      rcases List.mem_append.mp hp with hp | hp
      · exact .inl ⟨p, hp, htrue⟩
      · obtain rfl := List.mem_singleton.mp hp
        exact .inr htrue
    · rintro (⟨p, hp, htrue⟩ | htrue)
      · exact ⟨p, List.mem_append_left _ hp, htrue⟩
      · exact ⟨_, List.mem_append_right _ (List.mem_singleton.mpr rfl), htrue⟩
  · simp [truth, Holds]

end Split

end Condition

theorem Comparison.IsSpelled.takes {c : Comparison} (h : c.IsSpelled) :
    c.written.operator.Takes c.written.operands := by
  have hne := h.nonempty
  have hsingle := h.single
  unfold Operator.Takes Comparison.written
  cases hop : c.operator.takesList with
  | true => simpa [hop] using hne
  | false => simpa [hop] using hsingle hop

namespace Condition

theorem readings {c : Condition} (hc : c.IsChained) (hs : c.IsSpelled) :
    (c.IsFactor → Reads v .factor c.tokens (c.Holds v)) ∧ ∃ before last, Split v c before last := by
  induction c with
  | comparison c =>
    have hread : Reads v .factor (comparison c).tokens ((comparison c).Holds v) :=
      (Reads.comparison (hs c (by simp [comparisons])).takes).congr (holds_comparison c).symm
    exact ⟨fun _ => hread, _, _, .single trivial hread⟩
  | group inner ih =>
    obtain ⟨_, _, _, hsplit⟩ := ih hc hs
    have hread : Reads v .factor (group inner).tokens ((group inner).Holds v) :=
      (Reads.group hsplit.reads).congr (holds_group inner).symm
    exact ⟨fun _ => hread, _, _, .single trivial hread⟩
  | negation inner ih =>
    have hread : Reads v .factor (negation inner).tokens ((negation inner).Holds v) :=
      (Reads.negation ((ih hc.2 hs).1 hc.1)).congr (holds_negation inner).symm
    exact ⟨fun _ => hread, _, _, .single trivial hread⟩
  | join left k right ihl ihr =>
    obtain ⟨hleft, hfactor, hright⟩ := hc
    obtain ⟨_, before, last, hsplit⟩ := ihl hleft fun c hc => hs c (by simp [comparisons, hc])
    have hread := (ihr hright fun c hc => hs c (by simp [comparisons, hc])).1 hfactor
    refine ⟨fun h => absurd h id, ?_⟩
    cases k with
    | and => exact ⟨_, _, hsplit.and hread⟩
    | or => exact ⟨_, _, hsplit.or hread⟩

theorem reads {c : Condition} (hc : c.IsChained) (hs : c.IsSpelled) :
    Reads v .disjunction c.tokens (c.Holds v) := by
  obtain ⟨_, before, last, hsplit⟩ := readings hc hs
  exact hsplit.reads

end Condition

theorem Query.reads_body {q : Query} (hne : q.conditions ≠ [])
    (hfactor : ∀ c ∈ q.conditions, c.IsFactor) (hc : ∀ c ∈ q.conditions, c.IsChained)
    (hs : ∀ c ∈ q.conditions, c.IsSpelled) :
    Reads v .disjunction q.bodyTokens (∀ c ∈ q.conditions, c.Holds v) := by
  have hparts : ∀ p ∈ q.conditions.map fun c => (c.tokens, c.Holds v), Reads v .factor p.1 p.2 := by
    intro p hp
    obtain ⟨c, hmem, rfl⟩ := List.mem_map.mp hp
    exact (Condition.readings (hc c hmem) (hs c hmem)).1 (hfactor c hmem)
  have hbody := Reads.conjunction (by simpa using hne) hparts
  rw [List.map_map] at hbody
  refine hbody.alone.congr ?_
  simp

end WorkQuery
