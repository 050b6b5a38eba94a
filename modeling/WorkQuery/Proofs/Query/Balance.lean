import WorkQuery.Proofs.Query.Grammar

/-!
# WorkQuery.Proofs.Query.Balance

Parentheses of what can be written. Each piece closes what it opens (`Balanced`), so pieces can be
put one after another and between parentheses, and a whole text that is such a piece passes the
check of parentheses (`Balanced.check`).

* `Condition.tokens_balanced`: conditions as they are written in a query.
* `Writes.balanced`: conditions written by hand.
-/

namespace WorkQuery

/-- As many parentheses are open after the tokens as before them, whatever follows. -/
def Balanced (ts : List Token) : Prop :=
  ∀ depth rest, checkBalance depth (ts ++ rest) = checkBalance depth rest

namespace Balanced

theorem nil : Balanced [] := fun _ _ => rfl

theorem append {ts us : List Token} (ht : Balanced ts) (hu : Balanced us) : Balanced (ts ++ us) := by
  intro depth rest
  rw [List.append_assoc, ht, hu]

theorem flat {ts : List Token} (h : ∀ t ∈ ts, t ≠ .leftParen ∧ t ≠ .rightParen) : Balanced ts := by
  induction ts with
  | nil => exact nil
  | cons t ts ih =>
    intro depth rest
    have hskip : checkBalance depth (t :: (ts ++ rest)) = checkBalance depth (ts ++ rest) := by
      obtain ⟨hleft, hright⟩ := h t (by simp)
      cases t with
      | leftParen => exact absurd rfl hleft
      | rightParen => exact absurd rfl hright
      | _ => cases depth <;> rfl
    rw [List.cons_append, hskip]
    exact ih (fun u hu => h u (by simp [hu])) depth rest

theorem cons_word (w : String) {ts : List Token} (h : Balanced ts) : Balanced (.word w :: ts) :=
  (@flat [.word w] (by simp)).append h

theorem cons_field (name : String) {ts : List Token} (h : Balanced ts) :
    Balanced (.field name :: ts) := (@flat [.field name] (by simp)).append h

theorem parens {ts : List Token} (h : Balanced ts) : Balanced (.leftParen :: ts ++ [.rightParen]) := by
  intro depth rest
  have hopen : checkBalance depth (.leftParen :: (ts ++ .rightParen :: rest))
      = checkBalance (depth + 1) (ts ++ .rightParen :: rest) := by cases depth <;> rfl
  have htokens : .leftParen :: ts ++ [.rightParen] ++ rest
      = .leftParen :: (ts ++ .rightParen :: rest) := by simp
  rw [htokens, hopen, h]
  rfl

theorem join {sep : List Token} (hs : Balanced sep) {pieces : List (List Token)}
    (h : ∀ ts ∈ pieces, Balanced ts) : Balanced (joinTokens sep pieces) :=
  joinTokens_closed nil append hs h

theorem check {ts : List Token} (h : Balanced ts) : checkBalance 0 ts = .ok () := by
  have := h 0 []
  rw [List.append_nil] at this
  rw [this]
  rfl

end Balanced

theorem WrittenValue.tokens_flat (w : WrittenValue) :
    ∀ t ∈ w.tokens, t ≠ .leftParen ∧ t ≠ .rightParen := by
  cases w with
  | literal body => simp [tokens]
  | number negative digits => cases negative <;> simp [tokens]
  | named name shift => rcases shift with _ | ⟨forward, digits⟩ <;> simp [tokens, signToken]
  | field name => simp [tokens]

theorem WrittenValue.tokens_balanced (w : WrittenValue) : Balanced w.tokens := .flat w.tokens_flat

theorem Operator.tokens_balanced (op : Operator) : Balanced op.tokens := by
  apply Balanced.flat
  cases op <;> simp [tokens]

theorem Operator.operandTokens_balanced (op : Operator) (ws : List WrittenValue) :
    Balanced (op.operandTokens ws) := by
  unfold operandTokens
  split
  · refine Balanced.parens (.join (.flat (by simp)) fun ts hts => ?_)
    obtain ⟨w, _, rfl⟩ := List.mem_map.mp hts
    exact w.tokens_balanced
  · apply Balanced.flat
    intro t ht
    obtain ⟨w, _, hw⟩ := List.mem_flatMap.mp ht
    exact w.tokens_flat t hw

theorem WrittenComparison.tokens_balanced (c : WrittenComparison) : Balanced c.tokens :=
  .cons_field _ (c.operator.tokens_balanced.append (c.operator.operandTokens_balanced _))

theorem Condition.tokens_balanced (c : Condition) : Balanced c.tokens := by
  induction c with
  | comparison c => exact c.written.tokens_balanced
  | group inner ih => exact ih.parens
  | negation inner ih => exact ih.cons_word _
  | join left k right ihl ihr => exact ihl.append (ihr.cons_word _)

theorem Query.bodyTokens_balanced (q : Query) : Balanced q.bodyTokens := by
  refine .join (.flat (by simp)) fun ts hts => ?_
  obtain ⟨c, _, rfl⟩ := List.mem_map.mp hts
  exact c.tokens_balanced

variable {r : Registry} {ctx : QueryContext}

theorem SpellsOperator.balanced {ops : List Token} {op : Operator} (h : SpellsOperator ops op) :
    Balanced ops := by
  apply Balanced.flat
  cases h with
  | symbol _ => simp
  | words _ _ _ => simp

theorem Writes.balanced {p : Production} {ts : List Token} {c : Condition}
    (h : Writes r ctx p ts c) : Balanced ts := by
  induction h with
  | term _ ih => exact ih
  | join _ _ _ ihl ihr => exact ihl.append (ihr.cons_word _)
  | factor _ ih => exact ih
  | negation _ _ ih => exact ih.cons_word _
  | comparison h =>
    cases h with
    | mk _ _ hspells _ _ _ =>
      exact .cons_field _ (hspells.balanced.append (Operator.operandTokens_balanced _ _))
  | group _ ih => exact ih.parens

end WorkQuery
