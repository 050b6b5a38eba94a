import WorkQuery.Proofs.Query.Operands

/-!
# WorkQuery.Proofs.Query.Truth

What the store makes of a condition: conjunctions joined by OR, made of factors joined by AND, and
NOT in front of a factor.

* `Reads`: what tokens mean where it is given what each comparison means.
* `Reads.unique`: tokens mean one thing at most. What follows a part (`Follows`) never goes on with
  it, so the parts are determined from left to right.
-/

namespace WorkQuery

/-- How tightly a part of a condition is bound, the loosest first. -/
inductive Level where
  | disjunction
  | conjunction
  | factor

/-- What tokens mean, given what comparisons mean. -/
inductive Reads (v : WrittenComparison → Prop) : Level → List Token → Prop → Prop where
  | disjunction {parts : List (List Token × Prop)} :
      parts ≠ [] → (∀ p ∈ parts, Reads v .conjunction p.1 p.2) →
      Reads v .disjunction (joinTokens [.word "OR"] (parts.map Prod.fst)) (∃ p ∈ parts, p.2)
  | conjunction {parts : List (List Token × Prop)} :
      parts ≠ [] → (∀ p ∈ parts, Reads v .factor p.1 p.2) →
      Reads v .conjunction (joinTokens [.word "AND"] (parts.map Prod.fst)) (∀ p ∈ parts, p.2)
  | comparison {c : WrittenComparison} :
      c.operator.Takes c.operands → Reads v .factor c.tokens (v c)
  | negation {ts : List Token} {P : Prop} :
      Reads v .factor ts P → Reads v .factor (.word "NOT" :: ts) (¬P)
  | group {ts : List Token} {P : Prop} :
      Reads v .disjunction ts P → Reads v .factor (.leftParen :: ts ++ [.rightParen]) P

/-! ## Parts are determined -/

/-- Parts with a separator between them are determined, if each part is by what may follow it. -/
theorem joinTokens_unique {α : Type} {sep : Token} {toTokens : α → List Token}
    {F : List Token → Prop} (hsep : ∀ more, F (sep :: more)) {rest rest' : List Token}
    (hr : F rest) (hr' : F rest') (hs : rest.head? ≠ some sep) (hs' : rest'.head? ≠ some sep) :
    ∀ {xs ys : List α}, xs ≠ [] → ys ≠ [] →
      (∀ x ∈ xs, ∀ y ∈ ys, ∀ a b, F a → F b → toTokens x ++ a = toTokens y ++ b → x = y) →
      joinTokens [sep] (xs.map toTokens) ++ rest = joinTokens [sep] (ys.map toTokens) ++ rest' →
      xs = ys ∧ rest = rest' := by
  intro xs
  induction xs with
  | nil => intro ys hne; exact absurd rfl hne
  | cons x xs ih =>
    intro ys _ hys hparts h
    cases ys with
    | nil => exact absurd rfl hys
    | cons y ys =>
      cases xs with
      | nil =>
        cases ys with
        | nil =>
          obtain rfl := hparts x (by simp) y (by simp) rest rest' hr hr' (by simpa [joinTokens] using h)
          exact ⟨rfl, by simpa [joinTokens] using h⟩
        | cons z zs =>
          -- one list has ended, so what follows it would begin with the separator of the other
          simp only [List.map_cons, List.map_nil, joinTokens, List.append_assoc,
            List.singleton_append] at h
          obtain rfl := hparts x (by simp) y (by simp) _ _ hr (hsep _) h
          rw [List.append_cancel_left h] at hs
          exact absurd rfl hs
      | cons w ws =>
        cases ys with
        | nil =>
          simp only [List.map_cons, List.map_nil, joinTokens, List.append_assoc,
            List.singleton_append] at h
          obtain rfl := hparts x (by simp) y (by simp) _ _ (hsep _) hr' h
          rw [← List.append_cancel_left h] at hs'
          exact absurd rfl hs'
        | cons z zs =>
          simp only [List.map_cons, joinTokens, List.append_assoc, List.singleton_append] at h
          obtain rfl := hparts x (by simp) y (by simp) _ _ (hsep _) (hsep _) h
          have hmore := List.tail_eq_of_cons_eq (List.append_cancel_left h)
          obtain ⟨htail, hrest⟩ := @ih (z :: zs) (by simp) (by simp)
            (fun a ha b hb => hparts a (List.mem_cons_of_mem _ ha) b (List.mem_cons_of_mem _ hb)) hmore
          exact ⟨by rw [htail], hrest⟩

def WrittenValue.first? : List Token → Option WrittenValue
  | .literal body :: _ => some (.literal body)
  | .number digits :: _ => some (.number false digits)
  | .symbol _ :: .number digits :: _ => some (.number true digits)
  | .atName name :: .symbol sign :: .number digits :: _ =>
    some (.named name (some (sign == "+", digits)))
  | .atName name :: _ => some (.named name none)
  | .field name :: _ => some (.field name)
  | _ => none

theorem WrittenValue.first?_tokens {w : WrittenValue} {rest : List Token} (hr : Stops rest) :
    first? (w.tokens ++ rest) = some w := by
  cases w with
  | literal body => rfl
  | number negative digits => cases negative <;> rfl
  | named name shift =>
    rcases shift with _ | ⟨forward, digits⟩
    · cases rest with
      | nil => rfl
      | cons t rest => rcases hr t rfl with rfl | rfl | ⟨w, rfl⟩ <;> rfl
    · cases forward <;> rfl
  | field name => rfl

theorem WrittenValue.determined {w u : WrittenValue} {rest rest' : List Token} (hr : Stops rest)
    (hr' : Stops rest') (h : w.tokens ++ rest = u.tokens ++ rest') : w = u := by
  have hw := first?_tokens (w := w) hr
  rw [h, first?_tokens hr'] at hw
  exact (Option.some.inj hw).symm

/-- The canonical spelling of an operator is one that a condition may use. -/
theorem Operator.spells (op : Operator) : SpellsOperator op.tokens op := by
  have hwords : ∀ ws : List String, ws ≠ [] → ws.all (isOneOf operatorWords) = true →
      Operator.ofText? (Text.join " " ws) = some op → SpellsOperator (ws.map Token.word) op :=
    fun ws hne hall hop => .words hne (List.all_eq_true.mp hall) hop
  cases op with
  | eq | ne | gt | lt | ge | le => exact .symbol rfl
  | inList => exact hwords ["IN"] (by simp) rfl rfl
  | notInList => exact hwords ["NOT", "IN"] (by simp) rfl rfl
  | contains => exact hwords ["CONTAINS"] (by simp) rfl rfl
  | notContains => exact hwords ["NOT", "CONTAINS"] (by simp) rfl rfl
  | containsWords => exact hwords ["CONTAINS", "WORDS"] (by simp) rfl rfl
  | notContainsWords => exact hwords ["NOT", "CONTAINS", "WORDS"] (by simp) rfl rfl
  | under => exact hwords ["UNDER"] (by simp) rfl rfl
  | notUnder => exact hwords ["NOT", "UNDER"] (by simp) rfl rfl

theorem Operator.determined {op op' : Operator} {rest rest' : List Token}
    (hr : ∀ w, rest.head? ≠ some (.word w)) (hr' : ∀ w, rest'.head? ≠ some (.word w))
    (h : op.tokens ++ rest = op'.tokens ++ rest') : op = op' ∧ rest = rest' := by
  have hop : readOperator FieldDef.id (op.tokens ++ rest) = .ok (op, rest) :=
    readOperator_complete op.spells hr
  rw [h, readOperator_complete op'.spells hr'] at hop
  cases hop
  exact ⟨rfl, rfl⟩

theorem Operator.operands_determined {op : Operator} {ws us : List WrittenValue}
    {rest rest' : List Token} (hws : op.Takes ws) (hus : op.Takes us) (hr : Stops rest)
    (hr' : Stops rest') (h : op.operandTokens ws ++ rest = op.operandTokens us ++ rest') :
    ws = us := by
  unfold operandTokens at h
  unfold Takes at hws hus
  cases hop : op.takesList with
  | true =>
    simp only [hop, if_pos] at h hws hus
    have hlist : joinTokens [.comma] (ws.map WrittenValue.tokens) ++ .rightParen :: rest
        = joinTokens [.comma] (us.map WrittenValue.tokens) ++ .rightParen :: rest' := by
      simpa using h
    exact (joinTokens_unique stops_comma (stops_rightParen rest) (stops_rightParen rest')
      (by simp) (by simp) hws hus
      (fun w _ u _ _ _ ha hb heq => WrittenValue.determined ha hb heq) hlist).1
  | false =>
    simp only [hop, Bool.false_eq_true, if_false] at h hws hus
    obtain ⟨w, rfl⟩ := List.length_eq_one_iff.mp hws
    obtain ⟨u, rfl⟩ := List.length_eq_one_iff.mp hus
    have hwu : w.tokens ++ rest = u.tokens ++ rest' := by simpa using h
    rw [WrittenValue.determined hr hr' hwu]

theorem WrittenComparison.determined {c d : WrittenComparison} {rest rest' : List Token}
    (hc : c.operator.Takes c.operands) (hd : d.operator.Takes d.operands) (hr : Stops rest)
    (hr' : Stops rest') (h : c.tokens ++ rest = d.tokens ++ rest') : c = d := by
  obtain ⟨reference, op, ws⟩ := c
  obtain ⟨reference', op', us⟩ := d
  simp only [tokens, List.cons_append, List.append_assoc, List.cons.injEq, Token.field.injEq] at h
  obtain ⟨rfl, hops⟩ := h
  obtain ⟨rfl, hoperands⟩ := Operator.determined (operandTokens_starts hc rest)
    (operandTokens_starts hd rest') hops
  obtain rfl : ws = us := Operator.operands_determined hc hd hr hr' hoperands
  rfl

/-! ## One meaning -/

/-- What may follow a part of a condition: nothing, a closing parenthesis, or a connective that
binds looser than what the part is made of. -/
def Follows (l : Level) (rest : List Token) : Prop :=
  ∀ t ∈ rest.head?, t = .rightParen ∨ (t = .word "OR" ∧ l ≠ .disjunction) ∨
    (t = .word "AND" ∧ l = .factor)

theorem follows_nil (l : Level) : Follows l [] := by intro t h; cases h

theorem follows_rightParen (l : Level) (rest : List Token) : Follows l (.rightParen :: rest) := by
  intro t h; cases h; exact .inl rfl

theorem follows_or (rest : List Token) : Follows .conjunction (.word "OR" :: rest) := by
  intro t h; cases h; exact .inr (.inl ⟨rfl, by simp⟩)

theorem follows_and (rest : List Token) : Follows .factor (.word "AND" :: rest) := by
  intro t h; cases h; exact .inr (.inr ⟨rfl, rfl⟩)

namespace Follows

variable {l : Level} {rest : List Token}

theorem stops (h : Follows l rest) : Stops rest := by
  intro t ht
  rcases h t ht with rfl | ⟨rfl, _⟩ | ⟨rfl, _⟩
  · exact .inr (.inl rfl)
  · exact .inr (.inr ⟨_, rfl⟩)
  · exact .inr (.inr ⟨_, rfl⟩)

theorem conjunction (h : Follows .disjunction rest) : Follows .conjunction rest := by
  intro t ht
  rcases h t ht with rfl | ⟨_, hl⟩ | ⟨_, hl⟩
  · exact .inl rfl
  · exact absurd rfl hl
  · cases hl

theorem factor (h : Follows .conjunction rest) : Follows .factor rest := by
  intro t ht
  rcases h t ht with rfl | ⟨rfl, _⟩ | ⟨_, hl⟩
  · exact .inl rfl
  · exact .inr (.inl ⟨rfl, by simp⟩)
  · cases hl

theorem no_or (h : Follows .disjunction rest) : rest.head? ≠ some (.word "OR") := by
  intro ht
  rcases h _ ht with heq | ⟨_, hl⟩ | ⟨_, hl⟩
  · cases heq
  · exact hl rfl
  · cases hl

theorem no_and (h : Follows .conjunction rest) : rest.head? ≠ some (.word "AND") := by
  intro ht
  rcases h _ ht with heq | ⟨heq, _⟩ | ⟨_, hl⟩
  · cases heq
  · simp at heq
  · cases hl

end Follows

variable {v : WrittenComparison → Prop}

theorem Reads.determined {l : Level} {ts : List Token} {P : Prop} (h : Reads v l ts P) :
    ∀ {us rest rest' : List Token} {Q : Prop}, Reads v l us Q → Follows l rest → Follows l rest' →
      ts ++ rest = us ++ rest' → ts = us ∧ P = Q := by
  induction h with
  | @disjunction parts hne _ ih =>
    intro us rest rest' Q hq hr hr' heq
    cases hq with
    | @disjunction parts' hne' hparts' =>
      obtain ⟨rfl, _⟩ := joinTokens_unique follows_or hr.conjunction hr'.conjunction hr.no_or
        hr'.no_or hne hne' (fun p hp q hq _ _ ha hb hpq => by
          obtain ⟨htokens, hmeaning⟩ := ih p hp (hparts' q hq) ha hb hpq
          exact Prod.ext htokens hmeaning) heq
      exact ⟨rfl, rfl⟩
  | @conjunction parts hne _ ih =>
    intro us rest rest' Q hq hr hr' heq
    cases hq with
    | @conjunction parts' hne' hparts' =>
      obtain ⟨rfl, _⟩ := joinTokens_unique follows_and hr.factor hr'.factor hr.no_and hr'.no_and hne
        hne' (fun p hp q hq _ _ ha hb hpq => by
          obtain ⟨htokens, hmeaning⟩ := ih p hp (hparts' q hq) ha hb hpq
          exact Prod.ext htokens hmeaning) heq
      exact ⟨rfl, rfl⟩
  | @comparison c hc =>
    -- factors of different kinds differ in their first token: a field, NOT or a parenthesis
    intro us rest rest' Q hq hr hr' heq
    cases hq with
    | comparison hd =>
      obtain rfl := WrittenComparison.determined hc hd hr.stops hr'.stops heq
      exact ⟨rfl, rfl⟩
    | negation _ => simp [WrittenComparison.tokens] at heq
    | group _ => simp [WrittenComparison.tokens] at heq
  | negation _ ih =>
    intro us rest rest' Q hq hr hr' heq
    cases hq with
    | comparison _ => simp [WrittenComparison.tokens] at heq
    | negation hq =>
      obtain ⟨rfl, rfl⟩ := ih hq hr hr' (List.tail_eq_of_cons_eq heq)
      exact ⟨rfl, rfl⟩
    | group _ => simp at heq
  | @group ts P _ ih =>
    intro us rest rest' Q hq hr hr' heq
    cases hq with
    | comparison _ => simp [WrittenComparison.tokens] at heq
    | negation _ => simp at heq
    | @group us Q hq =>
      have hinner : ts ++ .rightParen :: rest = us ++ .rightParen :: rest' := by simpa using heq
      obtain ⟨rfl, rfl⟩ := ih hq (follows_rightParen _ _) (follows_rightParen _ _) hinner
      exact ⟨rfl, rfl⟩

theorem Reads.unique {l : Level} {ts : List Token} {P Q : Prop} (hp : Reads v l ts P)
    (hq : Reads v l ts Q) : P = Q :=
  (hp.determined hq (follows_nil l) (follows_nil l) rfl).2

end WorkQuery
