import WorkQuery.Proofs.Query.Grammar

/-!
# WorkQuery.Proofs.Query.Operands

The reader of values, operators and comparisons against the grammar: what it reads is derived by
the tokens it leaves behind (`_sound`), and what tokens derive is read from them (`_complete`), up
to a token that cannot go on with it (`Stops`).
-/

namespace WorkQuery

variable {r : Registry} {ctx : QueryContext} {field : FieldDef} {op : Operator}

/-- What may follow a value: nothing, a comma, a closing parenthesis or a word. -/
def Stops (rest : List Token) : Prop :=
  ∀ t ∈ rest.head?, t = .comma ∨ t = .rightParen ∨ ∃ w, t = .word w

theorem stops_nil : Stops [] := by intro t h; cases h

theorem stops_comma (rest : List Token) : Stops (.comma :: rest) := by
  intro t h; cases h; exact .inl rfl

theorem stops_rightParen (rest : List Token) : Stops (.rightParen :: rest) := by
  intro t h; cases h; exact .inr (.inl rfl)

theorem stops_word (w : String) (rest : List Token) : Stops (.word w :: rest) := by
  intro t h; cases h; exact .inr (.inr ⟨w, rfl⟩)

/-! ## Refusals -/

theorem unexpected_map {α β : Type} (wanted : Expectation) (tokens : List Token) (f : α → β) :
    (unexpected wanted tokens : Except CompileError α).map f = unexpected wanted tokens := by
  unfold unexpected
  split
  · split <;> rfl
  · rfl
  · rfl

theorem unexpected_ne_ok {α : Type} {wanted : Expectation} {tokens : List Token} {a : α} :
    unexpected wanted tokens ≠ .ok a := by
  unfold unexpected
  split
  · split <;> exact nofun
  · exact nofun
  · exact nofun

/-! ## Values -/

theorem readNumber_ok_iff {s : String} {v : Value} :
    readNumber field ctx s = .ok v ↔
      (∃ n, Numeral.readInt64? s.toList = some n ∧ (Literal.integer n).render field ctx = .ok v) ∨
      (Numeral.readInt64? s.toList = none ∧ field.valueType = .integer ∧
        (Binary64.ofChars? s.toList).isSome = true ∧ v = .numeral s) := by
  unfold readNumber
  cases Numeral.readInt64? s.toList with
  | some n => simp
  | none =>
    by_cases ht : field.valueType = .integer
    · cases hb : Binary64.ofChars? s.toList with
      | none => simp [ht]
      | some b =>
        simp only [ht]
        constructor
        · intro h; cases h; exact .inr ⟨trivial, trivial, rfl, rfl⟩
        · rintro (⟨_, h, _⟩ | ⟨_, _, _, rfl⟩)
          · cases h
          · rfl
    · simp [ht]

theorem readAtName_ok_iff {s : String} {v : Value} :
    readAtName field s = .ok v ↔ Value.ofAtName? s = some v ∧ v.suits field = true := by
  unfold readAtName
  cases Value.ofAtName? s with
  | none => simp [malformed]
  | some u =>
    by_cases hu : u.suits field = true
    · simp only [hu, Option.some.injEq]
      constructor
      · intro h; cases h; exact ⟨rfl, hu⟩
      · rintro ⟨rfl, _⟩; rfl
    · simp only [hu, Option.some.injEq]
      constructor
      · intro h; cases h
      · rintro ⟨rfl, h⟩; exact absurd h hu

theorem number_admits_iff {negative : Bool} {digits : String} {v : Value} :
    WrittenValue.Admits r ctx field op (.number negative digits) v ↔
      readNumber field ctx (numberText negative digits) = .ok v := by
  rw [readNumber_ok_iff]
  constructor
  · intro h
    cases h with
    | integer hn hv => exact .inl ⟨_, hn, hv⟩
    | decimal hn ht hb => exact .inr ⟨hn, ht, hb, rfl⟩
  · rintro (⟨n, hn, hv⟩ | ⟨hn, ht, hb, rfl⟩)
    · exact .integer hn hv
    · exact .decimal hn ht hb

theorem named_admits_iff {name : String} {shift : Option (Bool × String)} {v : Value} :
    WrittenValue.Admits r ctx field op (.named name shift) v ↔
      readAtName field (nameText name shift) = .ok v := by
  rw [readAtName_ok_iff]
  constructor
  · intro h
    cases h with
    | named hv hs => exact ⟨hv, hs⟩
  · rintro ⟨hv, hs⟩; exact .named hv hs

theorem readValue_sound {tokens rest : List Token} {v : Value}
    (h : readValue r ctx field op tokens = .ok (v, rest)) :
    ∃ w : WrittenValue, tokens = w.tokens ++ rest ∧ w.Admits r ctx field op v := by
  unfold readValue at h
  split at h
  · rename_i body more
    split at h
    · cases h
    · rename_i text htext
      split at h
      · cases h
      · rename_i hblank
        obtain ⟨u, hu, heq⟩ := map_ok_iff.mp h
        cases heq
        refine ⟨.literal body, rfl, .literal htext (fun hs => ?_) hu⟩
        simpa [hs] using hblank
  · rename_i n more
    obtain ⟨u, hu, heq⟩ := map_ok_iff.mp h
    cases heq
    exact ⟨.number true n, rfl, number_admits_iff.mpr hu⟩
  · exact absurd h unexpected_ne_ok
  · rename_i n more
    obtain ⟨u, hu, heq⟩ := map_ok_iff.mp h
    cases heq
    exact ⟨.number false n, rfl, number_admits_iff.mpr hu⟩
  · rename_i name sign n more
    -- a symbol after a name shifts it only if it is a sign; otherwise the name stands alone
    split at h
    · rename_i hsign
      obtain ⟨u, hu, heq⟩ := map_ok_iff.mp h
      cases heq
      rcases hsign with rfl | rfl
      · exact ⟨.named name (some (true, n)), rfl, named_admits_iff.mpr hu⟩
      · exact ⟨.named name (some (false, n)), rfl, named_admits_iff.mpr hu⟩
    · obtain ⟨u, hu, heq⟩ := map_ok_iff.mp h
      cases heq
      exact ⟨.named name none, rfl, named_admits_iff.mpr hu⟩
  · rename_i name more _
    obtain ⟨u, hu, heq⟩ := map_ok_iff.mp h
    cases heq
    exact ⟨.named name none, rfl, named_admits_iff.mpr hu⟩
  · rename_i name more
    split at h
    · cases h
    · rename_i other hother
      split at h
      · rename_i reference href
        cases h
        exact ⟨.field name, rfl, .field hother href⟩
      · cases h
  · exact absurd h unexpected_ne_ok

/-- A name is read without a shift where none can follow. -/
theorem readValue_name {name : String} {rest : List Token} (hr : Stops rest) :
    readValue r ctx field op (.atName name :: rest)
      = (readAtName field name).map fun value => (value, rest) := by
  cases rest with
  | nil => rfl
  | cons t rest =>
    rcases hr t rfl with rfl | rfl | ⟨w, rfl⟩ <;> rfl

theorem readValue_named {name : String} {shift : Option (Bool × String)} {rest : List Token}
    (hr : Stops rest) :
    readValue r ctx field op ((WrittenValue.named name shift).tokens ++ rest)
      = (readAtName field (nameText name shift)).map fun value => (value, rest) := by
  cases shift with
  | none => exact readValue_name hr
  | some shift =>
    obtain ⟨forward, digits⟩ := shift
    cases forward <;>
      simp [WrittenValue.tokens, WrittenValue.signToken, readValue, nameText]

theorem readValue_complete {w : WrittenValue} {v : Value} {rest : List Token}
    (h : w.Admits r ctx field op v) (hr : Stops rest) :
    readValue r ctx field op (w.tokens ++ rest) = .ok (v, rest) := by
  cases w with
  | literal body =>
    cases h with
    | literal htext hblank hv =>
      rename_i text
      have hsearch : (op.isSearch && Text.isBlankText text) = false := by
        cases hs : op.isSearch with
        | false => rfl
        | true => exact hblank hs
      simp [WrittenValue.tokens, readValue, htext, hsearch, hv, Except.map]
  | number negative digits =>
    have hv := number_admits_iff.mp h
    cases negative <;> simp [WrittenValue.tokens, readValue, numberText, Except.map] at hv ⊢ <;> rw [hv]
  | named name shift =>
    rw [readValue_named hr, named_admits_iff.mp h]
    rfl
  | field name =>
    cases h with
    | field hother href => simp [WrittenValue.tokens, readValue, hother, href]

/-! ## Lists of values -/

theorem joinTokens_values (w u : WrittenValue) (ws : List WrittenValue) (rest : List Token) :
    joinTokens [.comma] ((w :: u :: ws).map WrittenValue.tokens) ++ rest
      = w.tokens ++ .comma :: (joinTokens [.comma] ((u :: ws).map WrittenValue.tokens) ++ rest) := by
  simp [joinTokens]

theorem readValues_sound {fuel : Nat} : ∀ {tokens rest : List Token} {vs : List Value},
    readValues r ctx field op fuel tokens = .ok (vs, rest) →
      ∃ ws : List WrittenValue, ws ≠ [] ∧
        tokens = joinTokens [.comma] (ws.map WrittenValue.tokens) ++ .rightParen :: rest ∧
        List.Forall₂ (WrittenValue.Admits r ctx field op) ws vs := by
  induction fuel with
  | zero => intro tokens rest vs h; cases h
  | succ fuel ih =>
    intro tokens rest vs h
    rw [readValues, bind_ok_iff] at h
    obtain ⟨⟨v, after⟩, hv, h⟩ := h
    obtain ⟨w, rfl, hw⟩ := readValue_sound hv
    simp only at h
    split at h
    · rename_i more
      rw [bind_ok_iff] at h
      obtain ⟨⟨us, left⟩, hus, h⟩ := h
      cases h
      obtain ⟨ws, hne, rfl, hws⟩ := ih hus
      refine ⟨w :: ws, by simp, ?_, .cons hw hws⟩
      cases ws with
      | nil => exact absurd rfl hne
      | cons u ws => simp [joinTokens]
    · cases h
      exact ⟨[w], by simp, by simp [joinTokens], .cons hw .nil⟩
    · exact absurd h unexpected_ne_ok

theorem readValues_complete {ws : List WrittenValue} {vs : List Value}
    (h : List.Forall₂ (WrittenValue.Admits r ctx field op) ws vs) (rest : List Token) :
    ∀ fuel, ws ≠ [] → ws.length ≤ fuel →
      readValues r ctx field op fuel
        (joinTokens [.comma] (ws.map WrittenValue.tokens) ++ .rightParen :: rest) = .ok (vs, rest) := by
  induction h with
  | nil => intro _ hne; exact absurd rfl hne
  | @cons w v ws vs hw hws ih =>
    intro fuel _ hfuel
    obtain ⟨fuel, rfl⟩ : ∃ n, fuel = n + 1 := ⟨fuel - 1, by simp at hfuel; omega⟩
    cases hws with
    | nil =>
      have hv := readValue_complete hw (stops_rightParen rest)
      simp [joinTokens, readValues, hv, bind, Except.bind, pure, Except.pure]
    | @cons u x ws vs hu hws =>
      have hmore := ih fuel (by simp) (by simpa using hfuel)
      have hv := readValue_complete hw (stops_comma
        (joinTokens [.comma] ((u :: ws).map WrittenValue.tokens) ++ .rightParen :: rest))
      rw [joinTokens_values, readValues, hv]
      simp only [bind, Except.bind, hmore]
      rfl

theorem WrittenValue.length_tokens_pos (w : WrittenValue) : 0 < w.tokens.length := by
  cases w with
  | literal body => simp [tokens]
  | number negative digits => cases negative <;> simp [tokens]
  | named name shift => rcases shift with _ | ⟨forward, digits⟩ <;> simp [tokens]
  | field name => simp [tokens]

theorem length_le_joinTokens (ws : List WrittenValue) :
    ws.length ≤ (joinTokens [.comma] (ws.map WrittenValue.tokens)).length := by
  induction ws with
  | nil => simp
  | cons w ws ih =>
    have hw := w.length_tokens_pos
    cases ws with
    | nil =>
      simp only [List.map_cons, List.map_nil, joinTokens, List.length_cons, List.length_nil]
      omega
    | cons u ws =>
      simp only [List.map_cons, joinTokens, List.length_append, List.length_cons, List.length_nil]
        at ih ⊢
      omega

/-- A list is read with a unit of fuel more than it has tokens; more changes nothing. -/
theorem readValues_succ {fuel : Nat} : ∀ {tokens : List Token}, tokens.length < fuel →
    readValues r ctx field op (fuel + 1) tokens = readValues r ctx field op fuel tokens := by
  induction fuel with
  | zero => intro tokens h; omega
  | succ fuel ih =>
    intro tokens h
    rw [readValues, readValues]
    cases hv : readValue r ctx field op tokens with
    | error e => rfl
    | ok p =>
      obtain ⟨v, after⟩ := p
      obtain ⟨w, rfl, _⟩ := readValue_sound hv
      have hw := w.length_tokens_pos
      simp only [List.length_append] at h
      cases after with
      | nil => rfl
      | cons t rest =>
        cases t with
        | comma =>
          simp only [List.length_cons] at h
          simp only [bind, Except.bind]
          rw [ih (by omega)]
        | _ => rfl

theorem readValues_settled {tokens : List Token} {fuel : Nat} (h : tokens.length + 1 ≤ fuel) :
    readValues r ctx field op fuel tokens = readValues r ctx field op (tokens.length + 1) tokens := by
  induction h with
  | refl => rfl
  | step h ih => rw [readValues_succ h, ih]

/-! ## Operators -/

theorem leadingOperatorWords_eq : ∀ tokens : List Token,
    tokens = (leadingOperatorWords tokens).map Token.word
      ++ tokens.drop (leadingOperatorWords tokens).length ∧
    ∀ w ∈ leadingOperatorWords tokens, isOneOf operatorWords w = true := by
  intro tokens
  induction tokens with
  | nil => exact ⟨rfl, by simp [leadingOperatorWords]⟩
  | cons t rest ih =>
    cases t with
    | word w =>
      by_cases hw : isOneOf operatorWords w = true
      · simp only [leadingOperatorWords, hw, if_pos]
        refine ⟨by simpa using ih.1, ?_⟩
        intro u hu
        rcases List.mem_cons.mp hu with rfl | hu
        · exact hw
        · exact ih.2 u hu
      · simp [leadingOperatorWords, hw]
    | _ => simp [leadingOperatorWords]

theorem leadingOperatorWords_append {ws : List String} {rest : List Token}
    (hws : ∀ w ∈ ws, isOneOf operatorWords w = true) (hr : ∀ w, rest.head? ≠ some (.word w)) :
    leadingOperatorWords (ws.map Token.word ++ rest) = ws := by
  induction ws with
  | nil =>
    cases rest with
    | nil => rfl
    | cons t rest =>
      cases t with
      | word w => exact absurd rfl (hr w)
      | _ => rfl
  | cons w ws ih =>
    simp only [List.map_cons, List.cons_append, leadingOperatorWords, hws w (by simp), if_pos]
    rw [ih fun u hu => hws u (by simp [hu])]

theorem readOperator_sound {tokens rest : List Token}
    (h : readOperator field tokens = .ok (op, rest)) :
    ∃ ops, SpellsOperator ops op ∧ tokens = ops ++ rest := by
  unfold readOperator at h
  split at h
  · rename_i s more
    cases hs : Operator.ofText? s with
    | none => rw [hs] at h; cases h
    | some found =>
      rw [hs] at h
      cases h
      exact ⟨[.symbol s], .symbol hs, rfl⟩
  · obtain ⟨heq, hall⟩ := leadingOperatorWords_eq tokens
    generalize hws : leadingOperatorWords tokens = ws at h heq hall
    cases ws with
    | nil => cases h
    | cons w ws =>
      cases hs : Operator.ofText? (Text.join " " (w :: ws)) with
      | none => simp [hs, malformed] at h
      | some found =>
        simp only [hs, List.isEmpty_cons, Bool.false_eq_true, if_false, Except.ok.injEq,
          Prod.mk.injEq] at h
        obtain ⟨rfl, rfl⟩ := h
        exact ⟨_, .words (by simp) hall hs, heq⟩

theorem readOperator_complete {ops rest : List Token} (h : SpellsOperator ops op)
    (hr : ∀ w, rest.head? ≠ some (.word w)) :
    readOperator field (ops ++ rest) = .ok (op, rest) := by
  cases h with
  | symbol hs => simp [readOperator, hs]
  | @words ws _ hne hall hs =>
    have hlead := leadingOperatorWords_append hall hr
    cases ws with
    | nil => exact absurd rfl hne
    | cons w ws =>
      unfold readOperator
      simp only [List.map_cons, List.cons_append] at hlead ⊢
      rw [hlead]
      simp [hs]

/-! ## Comparisons -/

def readOperands (r : Registry) (ctx : QueryContext) (field : FieldDef) (op : Operator)
    (tokens : List Token) : Except CompileError (List Value × List Token) :=
  if op.takesList then
    match tokens with
    | .leftParen :: rest => readValues r ctx field op (rest.length + 1) rest
    | rest => unexpected (.listStart op) rest
  else (readValue r ctx field op tokens).map fun (v, rest) => ([v], rest)

theorem readOperands_sound {tokens rest : List Token} {vs : List Value}
    (h : readOperands r ctx field op tokens = .ok (vs, rest)) :
    ∃ ws, op.Takes ws ∧ tokens = op.operandTokens ws ++ rest ∧
      List.Forall₂ (WrittenValue.Admits r ctx field op) ws vs := by
  unfold readOperands at h
  split at h
  · rename_i hlist
    split at h
    · obtain ⟨ws, hne, rfl, hws⟩ := readValues_sound h
      exact ⟨ws, by simpa [Operator.Takes, hlist] using hne, by simp [Operator.operandTokens, hlist],
        hws⟩
    · exact absurd h unexpected_ne_ok
  · rename_i hlist
    obtain ⟨⟨v, more⟩, hv, heq⟩ := map_ok_iff.mp h
    cases heq
    obtain ⟨w, rfl, hw⟩ := readValue_sound hv
    exact ⟨[w], by simp [Operator.Takes, hlist], by simp [Operator.operandTokens, hlist],
      .cons hw .nil⟩

theorem readOperands_complete {ws : List WrittenValue} {vs : List Value} {rest : List Token}
    (ht : op.Takes ws) (h : List.Forall₂ (WrittenValue.Admits r ctx field op) ws vs)
    (hr : Stops rest) : readOperands r ctx field op (op.operandTokens ws ++ rest) = .ok (vs, rest) := by
  unfold readOperands Operator.operandTokens
  unfold Operator.Takes at ht
  cases hlist : op.takesList with
  | true =>
    simp only [hlist, if_true] at ht ⊢
    have hlen := length_le_joinTokens ws
    have hread := readValues_complete h rest
      ((joinTokens [.comma] (ws.map WrittenValue.tokens) ++ .rightParen :: rest).length + 1) ht
      (by simp only [List.length_append]; omega)
    simpa using hread
  | false =>
    simp only [hlist, Bool.false_eq_true, if_false] at ht ⊢
    obtain ⟨w, rfl⟩ := List.length_eq_one_iff.mp ht
    cases h with
    | cons hw hnil =>
      cases hnil
      have hv := readValue_complete hw hr
      simp [hv, Except.map]

theorem operandTokens_starts {ws : List WrittenValue} (ht : op.Takes ws) (rest : List Token) :
    ∀ w, (op.operandTokens ws ++ rest).head? ≠ some (.word w) := by
  intro word
  unfold Operator.operandTokens
  unfold Operator.Takes at ht
  cases hlist : op.takesList with
  | true => simp
  | false =>
    simp only [hlist, Bool.false_eq_true, if_false] at ht ⊢
    obtain ⟨w, rfl⟩ := List.length_eq_one_iff.mp ht
    cases w with
    | literal body => simp [WrittenValue.tokens]
    | number negative digits => cases negative <;> simp [WrittenValue.tokens]
    | named name shift => rcases shift with _ | ⟨forward, digits⟩ <;> simp [WrittenValue.tokens]
    | field name => simp [WrittenValue.tokens]

/-- A comparison is read field by field: the name, the operator, then the operands. -/
theorem readComparison_eq (name : String) (tokens : List Token) :
    readComparison r ctx name tokens =
      match r.resolve? name with
      | none => .error (.unknownField name)
      | some field =>
        match Quote.checkReference field.reference with
        | .error fault => malformed (.reference fault)
        | .ok _ =>
          match readOperator field tokens with
          | .error e => .error e
          | .ok (op, rest) =>
            if field.valueType.accepts op then
              (readOperands r ctx field op rest).map fun (vs, rest) => (⟨field, op, vs⟩, rest)
            else .error (.operatorMismatch field.reference op field.valueType) := by
  unfold readComparison
  cases r.resolve? name with
  | none => rfl
  | some field =>
    simp only [pure_bind]
    cases Quote.checkReference field.reference with
    | error fault => rfl
    | ok bare =>
      cases readOperator field tokens with
      | error e => rfl
      | ok p =>
        obtain ⟨op, rest⟩ := p
        cases hop : field.valueType.accepts op with
        | false => simp [hop, bind, Except.bind, throw, throwThe, MonadExceptOf.throw]
        | true =>
          simp only [hop, bind, Except.bind, pure, Except.pure, readOperands, if_pos, Bool.not_true,
            Bool.false_eq_true, if_false]
          cases op.takesList with
          | true =>
            cases rest with
            | nil => rfl
            | cons t rest =>
              cases t with
              | leftParen =>
                simp only [if_pos]
                cases readValues r ctx field op (rest.length + 1) rest <;> rfl
              | _ => simp only [if_pos, unexpected_map]
          | false =>
            simp only [Bool.false_eq_true, if_false]
            cases readValue r ctx field op rest <;> rfl

theorem readComparison_sound {name : String} {tokens rest : List Token} {c : Comparison}
    (h : readComparison r ctx name tokens = .ok (c, rest)) :
    ∃ used, tokens = used ++ rest ∧ WritesComparison r ctx (.field name :: used) c := by
  rw [readComparison_eq] at h
  split at h
  · cases h
  · rename_i field hfield
    split at h
    · cases h
    · rename_i bare hbare
      split at h
      · cases h
      · rename_i op after hop
        split at h
        · rename_i haccepts
          obtain ⟨⟨vs, left⟩, hvs, heq⟩ := map_ok_iff.mp h
          cases heq
          obtain ⟨ops, hspells, rfl⟩ := readOperator_sound hop
          obtain ⟨ws, htakes, rfl, hws⟩ := readOperands_sound hvs
          exact ⟨ops ++ op.operandTokens ws, by simp,
            .mk hfield hbare hspells haccepts htakes hws⟩
        · cases h

theorem readComparison_complete {used rest : List Token} {c : Comparison}
    (h : WritesComparison r ctx used c) (hr : Stops rest) :
    ∃ name more, used = .field name :: more ∧
      readComparison r ctx name (more ++ rest) = .ok (c, rest) := by
  cases h with
  | @mk name bare field ops op ws vs hfield hbare hspells haccepts htakes hws =>
    refine ⟨name, _, rfl, ?_⟩
    have hop : readOperator field (ops ++ (op.operandTokens ws ++ rest))
        = .ok (op, op.operandTokens ws ++ rest) :=
      readOperator_complete hspells (operandTokens_starts htakes rest)
    have hvs := readOperands_complete htakes hws hr
    rw [readComparison_eq, List.append_assoc, hfield]
    simp only [hbare, hop, haccepts, if_true, hvs]
    rfl

end WorkQuery
