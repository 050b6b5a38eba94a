import WorkQuery.Proofs.Query.Balance
import WorkQuery.Proofs.Query.Operands

/-!
# WorkQuery.Proofs.Query.Acceptance

The reader of conditions accepts its grammar and nothing else.

* `Reader.sound`: what is read is derived by the tokens it is read from, by induction on the fuel.
* `Reader.settled`: from `4 n + 3` on, for `n` tokens, more fuel changes nothing, whether the
  result is a condition or an error. Every call that is not on fewer tokens goes down in
  `condition > term > factor` or from a condition to its chain, hence the four steps a token.
* `Writes.recovers`: what tokens derive is read from them, by induction on the derivation. The
  chain of a condition is read by a loop to the right although it is joined from the left, so what
  is recovered of a condition is the run of the loop after it.
-/

namespace WorkQuery

variable {r : Registry} {ctx : QueryContext}

/-! ## Steps of the reader -/

namespace Reader

theorem readCondition_succ (fuel : Nat) (tokens : List Token) :
    readCondition r ctx (fuel + 1) tokens
      = readTerm r ctx fuel tokens >>= fun p => readChain r ctx fuel p.1 p.2 := by
  rw [readCondition]
  cases readTerm r ctx fuel tokens <;> rfl

theorem readChain_word {w : String} {k : Connective} (hk : Connective.ofWord? w = some k) (fuel : Nat)
    (left : Condition) (rest : List Token) :
    readChain r ctx (fuel + 1) left (.word w :: rest)
      = readTerm r ctx fuel rest >>= fun p => readChain r ctx fuel (.join left k p.1) p.2 := by
  simp only [readChain, hk]
  cases readTerm r ctx fuel rest <;> rfl

theorem readFactor_group (fuel : Nat) (rest : List Token) :
    readFactor r ctx (fuel + 1) (.leftParen :: rest)
      = readCondition r ctx fuel rest >>= fun p =>
        match p.2 with
        | .rightParen :: rest => .ok (.group p.1, rest)
        | rest => unexpected .groupEnd rest := by
  simp only [readFactor]
  cases readCondition r ctx fuel rest with
  | error e => rfl
  | ok p =>
    obtain ⟨inner, rest⟩ := p
    rcases rest with _ | ⟨t, rest⟩
    · rfl
    · cases t <;> rfl

end Reader

theorem Condition.ofTokens_eq (tokens : List Token) :
    Condition.ofTokens r ctx tokens =
      if tokens.isEmpty then malformed .blank
      else
        checkBalance 0 tokens >>= fun _ =>
        readCondition r ctx (4 * tokens.length + 4) tokens >>= fun p =>
        match p.2 with
        | [] => .ok p.1
        | rest => unexpected .conditionEnd rest := by
  unfold Condition.ofTokens
  cases tokens.isEmpty with
  | true => rfl
  | false =>
    simp only [Bool.false_eq_true, if_false]
    refine congrArg _ (funext fun _ => congrArg _ (funext fun p => ?_))
    obtain ⟨cond, rest⟩ := p
    cases rest <;> rfl

/-! ## Soundness -/

namespace Reader

/-- What the four readers yield with this fuel is derived by the tokens they take. -/
structure Sound (r : Registry) (ctx : QueryContext) (fuel : Nat) : Prop where
  condition : ∀ {tokens rest c}, readCondition r ctx fuel tokens = .ok (c, rest) →
    ∃ used, tokens = used ++ rest ∧ Writes r ctx .condition used c
  chain : ∀ {before left tokens rest c}, Writes r ctx .condition before left →
    readChain r ctx fuel left tokens = .ok (c, rest) →
    ∃ used, tokens = used ++ rest ∧ Writes r ctx .condition (before ++ used) c
  term : ∀ {tokens rest c}, readTerm r ctx fuel tokens = .ok (c, rest) →
    ∃ used, tokens = used ++ rest ∧ Writes r ctx .term used c
  factor : ∀ {tokens rest c}, readFactor r ctx fuel tokens = .ok (c, rest) →
    ∃ used, tokens = used ++ rest ∧ Writes r ctx .factor used c

theorem afterNot?_eq {tokens rest : List Token} (h : afterNot? tokens = some rest) :
    ∃ w, tokens = .word w :: rest ∧ Text.sameIgnoringCase w "NOT" = true := by
  unfold afterNot? at h
  split at h
  · rename_i w more
    split at h
    · rename_i hw
      cases h
      exact ⟨w, rfl, hw⟩
    · cases h
  · cases h

theorem condition_sound {fuel : Nat} (ih : Sound r ctx fuel) {tokens rest : List Token}
    {c : Condition} (h : readCondition r ctx (fuel + 1) tokens = .ok (c, rest)) :
    ∃ used, tokens = used ++ rest ∧ Writes r ctx .condition used c := by
  rw [readCondition] at h
  split at h
  · cases h
  · rename_i first after hfirst
    obtain ⟨used, rfl, hused⟩ := ih.term hfirst
    obtain ⟨more, rfl, hmore⟩ := ih.chain (.term hused) h
    exact ⟨used ++ more, by simp, hmore⟩

theorem chain_sound {fuel : Nat} (ih : Sound r ctx fuel) {before tokens rest : List Token}
    {left c : Condition} (hbefore : Writes r ctx .condition before left)
    (h : readChain r ctx (fuel + 1) left tokens = .ok (c, rest)) :
    ∃ used, tokens = used ++ rest ∧ Writes r ctx .condition (before ++ used) c := by
  unfold readChain at h
  split at h
  · rename_i w after
    split at h
    · rename_i k hk
      split at h
      · cases h
      · rename_i right left' hright
        obtain ⟨used, rfl, hused⟩ := ih.term hright
        obtain ⟨more, rfl, hmore⟩ := ih.chain (.join hbefore hk hused) h
        exact ⟨.word w :: used ++ more, by simp, by simpa using hmore⟩
    · cases h
      exact ⟨[], rfl, by simpa using hbefore⟩
  · cases h
    exact ⟨[], rfl, by simpa using hbefore⟩

theorem term_sound {fuel : Nat} (ih : Sound r ctx fuel) {tokens rest : List Token}
    {c : Condition} (h : readTerm r ctx (fuel + 1) tokens = .ok (c, rest)) :
    ∃ used, tokens = used ++ rest ∧ Writes r ctx .term used c := by
  rw [readTerm] at h
  split at h
  · rename_i after hafter
    obtain ⟨w, rfl, hw⟩ := afterNot?_eq hafter
    obtain ⟨⟨inner, left⟩, hinner, heq⟩ := map_ok_iff.mp h
    cases heq
    obtain ⟨used, rfl, hused⟩ := ih.factor hinner
    exact ⟨.word w :: used, rfl, .negation hw hused⟩
  · obtain ⟨used, rfl, hused⟩ := ih.factor h
    exact ⟨used, rfl, .factor hused⟩

theorem factor_sound {fuel : Nat} (ih : Sound r ctx fuel) {tokens rest : List Token}
    {c : Condition} (h : readFactor r ctx (fuel + 1) tokens = .ok (c, rest)) :
    ∃ used, tokens = used ++ rest ∧ Writes r ctx .factor used c := by
  unfold readFactor at h
  split at h
  · rename_i after
    split at h
    · cases h
    · rename_i inner left hinner
      cases h
      obtain ⟨used, rfl, hused⟩ := ih.condition hinner
      exact ⟨.leftParen :: used ++ [.rightParen], by simp, .group hused⟩
    · exact absurd h unexpected_ne_ok
  · rename_i name after
    obtain ⟨⟨cmp, left⟩, hcmp, heq⟩ := map_ok_iff.mp h
    cases heq
    obtain ⟨used, rfl, hused⟩ := readComparison_sound hcmp
    exact ⟨.field name :: used, rfl, .comparison hused⟩
  · exact absurd h unexpected_ne_ok

theorem sound (fuel : Nat) : Sound r ctx fuel := by
  induction fuel with
  | zero =>
    refine ⟨fun h => ?_, fun _ h => ?_, fun h => ?_, fun h => ?_⟩
    · rw [readCondition] at h; cases h
    · rw [readChain] at h; cases h
    · rw [readTerm] at h; cases h
    · rw [readFactor] at h; cases h
  | succ fuel ih =>
    exact ⟨condition_sound ih, chain_sound ih, term_sound ih, factor_sound ih⟩

/-! ## Enough fuel -/

theorem term_progress {fuel : Nat} {tokens rest : List Token} {c : Condition}
    (h : readTerm r ctx fuel tokens = .ok (c, rest)) : rest.length < tokens.length := by
  obtain ⟨used, rfl, hused⟩ := (sound fuel).term h
  have hpos := List.length_pos_of_ne_nil hused.ne_nil
  simp only [List.length_append]
  omega

/-- One more unit of fuel changes nothing where there is enough. -/
structure Settled (r : Registry) (ctx : QueryContext) (fuel : Nat) : Prop where
  condition : ∀ {tokens}, 4 * tokens.length + 3 ≤ fuel →
    readCondition r ctx (fuel + 1) tokens = readCondition r ctx fuel tokens
  chain : ∀ {left tokens}, 4 * tokens.length + 1 ≤ fuel →
    readChain r ctx (fuel + 1) left tokens = readChain r ctx fuel left tokens
  term : ∀ {tokens}, 4 * tokens.length + 2 ≤ fuel →
    readTerm r ctx (fuel + 1) tokens = readTerm r ctx fuel tokens
  factor : ∀ {tokens}, 4 * tokens.length + 1 ≤ fuel →
    readFactor r ctx (fuel + 1) tokens = readFactor r ctx fuel tokens

theorem condition_settled {fuel : Nat} (ih : Settled r ctx fuel) {tokens : List Token}
    (h : 4 * tokens.length + 3 ≤ fuel + 1) :
    readCondition r ctx (fuel + 2) tokens = readCondition r ctx (fuel + 1) tokens := by
  rw [readCondition, readCondition, ih.term (by omega)]
  cases hterm : readTerm r ctx fuel tokens with
  | error e => rfl
  | ok p =>
    obtain ⟨first, rest⟩ := p
    have hrest := term_progress hterm
    exact ih.chain (by omega)

theorem chain_settled {fuel : Nat} (ih : Settled r ctx fuel) {left : Condition}
    {tokens : List Token} (h : 4 * tokens.length + 1 ≤ fuel + 1) :
    readChain r ctx (fuel + 2) left tokens = readChain r ctx (fuel + 1) left tokens := by
  cases tokens with
  | nil => rfl
  | cons t rest =>
    cases t with
    | word w =>
      simp only [List.length_cons] at h
      simp only [readChain]
      cases Connective.ofWord? w with
      | none => rfl
      | some k =>
        simp only []
        rw [ih.term (by omega)]
        cases hterm : readTerm r ctx fuel rest with
        | error e => rfl
        | ok p =>
          obtain ⟨right, after⟩ := p
          have hafter := term_progress hterm
          exact ih.chain (by omega)
    | _ => rfl

theorem term_settled {fuel : Nat} (ih : Settled r ctx fuel) {tokens : List Token}
    (h : 4 * tokens.length + 2 ≤ fuel + 1) :
    readTerm r ctx (fuel + 2) tokens = readTerm r ctx (fuel + 1) tokens := by
  rw [readTerm, readTerm]
  cases hnot : afterNot? tokens with
  | none => exact ih.factor (by omega)
  | some rest =>
    obtain ⟨w, rfl, _⟩ := afterNot?_eq hnot
    simp only [List.length_cons] at h
    simp only []
    rw [ih.factor (by omega)]

theorem factor_settled {fuel : Nat} (ih : Settled r ctx fuel) {tokens : List Token}
    (h : 4 * tokens.length + 1 ≤ fuel + 1) :
    readFactor r ctx (fuel + 2) tokens = readFactor r ctx (fuel + 1) tokens := by
  cases tokens with
  | nil => rfl
  | cons t rest =>
    cases t with
    | leftParen =>
      simp only [List.length_cons] at h
      simp only [readFactor]
      rw [ih.condition (by omega)]
    | _ => rfl

theorem settled_step (fuel : Nat) : Settled r ctx fuel := by
  induction fuel with
  | zero =>
    refine ⟨fun h => ?_, fun h => ?_, fun h => ?_, fun h => ?_⟩
    all_goals omega
  | succ fuel ih =>
    exact ⟨condition_settled ih, chain_settled ih, term_settled ih, factor_settled ih⟩

/-- From enough fuel on, the result is one and the same. -/
theorem settled {tokens : List Token} {fuel : Nat} (h : 4 * tokens.length + 3 ≤ fuel) :
    readCondition r ctx fuel tokens = readCondition r ctx (4 * tokens.length + 3) tokens := by
  induction h with
  | refl => rfl
  | @step fuel h ih => rw [(settled_step fuel).condition h, ih]

/-! ## Completeness -/

/-- A reader has this result with all fuel from some on. -/
def Settles {α : Type} (read : Nat → α) (result : α) : Prop :=
  ∃ enough, ∀ fuel, enough ≤ fuel → read fuel = result

theorem settles_of_succ {α : Type} {read : Nat → α} {result : α} (enough : Nat)
    (h : ∀ fuel, enough ≤ fuel → read (fuel + 1) = result) : Settles read result := by
  refine ⟨enough + 1, fun fuel hfuel => ?_⟩
  obtain ⟨k, rfl⟩ : ∃ k, fuel = k + 1 := ⟨fuel - 1, by omega⟩
  exact h k (by omega)

theorem settles_condition {tokens rest : List Token} {first : Condition}
    {result : Except CompileError (Condition × List Token)}
    (hterm : Settles (readTerm r ctx · tokens) (.ok (first, rest)))
    (hchain : Settles (readChain r ctx · first rest) result) :
    Settles (readCondition r ctx · tokens) result := by
  obtain ⟨n, hn⟩ := hterm
  obtain ⟨m, hm⟩ := hchain
  refine settles_of_succ (max n m) fun fuel hfuel => ?_
  simp only [readCondition, hn fuel (by omega), hm fuel (by omega)]

theorem settles_chain {tokens rest : List Token} {left right : Condition} {w : String}
    {k : Connective} {result : Except CompileError (Condition × List Token)}
    (hk : Connective.ofWord? w = some k)
    (hterm : Settles (readTerm r ctx · tokens) (.ok (right, rest)))
    (hchain : Settles (readChain r ctx · (.join left k right) rest) result) :
    Settles (readChain r ctx · left (.word w :: tokens)) result := by
  obtain ⟨n, hn⟩ := hterm
  obtain ⟨m, hm⟩ := hchain
  refine settles_of_succ (max n m) fun fuel hfuel => ?_
  simp only [readChain, hk, hn fuel (by omega), hm fuel (by omega)]

theorem settles_chain_error {tokens : List Token} {left : Condition} {w : String} {k : Connective}
    {e : CompileError} (hk : Connective.ofWord? w = some k)
    (hterm : Settles (readTerm r ctx · tokens) (.error e)) :
    Settles (readChain r ctx · left (.word w :: tokens)) (.error e) := by
  obtain ⟨n, hn⟩ := hterm
  refine settles_of_succ n fun fuel hfuel => ?_
  simp only [readChain, hk, hn fuel hfuel]

theorem settles_negation {tokens rest : List Token} {w : String} {c : Condition}
    (hw : Text.sameIgnoringCase w "NOT" = true)
    (hfactor : Settles (readFactor r ctx · tokens) (.ok (c, rest))) :
    Settles (readTerm r ctx · (.word w :: tokens)) (.ok (.negation c, rest)) := by
  obtain ⟨n, hn⟩ := hfactor
  refine settles_of_succ n fun fuel hfuel => ?_
  simp only [readTerm, afterNot?, hw, if_pos, hn fuel hfuel]
  rfl

theorem settles_term {tokens rest : List Token} {c : Condition} (hnot : afterNot? tokens = none)
    (hfactor : Settles (readFactor r ctx · tokens) (.ok (c, rest))) :
    Settles (readTerm r ctx · tokens) (.ok (c, rest)) := by
  obtain ⟨n, hn⟩ := hfactor
  refine settles_of_succ n fun fuel hfuel => ?_
  simp only [readTerm, hnot, hn fuel hfuel]

theorem settles_group {tokens rest : List Token} {c : Condition}
    (hcondition : Settles (readCondition r ctx · tokens) (.ok (c, .rightParen :: rest))) :
    Settles (readFactor r ctx · (.leftParen :: tokens)) (.ok (.group c, rest)) := by
  obtain ⟨n, hn⟩ := hcondition
  refine settles_of_succ n fun fuel hfuel => ?_
  simp only [readFactor, hn fuel hfuel]

/-- The loop of a condition ends where no connective follows. -/
theorem settles_end {left : Condition} {rest : List Token}
    (hr : ∀ w more, rest = .word w :: more → Connective.ofWord? w = none) :
    Settles (readChain r ctx · left rest) (.ok (left, rest)) := by
  refine settles_of_succ 0 fun fuel _ => ?_
  cases rest with
  | nil => rfl
  | cons t more =>
    cases t with
    | word w => simp only [readChain, hr w more rfl]
    | _ => rfl

/-- How what is derived is read from its tokens when `rest` follows. -/
def Recovers (r : Registry) (ctx : QueryContext) (ts rest : List Token) (c : Condition) :
    Production → Prop
  | .condition => ∀ result, Settles (readChain r ctx · c rest) result →
      Settles (readCondition r ctx · (ts ++ rest)) result
  | .term => Settles (readTerm r ctx · (ts ++ rest)) (.ok (c, rest))
  | .factor => Settles (readFactor r ctx · (ts ++ rest)) (.ok (c, rest))

end Reader

open Reader

theorem Writes.recovers {p : Production} {ts : List Token} {c : Condition}
    (h : Writes r ctx p ts c) : ∀ rest, Stops rest → Recovers r ctx ts rest c p := by
  induction h with
  | term _ ih =>
    intro rest hr result hresult
    exact settles_condition (ih rest hr) hresult
  | @join ts us w k left right _ hk _ ihl ihr =>
    intro rest hr result hresult
    -- the loop that follows `left` takes this term first, and then what follows the join
    have hchain := settles_chain hk (ihr rest hr) hresult
    have hleft := ihl (.word w :: (us ++ rest)) (stops_word _ _) result hchain
    simpa using hleft
  | factor hfactor ih =>
    intro rest hr
    refine settles_term ?_ (ih rest hr)
    obtain ⟨name, more, rfl⟩ | ⟨more, rfl⟩ := hfactor.factor_starts <;> rfl
  | negation hw _ ih =>
    intro rest hr
    exact settles_negation hw (ih rest hr)
  | comparison h =>
    intro rest hr
    obtain ⟨name, more, rfl, hread⟩ := readComparison_complete h hr
    refine settles_of_succ 0 fun fuel _ => ?_
    simp only [List.cons_append, readFactor, hread]
    rfl
  | @group ts c _ ih =>
    intro rest _
    have hend : Settles (readChain r ctx · c (.rightParen :: rest)) (.ok (c, .rightParen :: rest)) :=
      settles_end (by simp)
    have hinner := ih (.rightParen :: rest) (stops_rightParen rest) _ hend
    have hgroup := settles_group hinner
    simpa [Recovers] using hgroup

theorem Writes.read {ts : List Token} {c : Condition} (h : Writes r ctx .condition ts c)
    {fuel : Nat} (hfuel : 4 * ts.length + 3 ≤ fuel) :
    readCondition r ctx fuel ts = .ok (c, []) := by
  have hend : Settles (readChain r ctx · c []) (.ok (c, [])) := settles_end (by simp)
  obtain ⟨n, hn⟩ := h.recovers [] stops_nil _ hend
  have hread : readCondition r ctx (max n fuel) (ts ++ []) = .ok (c, []) := hn _ (by omega)
  rw [List.append_nil, Reader.settled (by omega)] at hread
  rw [Reader.settled hfuel, hread]

/-! ## Acceptance -/

/-- Tokens are refused for what the reader of conditions refuses them for. -/
theorem Condition.ofTokens_error {tokens : List Token} {e : CompileError} (hne : tokens ≠ [])
    (hbalanced : Balanced tokens) (h : Reader.Settles (readCondition r ctx · tokens) (.error e)) :
    Condition.ofTokens r ctx tokens = .error e := by
  obtain ⟨n, hn⟩ := h
  have hread : readCondition r ctx (n + (4 * tokens.length + 3)) tokens = .error e :=
    hn _ (Nat.le_add_right _ _)
  rw [Reader.settled (Nat.le_add_left _ _), ← Reader.settled (Nat.le_succ _)] at hread
  have hempty : tokens.isEmpty = false := by simpa using hne
  rw [Condition.ofTokens_eq, hempty, hbalanced.check, hread]
  rfl

theorem Condition.ofTokens_ok_iff {tokens : List Token} {c : Condition} :
    Condition.ofTokens r ctx tokens = .ok c ↔ Writes r ctx .condition tokens c := by
  unfold Condition.ofTokens
  constructor
  · intro h
    cases hempty : tokens.isEmpty with
    | true => simp [hempty, malformed, bind, Except.bind] at h
    | false =>
      simp only [hempty, Bool.false_eq_true, if_false, bind_ok_iff] at h
      obtain ⟨_, _, ⟨c', rest⟩, hread, h⟩ := h
      obtain ⟨used, rfl, hused⟩ := (Reader.sound _).condition hread
      cases rest with
      | nil =>
        cases h
        simpa using hused
      | cons t rest => exact absurd h unexpected_ne_ok
  · intro h
    have hempty : tokens.isEmpty = false := by simpa using h.ne_nil
    simp only [hempty, Bool.false_eq_true, if_false, h.balanced.check, h.read (Nat.le_succ _), bind,
      Except.bind]
    rfl

theorem Condition.ofText_ok_iff {text : String} {c : Condition} :
    Condition.ofText r ctx text = .ok c ↔
      ∃ tokens, Token.ofText text = .ok tokens ∧ Writes r ctx .condition (dropWhere tokens) c := by
  unfold Condition.ofText
  cases Token.ofText text with
  | error fault => simp [malformed]
  | ok tokens => simp [Condition.ofTokens_ok_iff]

/-- A text is accepted as a condition exactly where it is split into tokens that derive that
condition, after one word WHERE at most. The reader has all the fuel it can use: more changes
neither a condition nor an error. What it leaves is the end of what it was given. -/
theorem Condition.ofText_accepts (r : Registry) (ctx : QueryContext) :
    (∀ text c, Condition.ofText r ctx text = .ok c ↔
      ∃ tokens, Token.ofText text = .ok tokens ∧ Writes r ctx .condition (dropWhere tokens) c) ∧
    (∀ tokens more, readCondition r ctx (4 * tokens.length + 4 + more) tokens
      = readCondition r ctx (4 * tokens.length + 4) tokens) ∧
    (∀ field op tokens more, readValues r ctx field op (tokens.length + 1 + more) tokens
      = readValues r ctx field op (tokens.length + 1) tokens) ∧
    (∀ fuel tokens c rest, readCondition r ctx fuel tokens = .ok (c, rest) → rest <:+ tokens) := by
  refine ⟨fun text c => Condition.ofText_ok_iff, fun tokens more => ?_,
    fun field op tokens more => ?_, fun fuel tokens c rest h => ?_⟩
  · exact (Reader.settled (by omega)).trans (Reader.settled (by omega)).symm
  · exact readValues_settled (by omega)
  · obtain ⟨used, rfl, _⟩ := (Reader.sound fuel).condition h
    exact List.suffix_append used rest

end WorkQuery
