import WorkQuery.Proofs.Query.Compiled

/-!
# WorkQuery.Proofs.Query.WellFormed

Every query that is made can be written and read back: it has conditions, each of them stands where
a factor does, and what is spelled in them is split into the tokens it was spelled with
(`Condition.IsConjunct`).

* `Writes.chained`, `Writes.spelled`: conditions written by hand.
* `Query.WellFormed`, `Compiler.compileInput_wellFormed`: queries for both shapes of input.
* `Query.WellFormed.reads`: what the body of such a query means.
-/

namespace WorkQuery

variable {r : Registry} {ctx : QueryContext}

theorem mem_joinTokens_of_mem {sep ts : List Token} {t : Token} {pieces : List (List Token)}
    (hts : ts ∈ pieces) (ht : t ∈ ts) : t ∈ joinTokens sep pieces := by
  induction pieces with
  | nil => cases hts
  | cons us more ih =>
    cases more with
    | nil =>
      obtain rfl := List.mem_singleton.mp hts
      exact ht
    | cons vs more =>
      rw [joinTokens_cons_cons]
      rcases List.mem_cons.mp hts with rfl | hts
      · simp [ht]
      · simp [ih hts]

/-! ## Conditions written by hand -/

theorem Writes.chained {p : Production} {ts : List Token} {c : Condition}
    (h : Writes r ctx p ts c) :
    c.IsChained ∧ ((p = .condition → False) → c.IsFactor) := by
  induction h with
  | term _ ih => exact ⟨ih.1, fun hp => absurd rfl hp⟩
  | join _ _ _ ihl ihr => exact ⟨⟨ihl.1, ihr.2 nofun, ihr.1⟩, fun hp => absurd rfl hp⟩
  | factor _ ih => exact ⟨ih.1, fun _ => ih.2 nofun⟩
  | negation _ _ ih => exact ⟨⟨ih.2 nofun, ih.1⟩, fun _ => trivial⟩
  | comparison _ => exact ⟨trivial, fun _ => trivial⟩
  | group _ ih => exact ⟨ih.1, fun _ => trivial⟩

theorem ofAtName?_cases {s : String} {v : Value} (h : Value.ofAtName? s = some v) :
    v ∈ namedValues ∨ ∃ m, v = .relative m := by
  unfold Value.ofAtName? at h
  split at h
  · rename_i u hu
    cases h
    exact .inl (List.mem_of_find?_eq_some hu)
  · obtain ⟨m, _, rfl⟩ := Option.map_eq_some_iff.mp h
    exact .inr ⟨m, rfl⟩

theorem WrittenValue.Admits.spelled {field : FieldDef} {op : Operator} {w : WrittenValue} {v : Value}
    (h : w.Admits r ctx field op v) (hnumbers : ∀ t ∈ w.tokens, t.IsNumbered) : v.IsSpelled := by
  cases h with
  | literal _ _ hv => exact render_spelled hv
  | integer _ hv => exact render_spelled hv
  | @decimal negative digits _ _ _ =>
    cases negative with
    | false => exact .inl (hnumbers (.number digits) (by simp [tokens]))
    | true =>
      exact .inr ⟨digits.toList, hnumbers (.number digits) (by simp [tokens]), by simp [numberText]⟩
  | named hv _ =>
    rcases ofAtName?_cases hv with hmem | ⟨m, rfl⟩
    · simp only [namedValues, List.mem_cons, List.not_mem_nil, or_false] at hmem
      rcases hmem with rfl | rfl | rfl <;> trivial
    · trivial
  | field _ hreference =>
    obtain ⟨rfl, hfree⟩ := checkReference_ok hreference
    exact hfree.trim

theorem mem_operandTokens {op : Operator} {ws : List WrittenValue} {w : WrittenValue} {t : Token}
    (hw : w ∈ ws) (ht : t ∈ w.tokens) : t ∈ op.operandTokens ws := by
  unfold Operator.operandTokens
  split
  · have hmem : t ∈ joinTokens [.comma] (ws.map WrittenValue.tokens) :=
      mem_joinTokens_of_mem (List.mem_map_of_mem hw) ht
    simp [hmem]
  · exact List.mem_flatMap.mpr ⟨w, hw, ht⟩

theorem WritesComparison.spelled {ts : List Token} {c : Comparison}
    (h : WritesComparison r ctx ts c) (hnumbers : ∀ t ∈ ts, t.IsNumbered) : c.IsSpelled := by
  cases h with
  | @mk name bare field ops op ws vs _ hreference _ _ htakes hws =>
    obtain ⟨rfl, hfree⟩ := checkReference_ok hreference
    have hlen := hws.length_eq
    unfold Operator.Takes at htakes
    refine ⟨hfree, ?_, ?_, ?_⟩
    · intro v hv
      obtain ⟨w, hw, hadmits⟩ := exists_left_of_mem hws hv
      refine hadmits.spelled fun t ht => hnumbers t ?_
      simp [mem_operandTokens hw ht]
    · intro hnil
      have hvs : vs = [] := hnil
      rw [hvs] at hlen
      have hnone := List.length_eq_zero_iff.mp hlen
      subst hnone
      split at htakes
      · exact htakes rfl
      · cases htakes
    · intro hop
      have hop : op.takesList = false := hop
      rw [if_neg (by simp [hop])] at htakes
      exact hlen.symm.trans htakes

/-- Every comparison of a condition is derived by some of the tokens that derive the condition. -/
theorem Writes.written {p : Production} {ts : List Token} {c : Condition} (h : Writes r ctx p ts c) :
    ∀ cmp ∈ c.comparisons, ∃ us ⊆ ts, WritesComparison r ctx us cmp := by
  induction h with
  | term _ ih => exact ih
  | join _ _ _ ihl ihr =>
    intro cmp hcmp
    rcases List.mem_append.mp hcmp with hcmp | hcmp
    · obtain ⟨us, hus, hcmp⟩ := ihl cmp hcmp
      exact ⟨us, List.subset_append_of_subset_left _ hus, hcmp⟩
    · obtain ⟨us, hus, hcmp⟩ := ihr cmp hcmp
      exact ⟨us, List.subset_append_of_subset_right _ (List.subset_cons_of_subset _ hus), hcmp⟩
  | factor _ ih => exact ih
  | negation _ _ ih =>
    intro cmp hcmp
    obtain ⟨us, hus, hcmp⟩ := ih cmp hcmp
    exact ⟨us, List.subset_cons_of_subset _ hus, hcmp⟩
  | comparison h =>
    intro cmp hcmp
    obtain rfl := List.mem_singleton.mp hcmp
    exact ⟨_, List.Subset.refl _, h⟩
  | group _ ih =>
    intro cmp hcmp
    obtain ⟨us, hus, hcmp⟩ := ih cmp hcmp
    exact ⟨us, List.subset_cons_of_subset _ (List.subset_append_of_subset_left _ hus), hcmp⟩

/-- A condition is spelled from the tokens that derive it, if their numbers are those of a text. -/
theorem Writes.spelled {p : Production} {ts : List Token} {c : Condition}
    (h : Writes r ctx p ts c) (hnumbers : ∀ t ∈ ts, t.IsNumbered) : c.IsSpelled := by
  intro cmp hcmp
  obtain ⟨us, hus, hwrites⟩ := h.written cmp hcmp
  exact hwrites.spelled fun t ht => hnumbers t (hus ht)

theorem dropWhere_subset {tokens : List Token} : dropWhere tokens ⊆ tokens := by
  unfold dropWhere
  split
  · split
    · exact List.subset_cons_self _ _
    · exact List.Subset.refl _
  · exact List.Subset.refl _

/-! ## Conditions that the compiler makes -/

/-- The fields that the compiler asks for by itself. -/
def ownFields : List FieldDef := [FieldDef.id, .title, .description, .teamProject]

theorem ownFields_bare :
    ∀ f ∈ ownFields, Text.trim f.reference = f.reference ∧ BracketFree f.reference := by
  unfold BracketFree
  decide +kernel

theorem Comparison.written_own {f : FieldDef} (hf : f ∈ ownFields) (op : Operator)
    (vs : List Value) : (Comparison.mk f op vs).written = ⟨f.reference, op, vs.map Value.written⟩ := by
  rw [written, (ownFields_bare f hf).1]

/-- A condition that can stand between others in a query, and be read back from it. -/
structure Condition.IsConjunct (c : Condition) : Prop where
  factor : c.IsFactor
  chained : c.IsChained
  spelled : c.IsSpelled

theorem comparison_conjunct {cmp : Comparison} (h : cmp.IsSpelled) :
    (Condition.comparison cmp).IsConjunct := by
  refine ⟨trivial, trivial, fun d hd => ?_⟩
  obtain rfl := List.mem_singleton.mp hd
  exact h

theorem ownField_spelled {f : FieldDef} (hf : f ∈ ownFields) {op : Operator} {vs : List Value}
    (hvs : ∀ v ∈ vs, v.IsSpelled) (hne : vs ≠ []) (hsingle : op.takesList = false → vs.length = 1) :
    Comparison.IsSpelled ⟨f, op, vs⟩ := by
  obtain ⟨htrim, hfree⟩ := ownFields_bare f hf
  refine ⟨?_, hvs, hne, hsingle⟩
  show BracketFree (Text.trim f.reference)
  rw [htrim]
  exact hfree

theorem scope_conjunct (ctx : QueryContext) : ctx.scope.IsConjunct := by
  unfold QueryContext.scope
  split
  all_goals
    exact comparison_conjunct
      (ownField_spelled (by simp [ownFields]) (by simp [Value.IsSpelled]) (by simp) (by simp))

theorem scopeUnless_conjuncts (ctx : QueryContext) (pinned : Bool) :
    ∀ c ∈ ctx.scopeUnless pinned, c.IsConjunct := by
  cases pinned with
  | true => simp [QueryContext.scopeUnless]
  | false => simpa [QueryContext.scopeUnless] using scope_conjunct ctx

/-- Without the scope there is a predicate at least, the one that pins the project. -/
theorem scopeUnless_ne_nil (ctx : QueryContext) (comparisons : List Comparison) :
    ctx.scopeUnless (comparisons.any Comparison.pinsProject)
      ++ comparisons.map Condition.comparison ≠ [] := by
  cases hpins : comparisons.any Comparison.pinsProject with
  | false => simp [QueryContext.scopeUnless]
  | true =>
    obtain ⟨cmp, hcmp, _⟩ := List.any_eq_true.mp hpins
    have hne : comparisons ≠ [] := List.ne_nil_of_mem hcmp
    simp [hne]

theorem searches_conjunct (term : String) : (searches term).IsConjunct := by
  refine ⟨trivial, ⟨trivial, trivial, trivial⟩, fun cmp hcmp => ?_⟩
  have hcmp : cmp = ⟨FieldDef.title, .contains, [.text (Text.trim term)]⟩ ∨
      cmp = ⟨FieldDef.description, .containsWords, [.text (Text.trim term)]⟩ := by
    simpa [searches, Condition.comparisons] using hcmp
  rcases hcmp with rfl | rfl
  all_goals
    exact ownField_spelled (by simp [ownFields]) (by simp [Value.IsSpelled]) (by simp) fun _ => rfl

theorem idConditions_conjuncts (ids : List Nat) : ∀ c ∈ idConditions ids, c.IsConjunct := by
  intro c hc
  unfold idConditions at hc
  split at hc
  · cases hc
  · rename_i hne
    obtain rfl := List.mem_singleton.mp hc
    refine comparison_conjunct (ownField_spelled (by simp [ownFields]) ?_ ?_ nofun)
    · intro v hv
      obtain ⟨id, _, rfl⟩ := List.mem_map.mp hv
      trivial
    · cases ids with
      | nil => exact absurd rfl hne
      | cons id rest => simp [List.eraseDups_cons]

namespace Condition

theorem chain_chained (k : Connective) : ∀ (rest : List Condition) {first : Condition},
    first.IsChained → (∀ c ∈ rest, c.IsConjunct) → (chain k first rest).IsChained := by
  intro rest
  induction rest with
  | nil => exact fun hfirst _ => hfirst
  | cons c rest ih =>
    intro first hfirst h
    have hc := h c (by simp)
    have hjoin : (join first k c).IsChained := ⟨hfirst, hc.factor, hc.chained⟩
    exact ih hjoin fun d hd => h d (by simp [hd])

theorem chain_comparisons (k : Connective) : ∀ (rest : List Condition) (first : Condition),
    (chain k first rest).comparisons = (first :: rest).flatMap comparisons := by
  intro rest
  induction rest with
  | nil => intro first; simp [chain]
  | cons c rest ih =>
    intro first
    have hjoin : chain k first (c :: rest) = chain k (join first k c) rest := rfl
    rw [hjoin, ih]
    simp [comparisons]

theorem chain_text (k : Connective) : ∀ (rest : List Condition) (first : Condition),
    (chain k first rest).text = Text.join (" " ++ k.token ++ " ") ((first :: rest).map text) := by
  intro rest
  induction rest with
  | nil => intro first; exact (Text.join_singleton _ _).symm
  | cons c rest ih =>
    intro first
    have hjoin : chain k first (c :: rest) = chain k (join first k c) rest := rfl
    have htext : (join first k c).text = first.text ++ (" " ++ k.token ++ " ") ++ c.text := by
      simp only [text, String.append_assoc]
    rw [hjoin, ih, List.map_cons, htext, Text.join_merge]
    rfl

theorem chain_tokens (k : Connective) : ∀ (rest : List Condition) (first : Condition),
    (chain k first rest).tokens = joinTokens [.word k.token] ((first :: rest).map tokens) := by
  intro rest
  induction rest with
  | nil => intro first; rfl
  | cons c rest ih =>
    intro first
    have hjoin : chain k first (c :: rest) = chain k (join first k c) rest := rfl
    rw [hjoin, ih, List.map_cons, joinTokens_cons, List.map_cons, List.map_cons, joinTokens_cons]
    simp [tokens]

theorem chain_pinsProject (k : Connective) : ∀ (rest : List Condition) (first : Condition),
    (chain k first rest).pinsProject = (first :: rest).any pinsProject := by
  intro rest
  induction rest with
  | nil => intro first; simp [chain]
  | cons c rest ih =>
    intro first
    have hjoin : chain k first (c :: rest) = chain k (join first k c) rest := rfl
    rw [hjoin, ih]
    simp [pinsProject, Bool.or_assoc]

theorem chain_and_hasTopLevelOr : ∀ (rest : List Condition) (first : Condition),
    (chain .and first rest).hasTopLevelOr = (first :: rest).any hasTopLevelOr := by
  intro rest
  induction rest with
  | nil => intro first; simp [chain]
  | cons c rest ih =>
    intro first
    have hjoin : chain .and first (c :: rest) = chain .and (join first .and c) rest := rfl
    rw [hjoin, ih]
    simp [hasTopLevelOr, Bool.or_assoc]

/-- Comparisons joined by AND are scoped if one of them pins the project. -/
theorem chain_and_isScoped (first : Comparison) (rest : List Comparison) :
    (chain .and (.comparison first) (rest.map comparison)).isScoped
      = (first :: rest).any Comparison.pinsProject := by
  have hnone : ((first :: rest).map comparison).any hasTopLevelOr = false := by
    simp [List.any_eq_false, hasTopLevelOr]
  rw [isScoped, chain_and_hasTopLevelOr, chain_pinsProject, ← List.map_cons, hnone, List.any_map]
  simp [Function.comp_def, pinsProject]

end Condition

theorem anyOf_conjuncts {cs : List Condition} (h : ∀ c ∈ cs, c.IsConjunct) :
    ∀ c ∈ anyOf cs, c.IsConjunct := by
  intro c hc
  rcases cs with _ | ⟨first, _ | ⟨second, rest⟩⟩
  · cases hc
  · exact h c hc
  · obtain rfl := List.mem_singleton.mp hc
    refine ⟨trivial, ?_, fun cmp hcmp => ?_⟩
    · exact Condition.chain_chained .or _ (h first (by simp)).chained fun d hd => h d (by simp [hd])
    · rw [Condition.comparisons, Condition.chain_comparisons] at hcmp
      obtain ⟨d, hd, hcmp⟩ := List.mem_flatMap.mp hcmp
      exact (h d hd).spelled cmp hcmp

theorem searchConditions_conjuncts (terms : List String) :
    ∀ c ∈ searchConditions terms, c.IsConjunct := by
  refine anyOf_conjuncts fun c hc => ?_
  obtain ⟨term, _, rfl⟩ := List.mem_map.mp hc
  exact searches_conjunct term

/-! ## Queries -/

/-- A query that can be written and read back. -/
structure Query.WellFormed (q : Query) : Prop where
  nonempty : q.conditions ≠ []
  conjuncts : ∀ c ∈ q.conditions, c.IsConjunct
  order : ∀ k ∈ q.order, BracketFree (Text.trim k.reference)

namespace Compiler

variable {c : Compiler}

theorem Compiles.wellFormed {f : ItemFilter} {q : Query} {comparisons windows : List Comparison}
    (h : Compiles c ctx f q comparisons windows) : q.WellFormed := by
  have hcomparisons : ∀ cmp ∈ comparisons, cmp.IsSpelled := by
    intro cmp hcmp
    obtain ⟨p, _, hp⟩ := exists_left_of_mem h.predicates hcmp
    exact hp.spelled
  have hwindows : ∀ cmp ∈ windows, cmp.IsSpelled := by
    rcases h.window with ⟨_, rfl⟩ | ⟨w, field, _, hbounds⟩
    · simp
    · exact hbounds.spelled
  refine ⟨?_, ?_, h.order⟩
  · rw [h.conditions]
    intro hnil
    simp only [List.append_eq_nil_iff] at hnil
    obtain ⟨hscope, ⟨⟨_, hcomparisons⟩, _⟩, _⟩ := hnil
    exact scopeUnless_ne_nil ctx comparisons (by rw [hscope, hcomparisons]; rfl)
  · rw [h.conditions]
    simp only [List.forall_mem_append, List.forall_mem_map]
    exact ⟨scopeUnless_conjuncts ctx _, ⟨⟨idConditions_conjuncts f.ids,
      fun cmp hcmp => comparison_conjunct (hcomparisons cmp hcmp)⟩,
      fun cmp hcmp => comparison_conjunct (hwindows cmp hcmp)⟩,
      searchConditions_conjuncts f.freeTextTerms⟩

theorem compileText_wellFormed {text : String} {q : Query} (h : c.compileText ctx text = .ok q) :
    q.WellFormed := by
  obtain ⟨tokens, cond, htokens, hwrites, hconditions, horder⟩ := compileText_ok h
  have hnumbers : ∀ t ∈ dropWhere tokens, t.IsNumbered :=
    fun t ht => Token.ofText_numbered htokens t (dropWhere_subset ht)
  refine ⟨by simp [hconditions], ?_, ?_⟩
  · rw [hconditions, List.forall_mem_append, List.forall_mem_singleton]
    exact ⟨scopeUnless_conjuncts ctx _, trivial, hwrites.chained.1, hwrites.spelled hnumbers⟩
  · rw [horder, List.forall_mem_singleton]
    exact default_order_bare

theorem compileInput_wellFormed {input : QueryInput} {q : Query}
    (h : c.compileInput ctx input = .ok q) : q.WellFormed := by
  cases input with
  | filter f =>
    obtain ⟨comparisons, windows, hcompiles⟩ := compile_ok h
    exact hcompiles.wellFormed
  | condition text => exact compileText_wellFormed h

end Compiler

namespace Query.WellFormed

variable {q : Query}

theorem ofText_text (h : q.WellFormed) :
    Token.ofText q.text = .ok (headTokens ++ q.bodyTokens ++ q.orderTokens) :=
  Query.ofText_text (fun c hc => (h.conjuncts c hc).spelled) h.order

theorem ofText_body (h : q.WellFormed) : Token.ofText q.body = .ok q.bodyTokens :=
  (Query.lexes_body fun c hc => (h.conjuncts c hc).spelled).ofText

/-- The body is read as all conditions together, and in no other way. -/
theorem reads (h : q.WellFormed) {v : WrittenComparison → Prop} {P : Prop} :
    Reads v .disjunction q.bodyTokens P ↔ (P ↔ ∀ c ∈ q.conditions, c.Holds v) := by
  have hbody := Query.reads_body (v := v) h.nonempty (fun c hc => (h.conjuncts c hc).factor)
    (fun c hc => (h.conjuncts c hc).chained) fun c hc => (h.conjuncts c hc).spelled
  constructor
  · intro hP
    rw [hP.unique hbody]
  · intro hP
    exact hbody.congr hP.symm

end Query.WellFormed
end WorkQuery
