import WorkQuery.Proofs.Query.WellFormed
import WorkQuery.Proofs.Spelling

/-!
# WorkQuery.Proofs.Query.Shapes

The two shapes of input agree on what both can say: predicates, given in a filter or written by hand
and joined by AND.

* `Predicate.clauseText`: a predicate written by hand.
* `Compiler.readComparison_predicate`: the reader makes of it what the compiler makes of the predicate
  itself, an error included, as both make the same checks in the same order.
* `Compiler.ofText_clauseText`: the same for predicates joined by AND, by induction on them.
* `Compiler.compile_compileText`: the queries for both shapes.
-/

namespace WorkQuery

/-! ## Predicates written by hand -/

/-- A text in quotes, or a number by its digits. -/
def Literal.clauseText : Literal → String
  | .integer n => Numeral.intText n
  | .text t => Quote.literal t

def Operand.clauseText : Operand → String
  | .single l => l.clauseText
  | .list ls => "(" ++ Text.join ", " (ls.map Literal.clauseText) ++ ")"

def Predicate.clauseText (p : Predicate) : String :=
  "[" ++ p.field ++ "] " ++ p.operator.token ++ " " ++ p.value.clauseText

def clauseText (ps : List Predicate) : String :=
  Text.join " AND " (ps.map Predicate.clauseText)

/-- Whether the value has the form that the operator takes. -/
def Operand.Suits (op : Operator) : Operand → Prop
  | .single _ => op.takesList = false
  | .list ls => op.takesList = true ∧ ls ≠ []

/-- A whole number of 64 bits, or any text. -/
def Literal.Fits : Literal → Prop
  | .integer n => Numeral.isInt64 n = true
  | .text _ => True

/-- A predicate that can be written by hand: its field can stand in brackets, and its whole numbers
have 64 bits. -/
structure Predicate.IsPlain (p : Predicate) : Prop where
  field : BracketFree p.field
  shape : p.value.Suits p.operator
  numbers : ∀ l ∈ p.value.literals, l.Fits

/-- References of the registry can stand in brackets. -/
def Registry.IsBracketable (r : Registry) : Prop :=
  ∀ f ∈ (r.byReference ++ r.byKey).map Prod.snd,
    Text.isBlankText f.reference = false ∧ BracketFree f.reference

theorem Registry.IsBracketable.checks {r : Registry} (hr : r.IsBracketable) {name : String}
    {f : FieldDef} (h : r.resolve? name = some f) :
    Quote.checkReference f.reference = .ok (Text.trim f.reference) := by
  obtain ⟨hblank, hfree⟩ := hr f (mem_of_resolve? h)
  exact checkReference_ok_iff.mpr ⟨rfl, Text.trim_ne_nil hblank, hfree.trim⟩

/-! ## Their tokens -/

/-- A literal as tokens write it. -/
def Literal.written : Literal → WrittenValue
  | .integer n => (Value.whole n).written
  | .text t => (Value.text t).written

def Predicate.written (p : Predicate) : WrittenComparison :=
  ⟨p.field, p.operator, p.value.literals.map Literal.written⟩

theorem Literal.lexes (l : Literal) : Lexes l.clauseText.toList l.written.tokens := by
  cases l with
  | integer n => exact @Value.lexes (.whole n) trivial
  | text t => exact @Value.lexes (.text t) trivial

theorem Operand.lexes {op : Operator} {value : Operand} (h : value.Suits op) :
    Lexes value.clauseText.toList (op.operandTokens (value.literals.map Literal.written)) := by
  cases value with
  | single l =>
    have hop : op.takesList = false := h
    have hl := l.lexes
    simpa [Operator.operandTokens, hop, Operand.literals, Operand.clauseText] using hl
  | list ls =>
    have hop : op.takesList = true := h.1
    have hls := (lexes_commaList ls fun l _ => l.lexes).parens
    simpa [Operator.operandTokens, hop, Operand.literals, Operand.clauseText, Text.join,
      Function.comp_def] using hls

theorem Predicate.lexes {p : Predicate} (h : p.IsPlain) :
    Lexes p.clauseText.toList p.written.tokens := by
  have hfield := lexes_field h.field
  have hall := hfield.space (p.operator.lexes.space (Operand.lexes h.shape))
  simpa [Predicate.clauseText, Predicate.written, WrittenComparison.tokens] using hall

theorem ofText_clauseText {ps : List Predicate} (h : ∀ p ∈ ps, p.IsPlain) :
    Token.ofText (clauseText ps)
      = .ok (joinTokens [.word "AND"] (ps.map fun p => p.written.tokens)) := by
  have hand : Lexes ['A', 'N', 'D'] [.word "AND"] := lexes_word rfl (by decide)
  have hall := Lexes.join " AND ".toList [.word "AND"] (fun ha hb => by
    have := ha.space (hand.space hb)
    simpa using this) ps fun p hp => Predicate.lexes (h p hp)
  apply Lexes.ofText
  simpa [clauseText, Text.join, Function.comp_def] using hall

/-! ## Reading them -/

variable {r : Registry} {ctx : QueryContext} {field : FieldDef} {op : Operator}

theorem checkSearch_of_takesList (h : op.takesList = true) (ls : List Literal) :
    Compiler.checkSearch field op ls = .ok () := by
  unfold Compiler.checkSearch
  split
  · simp [Operator.isSearch_of_takesList h]
  · rfl

theorem readNumber_intText {n : Int} (h : Numeral.isInt64 n = true) :
    readNumber field ctx (Numeral.intText n) = (Literal.integer n).render field ctx := by
  rw [readNumber, Numeral.readInt64?_intText, if_pos h]

theorem readValue_literal {l : Literal} (h : l.Fits) (rest : List Token) :
    readValue r ctx field op (l.written.tokens ++ rest)
      = (Compiler.checkSearch field op [l] >>= fun _ => l.render field ctx).map
        fun v => (v, rest) := by
  cases l with
  | integer n =>
    have hread : readNumber field ctx (Numeral.intText n) = _ := readNumber_intText h
    cases n with
    | ofNat n =>
      show (readNumber field ctx (Numeral.intText (.ofNat n))).map _ = _
      rw [hread]
      rfl
    | negSucc n =>
      have htext : "-" ++ Numeral.natText (n + 1) = Numeral.intText (.negSucc n) := by
        apply String.toList_injective
        simp [Numeral.intText, Numeral.natText]
      show (readNumber field ctx ("-" ++ Numeral.natText (n + 1))).map _ = _
      rw [htext, hread]
      rfl
  | text t =>
    show readValue r ctx field op (.literal (Quote.escape t) :: rest) = _
    rw [readValue, Quote.unescape_escape]
    simp only [Compiler.checkSearch]
    cases op.isSearch && Text.isBlankText t <;> rfl

theorem readValues_literals (hop : op.takesList = true) (rest : List Token) :
    ∀ (ls : List Literal) (fuel : Nat), ls ≠ [] →
      (∀ l ∈ ls, l.Fits) → ls.length ≤ fuel →
      readValues r ctx field op fuel
          (joinTokens [.comma] ((ls.map Literal.written).map WrittenValue.tokens) ++ .rightParen :: rest)
        = (ls.mapM (Literal.render field ctx)).map fun vs => (vs, rest) := by
  intro ls
  induction ls with
  | nil => intro _ hne; exact absurd rfl hne
  | cons l ls ih =>
    intro fuel _ hfits hfuel
    obtain ⟨fuel, rfl⟩ : ∃ n, fuel = n + 1 := ⟨fuel - 1, by simp at hfuel; omega⟩
    have hvalue : ∀ more, readValue r ctx field op (l.written.tokens ++ more)
        = (l.render field ctx).map fun v => (v, more) := by
      intro more
      rw [readValue_literal (hfits l (by simp)), checkSearch_of_takesList hop]
      rfl
    cases ls with
    | nil =>
      have htokens : joinTokens [.comma] (([l].map Literal.written).map WrittenValue.tokens)
          ++ .rightParen :: rest = l.written.tokens ++ .rightParen :: rest := rfl
      rw [htokens, readValues, hvalue, List.mapM_cons, List.mapM_nil]
      cases l.render field ctx <;> rfl
    | cons l' ls =>
      have hmore := ih fuel (by simp) (fun m hm => hfits m (by simp [hm])) (by simpa using hfuel)
      have htokens : joinTokens [.comma] (((l :: l' :: ls).map Literal.written).map
            WrittenValue.tokens) ++ .rightParen :: rest
          = l.written.tokens ++ .comma :: (joinTokens [.comma] (((l' :: ls).map Literal.written).map
            WrittenValue.tokens) ++ .rightParen :: rest) :=
        joinTokens_values l.written l'.written (ls.map Literal.written) (.rightParen :: rest)
      rw [htokens, readValues, hvalue, List.mapM_cons]
      cases l.render field ctx with
      | error e => rfl
      | ok v =>
        show (readValues r ctx field op fuel _ >>= _) = _
        rw [hmore]
        show _ = Except.map _ (List.mapM (Literal.render field ctx) (l' :: ls) >>= _)
        cases (l' :: ls).mapM (Literal.render field ctx) <;> rfl

theorem Operand.Suits.takes {value : Operand} (h : value.Suits op) :
    op.Takes (value.literals.map Literal.written) := by
  unfold Operator.Takes
  cases value with
  | single l =>
    have hop : op.takesList = false := h
    simp [hop, Operand.literals]
  | list ls =>
    obtain ⟨hop, hne⟩ := h
    simpa [hop, Operand.literals] using hne

theorem readOperands_literals {value : Operand} (hvalue : value.Suits op)
    (hfits : ∀ l ∈ value.literals, l.Fits) (rest : List Token) :
    readOperands r ctx field op (op.operandTokens (value.literals.map Literal.written) ++ rest)
      = (Compiler.checkSearch field op value.literals >>= fun _ =>
          value.literals.mapM (Literal.render field ctx)).map fun vs => (vs, rest) := by
  unfold readOperands Operator.operandTokens
  cases value with
  | single l =>
    have hop : op.takesList = false := hvalue
    have hl : readValue r ctx field op (l.written.tokens ++ rest) = _ :=
      readValue_literal (hfits l (by simp [Operand.literals])) rest
    simp only [hop, Bool.false_eq_true, if_false, Operand.literals, List.map_cons, List.map_nil,
      List.flatMap_cons, List.flatMap_nil, List.append_nil, List.mapM_cons, List.mapM_nil, hl]
    cases Compiler.checkSearch field op [l] with
    | error e => rfl
    | ok u =>
      show Except.map _ (Except.map _ (l.render field ctx)) = _
      cases l.render field ctx <;> rfl
  | list ls =>
    obtain ⟨hop, hne⟩ := hvalue
    have hlen := length_le_joinTokens (ls.map Literal.written)
    have hls : readValues r ctx field op _ _ = _ := readValues_literals hop rest ls
      ((joinTokens [.comma] ((ls.map Literal.written).map WrittenValue.tokens)
        ++ .rightParen :: rest).length + 1) hne hfits
      (by simp only [List.length_append, List.length_map] at hlen ⊢; omega)
    have hsearch : (Compiler.checkSearch field op ls >>= fun _ => ls.mapM (Literal.render field ctx))
        = ls.mapM (Literal.render field ctx) := by
      rw [checkSearch_of_takesList hop]
      rfl
    rw [Operand.literals, hsearch, ← hls]
    simp [hop]

namespace Compiler

variable {c : Compiler}

/-- The comparison of a predicate, with its checks in the order in which they are made. -/
theorem comparison_eq (p : Predicate) :
    c.comparison ctx p =
      match c.registry.resolve? p.field with
      | none => .error (.unknownField p.field)
      | some field =>
        if field.valueType.accepts p.operator then
          literals field p.operator p.value >>= fun ls =>
          checkSearch field p.operator ls >>= fun _ =>
          ls.mapM (Literal.render field ctx) >>= fun vs =>
          checkReference field >>= fun _ =>
          .ok ⟨field, p.operator, vs⟩
        else .error (.operatorMismatch field.reference p.operator field.valueType) := by
  unfold comparison Compiler.field
  cases c.registry.resolve? p.field with
  | none => rfl
  | some field =>
    simp only [ok_bind]
    cases hop : field.valueType.accepts p.operator with
    | false => rfl
    | true => simp only [Bool.not_true, Bool.false_eq_true, if_false, if_true, pure, Except.pure]

theorem literals_of_suits {value : Operand} (h : value.Suits op) :
    literals field op value = .ok value.literals := by
  cases value with
  | single l => rfl
  | list ls =>
    obtain ⟨hop, hne⟩ := h
    simp [literals, hop, hne, Operand.literals]

/-- The reader makes of a predicate written by hand what the compiler makes of the predicate. -/
theorem readComparison_predicate (hr : c.registry.IsBracketable) {p : Predicate} (hp : p.IsPlain)
    (rest : List Token) :
    readComparison c.registry ctx p.field
        (p.operator.tokens ++ p.operator.operandTokens p.written.operands ++ rest)
      = (c.comparison ctx p).map fun cmp => (cmp, rest) := by
  rw [readComparison_eq, comparison_eq]
  cases hfield : c.registry.resolve? p.field with
  | none => rfl
  | some field =>
    have hop : readOperator field
        (p.operator.tokens ++ (p.operator.operandTokens p.written.operands ++ rest)) = _ :=
      readOperator_complete p.operator.spells (operandTokens_starts hp.shape.takes rest)
    have hoperands : readOperands c.registry ctx field p.operator
        (p.operator.operandTokens p.written.operands ++ rest) = _ :=
      readOperands_literals hp.shape hp.numbers rest
    have hchecks : checkReference field = .ok () := by rw [checkReference, hr.checks hfield]
    simp only [hr.checks hfield, List.append_assoc, hop, literals_of_suits hp.shape, hoperands,
      hchecks, ok_bind]
    cases field.valueType.accepts p.operator with
    | false => rfl
    | true =>
      cases checkSearch field p.operator p.value.literals with
      | error e => rfl
      | ok u =>
        simp only [ok_bind]
        cases p.value.literals.mapM (Literal.render field ctx) <;> rfl

/-! ## Reading predicates joined by AND -/

theorem readTerm_predicate (hr : c.registry.IsBracketable) {p : Predicate} (hp : p.IsPlain)
    (fuel : Nat) (rest : List Token) :
    readTerm c.registry ctx (fuel + 2) (p.written.tokens ++ rest)
      = (c.comparison ctx p).map fun cmp => (.comparison cmp, rest) := by
  have hread : readComparison c.registry ctx p.field _ = _ := readComparison_predicate hr hp rest
  have htokens : p.written.tokens ++ rest = .field p.field ::
      (p.operator.tokens ++ p.operator.operandTokens p.written.operands ++ rest) := rfl
  simp only [htokens, readTerm, afterNot?, readFactor, hread]
  cases c.comparison ctx p <;> rfl

/-- Predicates, each with AND in front of it. -/
def andTokens (ps : List Predicate) : List Token :=
  (ps.map fun p => p.written.tokens).flatMap ([.word "AND"] ++ ·)

theorem readChain_predicates (hr : c.registry.IsBracketable) : ∀ (ps : List Predicate)
    (left : Condition) (fuel : Nat), (∀ p ∈ ps, p.IsPlain) → ps.length + 2 ≤ fuel →
      readChain c.registry ctx fuel left (andTokens ps)
        = (ps.mapM (c.comparison ctx)).map fun cmps =>
          (Condition.chain .and left (cmps.map .comparison), []) := by
  intro ps
  induction ps with
  | nil =>
    intro left fuel _ hfuel
    obtain ⟨fuel, rfl⟩ : ∃ n, fuel = n + 1 := ⟨fuel - 1, by omega⟩
    rfl
  | cons p ps ih =>
    intro left fuel hps hfuel
    simp only [List.length_cons] at hfuel
    obtain ⟨fuel, rfl⟩ : ∃ n, fuel = n + 3 := ⟨fuel - 3, by omega⟩
    have htokens : andTokens (p :: ps) = .word "AND" :: (p.written.tokens ++ andTokens ps) := rfl
    have hand : Connective.ofWord? "AND" = some .and := rfl
    have hmore := fun left => ih left (fuel + 2) (fun p hp => hps p (by simp [hp])) (by omega)
    rw [htokens, Reader.readChain_word hand, readTerm_predicate hr (hps p (by simp)), List.mapM_cons]
    cases c.comparison ctx p with
    | error e => rfl
    | ok cmp =>
      show readChain c.registry ctx (fuel + 2) (.join left .and (.comparison cmp)) (andTokens ps) = _
      rw [hmore, ok_bind]
      cases ps.mapM (c.comparison ctx) <;> rfl

theorem length_le_andTokens (ps : List Predicate) : ps.length ≤ (andTokens ps).length := by
  induction ps with
  | nil => simp
  | cons p ps ih =>
    have htokens : andTokens (p :: ps) = .word "AND" :: (p.written.tokens ++ andTokens ps) := rfl
    simp only [htokens, List.length_cons, List.length_append]
    omega

theorem ofTokens_predicates (hr : c.registry.IsBracketable) {p : Predicate} {ps : List Predicate}
    (hps : ∀ q ∈ p :: ps, q.IsPlain) :
    Condition.ofTokens c.registry ctx (p.written.tokens ++ andTokens ps)
      = c.comparison ctx p >>= fun cmp => (ps.mapM (c.comparison ctx)).map fun cmps =>
        Condition.chain .and (.comparison cmp) (cmps.map .comparison) := by
  have hempty : (p.written.tokens ++ andTokens ps).isEmpty = false := rfl
  have hbalanced : Balanced (p.written.tokens ++ andTokens ps) := by
    have hall : Balanced (joinTokens [.word "AND"] ((p :: ps).map fun q => q.written.tokens)) := by
      refine .join (.flat (by simp)) fun ts hts => ?_
      obtain ⟨q, _, rfl⟩ := List.mem_map.mp hts
      exact q.written.tokens_balanced
    rwa [List.map_cons, joinTokens_cons] at hall
  obtain ⟨fuel, hfuel, henough⟩ : ∃ fuel, 4 * (p.written.tokens ++ andTokens ps).length + 4 = fuel + 3 ∧
      ps.length + 2 ≤ fuel + 2 := by
    have hlen := length_le_andTokens ps
    refine ⟨4 * (p.written.tokens ++ andTokens ps).length + 1, rfl, ?_⟩
    simp only [List.length_append]
    omega
  rw [Condition.ofTokens_eq, hempty, hbalanced.check, hfuel, Reader.readCondition_succ,
    readTerm_predicate hr (hps p (by simp))]
  cases c.comparison ctx p with
  | error e => rfl
  | ok cmp =>
    have hchain : readChain c.registry ctx (fuel + 2) (.comparison cmp) (andTokens ps) = _ :=
      readChain_predicates hr ps (.comparison cmp) (fuel + 2)
        (fun q hq => hps q (by simp [hq])) henough
    show readChain c.registry ctx (fuel + 2) (.comparison cmp) (andTokens ps) >>= _ = _
    rw [hchain, ok_bind]
    cases ps.mapM (c.comparison ctx) <;> rfl

theorem ofText_predicates (hr : c.registry.IsBracketable) {p : Predicate} {ps : List Predicate}
    (hps : ∀ q ∈ p :: ps, q.IsPlain) :
    Condition.ofText c.registry ctx (clauseText (p :: ps))
      = c.comparison ctx p >>= fun cmp => (ps.mapM (c.comparison ctx)).map fun cmps =>
        Condition.chain .and (.comparison cmp) (cmps.map .comparison) := by
  rw [Condition.ofText, ofText_clauseText hps, List.map_cons, joinTokens_cons]
  exact ofTokens_predicates hr hps

end Compiler

/-! ## Queries -/

namespace Compiler

variable {c : Compiler}

theorem compile_predicates (p : Predicate) (ps : List Predicate) :
    c.compile ctx { predicates := p :: ps }
      = c.comparison ctx p >>= fun cmp => ps.mapM (c.comparison ctx) >>= fun cmps =>
        .ok (Query.make
          (ctx.scopeUnless ((cmp :: cmps).any Comparison.pinsProject)
            ++ (cmp :: cmps).map .comparison)
          [OrderKey.default] (c.caps.effective none) {}) := by
  have hconditions : c.filterConditions ctx { predicates := p :: ps }
      = c.comparison ctx p >>= fun cmp => ps.mapM (c.comparison ctx) >>= fun cmps =>
        .ok ((cmp :: cmps).map .comparison, (cmp :: cmps).any Comparison.pinsProject) := by
    rw [filterConditions_eq]
    simp only [List.mapM_cons, bind_assoc]
    cases c.comparison ctx p with
    | error e => rfl
    | ok cmp =>
      cases ps.mapM (c.comparison ctx) with
      | error e => rfl
      | ok cmps => simp [ok_bind, termsCondition, pure, Except.pure]
  have hempty : ItemFilter.isEmpty { predicates := p :: ps } = false := rfl
  unfold compile
  simp only [hempty, Bool.false_eq_true, if_false, hconditions, bind_assoc, ok_bind, filterCap,
    orderKeys]
  refine congrArg _ (funext fun cmp => congrArg _ (funext fun cmps => ?_))
  cases (cmp :: cmps).any Comparison.pinsProject <;> rfl

/-- The query text in front of the predicates. -/
def leadText (ctx : QueryContext) (pinned : Bool) : String :=
  if pinned then "" else ctx.scope.text ++ " AND "

theorem body_lead {q : Query} {pinned : Bool} {conds : List Condition} (hne : conds ≠ [])
    (h : q.conditions = ctx.scopeUnless pinned ++ conds) :
    q.body = leadText ctx pinned ++ Text.join " AND " (conds.map Condition.text) := by
  rw [Query.body, h]
  obtain ⟨first, rest, rfl⟩ := List.exists_cons_of_ne_nil hne
  cases pinned with
  | true => exact (String.empty_append).symm
  | false => exact Text.join_cons_cons _ _ _ _

/-- What the queries for predicates have in common, of which the second is for predicates written by
hand: all but the parentheses around these. -/
structure SameBut (c : Compiler) (ctx : QueryContext) (ps : List Predicate) (q q' : Query)
    (cmps : List Comparison) : Prop where
  cap : q.cap = q'.cap
  extras : q.extras = q'.extras
  order : q.order = q'.order
  comparisons : List.Forall₂ (fun p cmp => c.comparison ctx p = .ok cmp) ps cmps
  body : q.body = leadText ctx (cmps.any Comparison.pinsProject)
    ++ Text.join " AND " (cmps.map Comparison.text)
  body' : q'.body = leadText ctx (cmps.any Comparison.pinsProject)
    ++ ("(" ++ Text.join " AND " (cmps.map Comparison.text) ++ ")")

/-- Predicates that a filter holds, and the same predicates written by hand, are refused with one and
the same error or make queries for as many items, with the same extras, in the same order and with
the same text: the scope of the context is in both or in neither, and what is written by hand stands
in parentheses. -/
theorem compile_compileText (c : Compiler) (ctx : QueryContext) {ps : List Predicate}
    (hr : c.registry.IsBracketable) (hne : ps ≠ []) (hps : ∀ p ∈ ps, p.IsPlain) :
    Agree (fun q q' => ∃ cmps, SameBut c ctx ps q q' cmps)
      (c.compile ctx { predicates := ps }) (c.compileText ctx (clauseText ps)) := by
  obtain ⟨p, ps, rfl⟩ := List.exists_cons_of_ne_nil hne
  rw [compile_predicates, compileText, ofText_predicates hr hps]
  cases hfirst : c.comparison ctx p with
  | error e => exact .error e
  | ok cmp =>
    cases hrest : ps.mapM (c.comparison ctx) with
    | error e => exact .error e
    | ok cmps =>
      have hcomparisons : List.Forall₂ (fun p cmp => c.comparison ctx p = .ok cmp) (p :: ps)
          (cmp :: cmps) := .cons hfirst (mapM_ok_iff.mp hrest)
      have htexts : ((cmp :: cmps).map Condition.comparison).map Condition.text
          = (cmp :: cmps).map Comparison.text := List.map_map
      refine .ok ⟨cmp :: cmps, rfl, rfl, rfl, hcomparisons, ?_, ?_⟩
      · rw [body_lead (by simp) rfl, htexts]
      · have hscoped := Condition.chain_and_isScoped cmp cmps
        have htext := Condition.chain_text .and (cmps.map .comparison) (.comparison cmp)
        rw [← List.map_cons, htexts] at htext
        rw [← hscoped, body_lead (by simp) rfl, List.map_singleton, Text.join_singleton, Condition.text,
          htext]
        rfl

/-- A state written with a quote, and a list with a negative number. -/
def openInTriage : List Predicate :=
  [⟨"State", .eq, .single (.text "can't start")⟩, ⟨"Rev", .inList, .list [.integer (-1), .integer 2]⟩]

def stateAndRevision : Compiler :=
  ⟨⟨[], [("state", ⟨"System.State", .string⟩), ("rev", ⟨"System.Rev", .integer⟩)], [], []⟩, {}⟩

theorem compile_compileText_openInTriage :
    stateAndRevision.registry.IsBracketable ∧ openInTriage ≠ [] ∧ (∀ p ∈ openInTriage, p.IsPlain) ∧
    ∃ q q', stateAndRevision.compile .default { predicates := openInTriage } = .ok q ∧
      stateAndRevision.compileText .default (clauseText openInTriage) = .ok q' ∧
      ∃ cmps, SameBut stateAndRevision .default openInTriage q q' cmps := by
  have hr : stateAndRevision.registry.IsBracketable := by
    unfold Registry.IsBracketable BracketFree
    decide
  have hps : ∀ p ∈ openInTriage, p.IsPlain := by
    intro p hp
    simp only [openInTriage, List.mem_cons, List.not_mem_nil, or_false] at hp
    rcases hp with rfl | rfl
    · exact ⟨by unfold BracketFree; decide, rfl, by simp [Operand.literals, Literal.Fits]⟩
    · refine ⟨by unfold BracketFree; decide, ⟨rfl, by simp⟩, ?_⟩
      simp only [Operand.literals, List.forall_mem_cons, Literal.Fits]
      exact ⟨by decide, by decide, by simp⟩
  obtain ⟨q', hq', hsame⟩ :=
    (compile_compileText stateAndRevision .default hr (by simp [openInTriage]) hps).ok_of_ok rfl
  exact ⟨hr, by simp [openInTriage], hps, _, q', rfl, hq', hsame⟩

end Compiler

end WorkQuery
