import WorkQuery.Proofs.Query.WellFormed

/-!
# WorkQuery.Proofs.Query.Given

The literals that an input gives, and what each of them leaves behind in a query.

* `comparedValues`: the values among tokens, each with the field that it is compared with.
* `Literal.Contributes`: the literals that one given literal leaves behind on a field.
* `Accounts`: given literals in order, and the literals that they leave behind in order.
* `Writes.accounts`: the literals of a condition written by hand.
-/

namespace WorkQuery

/-! ## Values and what they are compared with -/

/-- Whether an operator comes first. A field that one follows is compared with what comes after the
operator; any other field is an operand. -/
def startsOperator : List Token → Bool
  | .symbol _ :: _ => true
  | .word w :: _ => isOneOf operatorWords w
  | _ => false

/-- The values among tokens in order, each with the name of the field that it is compared with.
`subject` is the field that the last operator follows. -/
def comparedValues (subject : String) : List Token → List (String × WrittenValue)
  | [] => []
  | .field name :: rest =>
    if startsOperator rest then comparedValues name rest
    else (subject, .field name) :: comparedValues subject rest
  | .literal body :: rest => (subject, .literal body) :: comparedValues subject rest
  | .symbol "-" :: .number digits :: rest =>
    (subject, .number true digits) :: comparedValues subject rest
  | .number digits :: rest => (subject, .number false digits) :: comparedValues subject rest
  | .atName name :: .symbol sign :: .number digits :: rest =>
    (subject, .named name (some (sign == "+", digits))) :: comparedValues subject rest
  | .atName name :: rest => (subject, .named name none) :: comparedValues subject rest
  | _ :: rest => comparedValues subject rest

/-- What may follow a comparison or an operand. -/
structure Ends (rest : List Token) : Prop where
  stops : Stops rest
  noOperator : startsOperator rest = false

theorem ends_nil : Ends [] := ⟨stops_nil, rfl⟩

theorem ends_comma (rest : List Token) : Ends (.comma :: rest) := ⟨stops_comma rest, rfl⟩

theorem ends_rightParen (rest : List Token) : Ends (.rightParen :: rest) :=
  ⟨stops_rightParen rest, rfl⟩

/-- Connectives are no words of operators. -/
theorem ends_connective {w : String} {k : Connective} (h : Connective.ofWord? w = some k)
    (rest : List Token) : Ends (.word w :: rest) := by
  have hand : isOneOf operatorWords "AND" = false := by decide
  have hor : isOneOf operatorWords "OR" = false := by decide
  refine ⟨stops_word w rest, ?_⟩
  have hsame : ∀ u, Text.sameIgnoringCase w u = true →
      isOneOf operatorWords w = isOneOf operatorWords u := by
    intro u hu
    simp only [Text.sameIgnoringCase, beq_iff_eq] at hu
    simp only [isOneOf, Text.sameIgnoringCase, hu]
  unfold Connective.ofWord? at h
  split at h
  · rename_i hw
    exact (hsame _ hw).trans hand
  · split at h
    · rename_i hw
      exact (hsame _ hw).trans hor
    · cases h

theorem comparedValues_value {w : WrittenValue} {rest : List Token} (hr : Ends rest)
    (subject : String) :
    comparedValues subject (w.tokens ++ rest) = (subject, w) :: comparedValues subject rest := by
  cases w with
  | literal body => rfl
  | number negative digits => cases negative <;> rfl
  | named name shift =>
    rcases shift with _ | ⟨forward, digits⟩
    · cases rest with
      | nil => rfl
      | cons t rest => rcases hr.stops t rfl with rfl | rfl | ⟨w, rfl⟩ <;> rfl
    · cases forward <;> rfl
  | field name =>
    simp only [WrittenValue.tokens, List.singleton_append, comparedValues, hr.noOperator]
    rfl

theorem comparedValues_words (subject : String) (rest : List Token) (ws : List String) :
    comparedValues subject (ws.map Token.word ++ rest) = comparedValues subject rest := by
  induction ws with
  | nil => rfl
  | cons w ws ih => exact ih

theorem comparedValues_operator {ops : List Token} {op : Operator} (h : SpellsOperator ops op)
    (subject : String) (rest : List Token) :
    comparedValues subject (ops ++ rest) = comparedValues subject rest := by
  cases h with
  | @symbol s _ hs =>
    have hminus : s ≠ "-" := by
      rintro rfl
      cases hs
    conv_lhs => unfold comparedValues
    simp [hminus]
  | words _ _ _ => exact comparedValues_words subject rest _

theorem comparedValues_list (subject : String) (rest : List Token) : ∀ ws : List WrittenValue,
    comparedValues subject (joinTokens [.comma] (ws.map WrittenValue.tokens) ++ .rightParen :: rest)
      = ws.map (Prod.mk subject) ++ comparedValues subject rest := by
  intro ws
  induction ws with
  | nil => rfl
  | cons w ws ih =>
    cases ws with
    | nil => exact comparedValues_value (ends_rightParen rest) subject
    | cons u ws =>
      rw [joinTokens_values, comparedValues_value (ends_comma _)]
      exact congrArg ((subject, w) :: ·) ih

theorem comparedValues_operands {op : Operator} {ws : List WrittenValue} (h : op.Takes ws)
    {rest : List Token} (hr : Ends rest) (subject : String) :
    comparedValues subject (op.operandTokens ws ++ rest)
      = ws.map (Prod.mk subject) ++ comparedValues subject rest := by
  unfold Operator.Takes at h
  unfold Operator.operandTokens
  split at h
  · rename_i hop
    have hopen : comparedValues subject (.leftParen ::
        (joinTokens [.comma] (ws.map WrittenValue.tokens) ++ .rightParen :: rest))
          = ws.map (Prod.mk subject) ++ comparedValues subject rest :=
      comparedValues_list subject rest ws
    simpa [hop] using hopen
  · rename_i hop
    obtain ⟨w, rfl⟩ := List.length_eq_one_iff.mp h
    have hvalue := comparedValues_value (w := w) hr subject
    simpa [hop] using hvalue

theorem SpellsOperator.starts {ops : List Token} {op : Operator} (h : SpellsOperator ops op)
    (rest : List Token) : startsOperator (ops ++ rest) = true := by
  cases h with
  | symbol _ => rfl
  | @words ws _ hne hall _ =>
    cases ws with
    | nil => exact absurd rfl hne
    | cons w ws => exact hall w (by simp)

/-! ## What given literals leave behind -/

/-- The literals that a value is written with: one for a text and one for a day. -/
def Value.literals : Value → List String
  | .text content => [Quote.escape content]
  | .day date => [Quote.escape date.text]
  | _ => []

def Comparison.literals (c : Comparison) : List String := c.values.flatMap Value.literals

section

variable (ctx : QueryContext) (field : FieldDef)

/-- The literals that one given literal leaves behind: a text that is kept leaves its own, a whole
number for a field of texts that of its digits, a period the day it is resolved to, and what is
turned into a number, a macro or a relative date leaves none. -/
inductive Literal.Contributes : Literal → List String → Prop where
  | kept {t : String} :
      (Literal.text t).render field ctx = .ok (.text t) → Contributes (.text t) [Quote.escape t]
  | day {t : String} {date : Date} :
      (Literal.text t).render field ctx = .ok (.day date) →
      Contributes (.text t) [Quote.escape date.text]
  | turned {l : Literal} {v : Value} :
      l.render field ctx = .ok v → v.IsTurned → v.literals = [] → Contributes l []
  | digits {n : Int} :
      (Literal.integer n).render field ctx = .ok (.text (Numeral.intText n)) →
      Contributes (.integer n) [Quote.escape (Numeral.intText n)]

end

variable {r : Registry} {ctx : QueryContext} {field : FieldDef}

theorem render_contributes {l : Literal} {v : Value} (h : l.render field ctx = .ok v) :
    l.Contributes ctx field v.literals := by
  cases l with
  | text t =>
    rcases render_text h with rfl | hturned
    · exact .kept h
    · cases v with
      | day date => exact .day h
      | relative _ | whole _ | currentUser | currentProject => exact .turned h hturned rfl
      | text _ | numeral _ | currentIteration | field _ => cases hturned
  | integer n =>
    rcases render_integer h with rfl | rfl
    · exact .turned h trivial rfl
    · exact .digits h

/-- Given literals in order, each with the field that it is compared with, and the literals that
they leave behind in order. -/
def Accounts (ctx : QueryContext) (given : List (FieldDef × Literal)) (made : List String) : Prop :=
  ∃ parts, List.Forall₂ (fun g part => g.2.Contributes ctx g.1 part) given parts ∧
    made = parts.flatten

namespace Accounts

theorem nil : Accounts ctx [] [] := ⟨[], .nil, rfl⟩

theorem append {given given' : List (FieldDef × Literal)} {made made' : List String}
    (h : Accounts ctx given made) (h' : Accounts ctx given' made') :
    Accounts ctx (given ++ given') (made ++ made') := by
  obtain ⟨parts, hparts, rfl⟩ := h
  obtain ⟨parts', hparts', rfl⟩ := h'
  exact ⟨parts ++ parts', List.rel_append hparts hparts', by simp⟩

theorem single {l : Literal} {v : Value} (h : l.render field ctx = .ok v) :
    Accounts ctx [(field, l)] v.literals :=
  ⟨[v.literals], .cons (render_contributes h) .nil, by simp⟩

theorem rendered {ls : List Literal} {vs : List Value}
    (h : List.Forall₂ (fun l v => l.render field ctx = .ok v) ls vs) :
    Accounts ctx (ls.map (Prod.mk field)) (vs.flatMap Value.literals) := by
  induction h with
  | nil => exact nil
  | cons hlv _ ih => exact (single hlv).append ih

end Accounts

/-! ## Conditions written by hand -/

def WrittenValue.literal? : WrittenValue → Option Literal
  | .literal body => (Quote.unescape body).toOption.map .text
  | .number negative digits =>
    (Numeral.readInt64? (numberText negative digits).toList).map .integer
  | _ => none

/-- The literal that a value gives, with the field that it is compared with. -/
def Registry.given? (r : Registry) (compared : String × WrittenValue) :
    Option (FieldDef × Literal) :=
  match r.resolve? compared.1, compared.2.literal? with
  | some field, some l => some (field, l)
  | _, _ => none

theorem WrittenValue.Admits.accounts {name : String} {op : Operator} {w : WrittenValue} {v : Value}
    (hname : r.resolve? name = some field) (h : w.Admits r ctx field op v) :
    Accounts ctx ((r.given? (name, w)).toList) v.literals := by
  cases h with
  | @literal body text _ htext _ hv =>
    simpa [Registry.given?, hname, literal?, htext, Except.toOption] using Accounts.single hv
  | integer hn hv =>
    simpa [Registry.given?, hname, literal?, hn] using Accounts.single hv
  | decimal hn _ _ =>
    simpa [Registry.given?, hname, literal?, hn, Value.literals] using Accounts.nil
  | named hv _ =>
    have hnone : v.literals = [] := by
      rcases ofAtName?_cases hv with hmem | ⟨m, rfl⟩
      · simp only [namedValues, List.mem_cons, List.not_mem_nil, or_false] at hmem
        rcases hmem with rfl | rfl | rfl <;> rfl
      · rfl
    simpa [Registry.given?, hname, literal?, hnone] using Accounts.nil
  | field _ _ =>
    simpa [Registry.given?, hname, literal?, Value.literals] using Accounts.nil

theorem accounts_operands {name : String} {op : Operator} {ws : List WrittenValue} {vs : List Value}
    (hname : r.resolve? name = some field)
    (h : List.Forall₂ (WrittenValue.Admits r ctx field op) ws vs) :
    Accounts ctx ((ws.map (Prod.mk name)).filterMap r.given?) (vs.flatMap Value.literals) := by
  induction h with
  | nil => exact .nil
  | @cons w v ws vs hwv _ ih =>
    have hboth := (hwv.accounts hname).append ih
    cases hgiven : r.given? (name, w) with
    | none => simpa [hgiven] using hboth
    | some g => simpa [hgiven] using hboth

theorem Writes.accounts {p : Production} {ts : List Token} {c : Condition}
    (h : Writes r ctx p ts c) : ∀ subject rest, Ends rest → ∃ values last,
      comparedValues subject (ts ++ rest) = values ++ comparedValues last rest ∧
      Accounts ctx (values.filterMap r.given?) (c.comparisons.flatMap Comparison.literals) := by
  induction h with
  | term _ ih => exact ih
  | @join ts us w k left right _ hk _ ihl ihr =>
    intro subject rest hr
    -- a field that ends the left side is an operand, since a connective is no operator
    obtain ⟨values, mid, hvalues, haccounts⟩ :=
      ihl subject (.word w :: (us ++ rest)) (ends_connective hk _)
    obtain ⟨more, last, hmore, hrest⟩ := ihr mid rest hr
    refine ⟨values ++ more, last, ?_, ?_⟩
    · have hword : comparedValues mid (.word w :: (us ++ rest)) = comparedValues mid (us ++ rest) := rfl
      rw [hword, hmore] at hvalues
      simpa using hvalues
    · rw [List.filterMap_append, Condition.comparisons, List.flatMap_append]
      exact haccounts.append hrest
  | factor _ ih => exact ih
  | negation _ _ ih => exact ih
  | comparison h =>
    intro subject rest hr
    cases h with
    | @mk name bare field ops op ws vs hname _ hspells _ htakes hws =>
      refine ⟨ws.map (Prod.mk name), name, ?_, ?_⟩
      · simp only [List.cons_append, List.append_assoc, comparedValues, hspells.starts, if_true,
          comparedValues_operator hspells, comparedValues_operands htakes hr]
      · simpa [Condition.comparisons, Comparison.literals] using accounts_operands hname hws
  | @group ts c _ ih =>
    intro subject rest hr
    obtain ⟨values, last, hvalues, haccounts⟩ :=
      ih subject (.rightParen :: rest) (ends_rightParen rest)
    refine ⟨values, last, ?_, haccounts⟩
    have hopen : comparedValues subject (.leftParen :: (ts ++ .rightParen :: rest))
        = values ++ comparedValues last rest := hvalues
    simpa using hopen

end WorkQuery
