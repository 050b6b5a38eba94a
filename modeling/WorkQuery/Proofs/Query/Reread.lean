import WorkQuery.Proofs.DateSpelling
import WorkQuery.Proofs.Query.Standard

/-!
# WorkQuery.Proofs.Query.Reread

What has been written in a query is read back: under the same context and after the same operator,
with the same spelling.

* `Value.IsReread`, `Condition.IsReread`: a value, and a condition of a query.
* `WrittenValue.Admits.again`, `Writes.again`: what has been read from a text written by hand is read
  again as it is. Values and comparisons are a case each; a condition is followed through its
  derivation.
* `Condition.ofText_text`: the canonical text of what has been read is read as the same.
* `Query.WellFormed.ofText_reread`: the body of a query all whose conditions are read back.
-/

namespace WorkQuery

variable {r : Registry} {ctx : QueryContext} {field : FieldDef} {op : Operator}

/-! ## Values -/

/-- A value that is read back, as one with the same spelling. -/
def Value.IsReread (r : Registry) (ctx : QueryContext) (field : FieldDef) (op : Operator)
    (v : Value) : Prop :=
  ∃ v', v.written.Admits r ctx field op v' ∧ v'.spelling = v.spelling

theorem WrittenValue.Admits.isReread {v : Value} (h : v.written.Admits r ctx field op v) :
    v.IsReread r ctx field op := ⟨v, h, rfl⟩

theorem Value.written_whole (n : Int) : ∃ negative digits,
    (Value.whole n).written = .number negative digits ∧
      numberText negative digits = Numeral.intText n := by
  cases n with
  | ofNat n => exact ⟨false, _, rfl, rfl⟩
  | negSucc n =>
    refine ⟨true, _, rfl, String.toList_injective ?_⟩
    simp [numberText, Numeral.intText, Numeral.natText]

/-- A whole number that is stored is read as itself, a larger one as a number that is spelled as it
is. -/
theorem Value.whole_isReread (n : Int) (ht : field.valueType = .integer) :
    (Value.whole n).IsReread r ctx field op := by
  obtain ⟨negative, digits, hwritten, htext⟩ := Value.written_whole n
  have hread := Numeral.readInt64?_intText n
  rw [← htext] at hread
  rw [IsReread, hwritten]
  cases hn : Numeral.isInt64 n with
  | true =>
    rw [hn, if_pos rfl] at hread
    exact ⟨.whole n, .integer hread (by simp [Literal.render, ht]), rfl⟩
  | false =>
    rw [hn, if_neg (by simp)] at hread
    refine ⟨_, .decimal hread ht ?_, htext⟩
    rw [htext]
    exact Binary64.ofChars?_intText n

theorem Value.whole_again {n : Int} (hn : Numeral.isInt64 n = true)
    (ht : field.valueType = .integer) :
    (Value.whole n).written.Admits r ctx field op (.whole n) := by
  obtain ⟨negative, digits, hwritten, htext⟩ := Value.written_whole n
  rw [hwritten]
  refine .integer (n := n) ?_ (by simp [Literal.render, ht])
  rw [htext, Numeral.readInt64?_intText, hn, if_pos rfl]

theorem ValueType.isSearch_dateTime (h : ValueType.dateTime.accepts op = true) :
    op.isSearch = false := by
  cases op <;> first | rfl | cases h

theorem Value.day_again (d : Date) (ht : field.valueType = .dateTime)
    (haccepts : field.valueType.accepts op = true) :
    (Value.day d).written.Admits r ctx field op (.day d) := by
  rw [ht] at haccepts
  refine .literal (Quote.unescape_escape d.text) (fun hs => ?_) ?_
  · rw [ValueType.isSearch_dateTime haccepts] at hs
    cases hs
  · simp [Literal.render, ht, DateExpr.ofText?_text, DateExpr.toValue]

theorem Value.named_again {v : Value} (hv : v ∈ namedValues) (hsuits : v.suits field = true) :
    v.written.Admits r ctx field op v := by
  simp only [namedValues, List.mem_cons, List.not_mem_nil, or_false] at hv
  rcases hv with rfl | rfl | rfl
  all_goals exact .named rfl hsuits

theorem DateMacro.nameText_text (m : DateMacro) :
    nameText m.anchor.token (m.shift.map fun s => (s.forward, Numeral.natText s.count)) = m.text := by
  obtain ⟨anchor, shift⟩ := m
  cases shift with
  | none => rfl
  | some s =>
    obtain ⟨forward, count⟩ := s
    refine String.toList_injective ?_
    cases forward <;> simp [nameText, DateMacro.text]

/-- A macro is none of the values that are named, which begin with other letters. -/
theorem DateMacro.ofAtName?_text (m : DateMacro) :
    Value.ofAtName? m.text = (DateMacro.ofText? m.text).map .relative := by
  have hstart : (m.text.toList.map Char.toLower).take 2
      = (m.anchor.token.toList.map Char.toLower).take 2 := by
    rw [DateMacro.toList_text]
    cases m.anchor <;> rfl
  have hnone : (namedValues.find? fun v => Text.sameIgnoringCase v.spelling m.text) = none := by
    rw [List.find?_eq_none]
    intro v hv hsame
    have htake := congrArg (List.take 2) (beq_iff_eq.mp hsame)
    rw [hstart] at htake
    simp only [namedValues, List.mem_cons, List.not_mem_nil, or_false] at hv
    rcases hv with rfl | rfl | rfl <;> cases hanchor : m.anchor <;> rw [hanchor] at htake <;>
      exact absurd htake (by decide)
  simp only [Value.ofAtName?, hnone]

theorem Value.relative_again {m : DateMacro} (h : m.IsShort) (ht : field.valueType = .dateTime) :
    (Value.relative m).written.Admits r ctx field op (.relative m) := by
  refine .named ?_ (by simp [Value.suits, ht])
  rw [DateMacro.nameText_text, DateMacro.ofAtName?_text, DateMacro.ofText?_text h, Option.map_some]

theorem Value.date_again {d : DateExpr} (h : ∀ m, d = .relative m → m.IsShort)
    (ht : field.valueType = .dateTime) (haccepts : field.valueType.accepts op = true) :
    d.toValue.written.Admits r ctx field op d.toValue := by
  cases d with
  | relative m => exact Value.relative_again (h m rfl) ht
  | day d => exact Value.day_again d ht haccepts

theorem Value.text_again {t : String}
    (hsearch : op.isSearch = true → Text.isBlankText t = false)
    (h : (Literal.text t).render field ctx = .ok (.text t)) :
    (Value.text t).written.Admits r ctx field op (.text t) :=
  .literal (Quote.unescape_escape t) hsearch h

/-- What a text is turned into is read back, and so is the text where it is kept. -/
theorem render_text_again {t : String} {v : Value} (haccepts : field.valueType.accepts op = true)
    (hsearch : op.isSearch = true → Text.isBlankText t = false)
    (h : (Literal.text t).render field ctx = .ok v) : v.written.Admits r ctx field op v := by
  have hrender := h
  simp only [Literal.render] at h
  cases ht : field.valueType with
  | integer =>
    simp only [ht] at h
    split at h
    · rename_i n hn
      cases h
      exact Value.whole_again (Numeral.readInt64?_isInt64 hn) ht
    · cases h
  | dateTime =>
    simp only [ht] at h
    split at h
    · rename_i d hd
      cases h
      refine Value.date_again (fun m hm => ?_) ht haccepts
      rw [hm] at hd
      exact DateExpr.ofText?_short hd
    · cases h
  | identity =>
    simp only [ht, Except.ok.injEq] at h
    split at h
    · subst h
      exact Value.named_again (by simp [namedValues]) (by simp [Value.suits, ht])
    · subst h
      exact Value.text_again hsearch hrender
  | string =>
    simp only [ht, Except.ok.injEq] at h
    split at h
    · rename_i hproject
      subst h
      refine Value.named_again (by simp [namedValues]) ?_
      exact (Bool.and_eq_true_iff.mp hproject).1
    · subst h
      exact Value.text_again hsearch hrender
  | treePath | plainText =>
    simp only [ht, Except.ok.injEq] at h
    subst h
    exact Value.text_again hsearch hrender

/-- Digits and a sign name no project. -/
theorem isCurrentProject_intText (n : Int) : isCurrentProject (Numeral.intText n) = false := by
  rw [← Bool.not_eq_true]
  intro hsame
  have heq := beq_iff_eq.mp hsame
  have hat : '@' ∈ (Text.trim (Numeral.intText n)).toList.map Char.toLower := by rw [heq]; decide
  obtain ⟨c, hc, hlower⟩ := List.mem_map.mp hat
  rw [Text.trim, String.toList_ofList] at hc
  have hdigits : ['0', '1', '2', '3', '4', '5', '6', '7', '8', '9'].all (fun c => c.toLower != '@')
      = true := by decide
  rcases Numeral.isDigit_or_of_mem_intText (Text.mem_trimChars hc) with hdigit | rfl
  · exact absurd hlower (by simpa using List.all_eq_true.mp hdigits c (isDigit_cases hdigit))
  · exact absurd hlower (by decide)

theorem render_integer_text {n : Int} {t : String}
    (h : (Literal.integer n).render field ctx = .ok (.text t)) :
    t = Numeral.intText n ∧ (Literal.text t).render field ctx = .ok (.text t) := by
  cases ht : field.valueType with
  | string =>
    simp only [Literal.render, ht, Except.ok.injEq, Value.text.injEq] at h
    subst h
    refine ⟨rfl, ?_⟩
    simp [Literal.render, ht, isCurrentProject_intText]
  | integer | dateTime | identity | treePath | plainText =>
    simp only [Literal.render, ht] at h
    cases h

theorem render_integer_type {n m : Int} (h : (Literal.integer n).render field ctx = .ok (.whole m)) :
    field.valueType = .integer := by
  cases ht : field.valueType with
  | integer => rfl
  | string | dateTime | identity | treePath | plainText =>
    simp only [Literal.render, ht] at h
    cases h

/-- A literal of a filter is read back from what it is rendered as. -/
theorem render_isReread {l : Literal} {v : Value} (haccepts : field.valueType.accepts op = true)
    (hsearch : ∀ t, l = .text t → op.isSearch = true → Text.isBlankText t = false)
    (h : l.render field ctx = .ok v) : v.IsReread r ctx field op := by
  cases l with
  | text t => exact (render_text_again haccepts (hsearch t rfl) h).isReread
  | integer n =>
    rcases render_integer h with rfl | rfl
    · exact Value.whole_isReread n (render_integer_type h)
    · obtain ⟨_, hrender⟩ := render_integer_text h
      exact (Value.text_again (fun _ => Numeral.isBlankText_intText n) hrender).isReread

/-! ## Values written by hand -/

theorem written_numeral {negative : Bool} {digits : String} (h : IsNumberText digits.toList) :
    (Value.numeral (numberText negative digits)).written = .number negative digits := by
  cases negative with
  | true => simp [Value.written, numberText]
  | false =>
    obtain ⟨c, cs, hcs, hc, _⟩ := h
    have hsign : c ≠ '-' := by rintro rfl; exact absurd hc (by decide)
    simp [Value.written, numberText, hcs, hsign]

theorem ofAtName?_short {s : String} {m : DateMacro} (h : Value.ofAtName? s = some (.relative m)) :
    m.IsShort := by
  unfold Value.ofAtName? at h
  split at h
  · rename_i v hv
    cases h
    have hmem := List.mem_of_find?_eq_some hv
    simp [namedValues] at hmem
  · obtain ⟨m', hm', heq⟩ := Option.map_eq_some_iff.mp h
    cases heq
    exact DateMacro.ofChars?_short hm'

/-- A value written by hand is read again from what it has been read as, and as the same value. -/
theorem WrittenValue.Admits.again (hr : r.IsClosed) {w : WrittenValue} {v : Value}
    (haccepts : field.valueType.accepts op = true) (hnumbers : ∀ t ∈ w.tokens, t.IsNumbered)
    (h : w.Admits r ctx field op v) : v.written.Admits r ctx field op v := by
  cases h with
  | literal _ hblank hv => exact render_text_again haccepts hblank hv
  | integer hn hv =>
    rcases render_integer hv with rfl | rfl
    · exact Value.whole_again (Numeral.readInt64?_isInt64 hn) (render_integer_type hv)
    · obtain ⟨_, hrender⟩ := render_integer_text hv
      exact Value.text_again (fun _ => Numeral.isBlankText_intText _) hrender
  | @decimal negative digits hn ht hb =>
    have hnumber : IsNumberText digits.toList :=
      hnumbers (.number digits) (by cases negative <;> simp [WrittenValue.tokens])
    rw [written_numeral hnumber]
    exact .decimal hn ht hb
  | named hv hsuits =>
    rcases ofAtName?_cases hv with hmem | ⟨m, rfl⟩
    · exact Value.named_again hmem hsuits
    · exact Value.relative_again (ofAtName?_short hv) (by simpa [Value.suits] using hsuits)
  | @field name reference other hother hreference =>
    have hrefers := hr.found hother
    rw [hrefers.checks] at hreference
    cases hreference
    rw [Value.written, hrefers.trimmed]
    exact .field hrefers.resolves hrefers.checks

/-! ## Comparisons -/

theorem WritesComparison.again (hr : r.IsClosed) {ts : List Token} {c : Comparison}
    (h : WritesComparison r ctx ts c) (hnumbers : ∀ t ∈ ts, t.IsNumbered) :
    WritesComparison r ctx c.written.tokens c := by
  have htakes := (h.spelled hnumbers).takes
  cases h with
  | @mk name bare field ops op ws vs hfield _ _ haccepts _ hws =>
    have hrefers := hr.found hfield
    have hvs : List.Forall₂ (WrittenValue.Admits r ctx field op) (vs.map Value.written) vs := by
      rw [List.forall₂_map_left_iff, List.forall₂_same]
      intro v hv
      obtain ⟨w, hw, hadmits⟩ := exists_left_of_mem hws hv
      exact hadmits.again hr haccepts fun t ht => hnumbers t (by simp [mem_operandTokens hw ht])
    have hwritten : (Comparison.mk field op vs).written = ⟨field.reference, op, vs.map Value.written⟩ := by
      rw [Comparison.written, hrefers.trimmed]
    rw [hwritten] at htakes ⊢
    exact .mk hrefers.resolves hrefers.checks op.spells haccepts htakes hvs

/-- A comparison all whose values are read back is read back, with these values. -/
theorem Comparison.reread {c : Comparison} (hc : c.IsSpelled) (hfield : r.Refers c.field)
    (haccepts : c.field.valueType.accepts c.operator = true)
    (hvalues : ∀ v ∈ c.values, v.IsReread r ctx c.field c.operator) :
    ∃ vs, WritesComparison r ctx c.written.tokens ⟨c.field, c.operator, vs⟩ ∧
      vs.map Value.spelling = c.values.map Value.spelling := by
  obtain ⟨field, op, values⟩ := c
  obtain ⟨vs, hvs⟩ := exists_forall₂ hvalues
  have htakes := hc.takes
  have hwritten : (Comparison.mk field op values).written
      = ⟨field.reference, op, values.map Value.written⟩ := by
    rw [Comparison.written, hfield.trimmed]
  rw [hwritten] at htakes ⊢
  refine ⟨vs, .mk hfield.resolves hfield.checks op.spells haccepts htakes ?_, ?_⟩
  · rw [List.forall₂_map_left_iff]
    exact hvs.imp fun _ _ h => h.1
  · exact (map_eq_of_forall₂ hvs fun _ _ h => h.2.symm).symm

/-! ## Conditions -/

theorem Writes.again (hr : r.IsClosed) {p : Production} {ts : List Token} {c : Condition}
    (h : Writes r ctx p ts c) : (∀ t ∈ ts, t.IsNumbered) → Writes r ctx p c.tokens c := by
  induction h with
  | term _ ih => exact fun hnumbers => .term (ih hnumbers)
  | @join _ _ _ k _ _ _ _ _ ihl ihr =>
    intro hnumbers
    have hk : Connective.ofWord? k.token = some k := by cases k <;> rfl
    exact .join (ihl fun t ht => hnumbers t (by simp [ht])) hk
      (ihr fun t ht => hnumbers t (by simp [ht]))
  | factor _ ih => exact fun hnumbers => .factor (ih hnumbers)
  | negation _ _ ih =>
    exact fun hnumbers => .negation rfl (ih fun t ht => hnumbers t (by simp [ht]))
  | comparison h => exact fun hnumbers => .comparison (h.again hr hnumbers)
  | group _ ih => exact fun hnumbers => .group (ih fun t ht => hnumbers t (by simp [ht]))

namespace Condition

/-- A condition of a query and the one that is read back from it: a term of the same spelling that
pins the project where the condition does, and in which OR stands in groups only. -/
structure ReadsAs (r : Registry) (ctx : QueryContext) (c c' : Condition) : Prop where
  writes : Writes r ctx .term c.tokens c'
  text : c'.text = c.text
  pins : c'.pinsProject = c.pinsProject
  grouped : c'.hasTopLevelOr = false

/-- A condition of a query that is read back. -/
def IsReread (r : Registry) (ctx : QueryContext) (c : Condition) : Prop := ∃ c', ReadsAs r ctx c c'

theorem comparison_isReread {c : Comparison} (hc : c.IsSpelled) (hfield : r.Refers c.field)
    (haccepts : c.field.valueType.accepts c.operator = true)
    (hvalues : ∀ v ∈ c.values, v.IsReread r ctx c.field c.operator) :
    (comparison c).IsReread r ctx := by
  obtain ⟨vs, hwrites, hspelling⟩ := Comparison.reread hc hfield haccepts hvalues
  refine ⟨_, .factor (.comparison hwrites), ?_, rfl, rfl⟩
  simp only [text, Comparison.text, hspelling]

/-- Conditions joined by one connective are read back as those that each of them is read as. -/
theorem chain_writes (k : Connective) : ∀ {rest rest' : List Condition} {first first' : Condition},
    Writes r ctx .condition first.tokens first' → List.Forall₂ (ReadsAs r ctx) rest rest' →
      Writes r ctx .condition (chain k first rest).tokens (chain k first' rest') := by
  have hk : Connective.ofWord? k.token = some k := by cases k <;> rfl
  intro rest
  induction rest with
  | nil =>
    intro rest' first first' hfirst hrest
    cases hrest
    exact hfirst
  | cons c rest ih =>
    intro rest' first first' hfirst hrest
    cases hrest with
    | @cons _ c' _ rest' hc hrest =>
      have hjoin : Writes r ctx .condition (join first k c).tokens (join first' k c') :=
        .join hfirst hk hc.writes
      have hall := ih hjoin hrest
      exact hall

theorem chain_reread (k : Connective) {c c' : Condition} {cs cs' : List Condition}
    (h : List.Forall₂ (ReadsAs r ctx) (c :: cs) (c' :: cs')) :
    Writes r ctx .condition (chain k c cs).tokens (chain k c' cs') ∧
      (chain k c' cs').text = (chain k c cs).text := by
  have htexts := map_eq_of_forall₂ h fun _ _ hd => hd.text.symm
  cases h with
  | cons hc hcs => exact ⟨chain_writes k (.term hc.writes) hcs, by rw [chain_text, chain_text, htexts]⟩

theorem group_isReread (k : Connective) {c : Condition} {cs : List Condition}
    (h : ∀ d ∈ c :: cs, d.IsReread r ctx) : (group (chain k c cs)).IsReread r ctx := by
  obtain ⟨ds, hds⟩ := exists_forall₂ h
  cases hds with
  | @cons _ c' _ cs' hc hcs =>
    obtain ⟨hwrites, htext⟩ := chain_reread k (.cons hc hcs)
    exact ⟨group (chain k c' cs'), .factor (.group hwrites), by simp only [text, htext], rfl, rfl⟩

end Condition

/-! ## Texts -/

/-- No word but NOT begins a condition. -/
theorem Writes.starts {p : Production} {ts : List Token} {c : Condition} (h : Writes r ctx p ts c) :
    ∃ t more, ts = t :: more ∧ ∀ w, t = .word w → Text.sameIgnoringCase w "NOT" = true := by
  induction h with
  | term _ ih => exact ih
  | join _ _ _ ihl _ =>
    obtain ⟨t, more, rfl, hw⟩ := ihl
    exact ⟨t, _, rfl, hw⟩
  | factor _ ih => exact ih
  | negation hw _ _ => exact ⟨_, _, rfl, fun _ heq => by cases heq; exact hw⟩
  | comparison h =>
    obtain ⟨name, more, rfl⟩ := h.starts
    exact ⟨_, _, rfl, nofun⟩
  | group _ _ => exact ⟨_, _, rfl, nofun⟩

theorem Writes.dropWhere_append {p : Production} {ts : List Token} {c : Condition}
    (h : Writes r ctx p ts c) (us : List Token) : dropWhere (ts ++ us) = ts ++ us := by
  obtain ⟨t, more, rfl, hnot⟩ := h.starts
  cases t with
  | word w =>
    have hwhere : Text.sameIgnoringCase w "WHERE" = false := by
      rw [Text.sameIgnoringCase, beq_iff_eq.mp (hnot w rfl)]
      decide
    simp [dropWhere, hwhere]
  | _ => rfl

theorem Writes.dropWhere_eq {p : Production} {ts : List Token} {c : Condition}
    (h : Writes r ctx p ts c) : dropWhere ts = ts := by
  have hall := h.dropWhere_append []
  rwa [List.append_nil] at hall

/-- The canonical text of a condition written by hand is read as that condition. -/
theorem Condition.ofText_text (hr : r.IsClosed) {text : String} {clause : Condition}
    (h : Condition.ofText r ctx text = .ok clause) :
    Condition.ofText r ctx clause.text = .ok clause := by
  obtain ⟨tokens, htokens, hwrites⟩ := Condition.ofText_ok_iff.mp h
  have hnumbers : ∀ t ∈ dropWhere tokens, t.IsNumbered :=
    fun t ht => Token.ofText_numbered htokens t (dropWhere_subset ht)
  have hagain := hwrites.again hr hnumbers
  refine Condition.ofText_ok_iff.mpr ⟨_, (Condition.lexes (hwrites.spelled hnumbers)).ofText, ?_⟩
  rwa [hagain.dropWhere_eq]

/-- The body of a query is read as a condition with the same text, which pins the project where one
of the conditions does. -/
theorem Query.WellFormed.ofText_reread {q : Query} (hq : q.WellFormed)
    (h : ∀ c ∈ q.conditions, c.IsReread r ctx) :
    ∃ body, Condition.ofText r ctx q.body = .ok body ∧ body.text = q.body ∧
      body.isScoped = q.conditions.any Condition.pinsProject := by
  obtain ⟨c, cs, hcs⟩ := List.exists_cons_of_ne_nil hq.nonempty
  obtain ⟨cs', hcs'⟩ := exists_forall₂ h
  rw [hcs] at hcs'
  cases hcs' with
  | @cons _ c' _ cs' hc hrest =>
    have hall : List.Forall₂ (Condition.ReadsAs r ctx) (c :: cs) (c' :: cs') := .cons hc hrest
    obtain ⟨hwrites, htext⟩ := Condition.chain_reread .and hall
    have htokens : q.bodyTokens = (Condition.chain .and c cs).tokens := by
      rw [Query.bodyTokens, hcs, Condition.chain_tokens]
      rfl
    have hbody : q.body = (Condition.chain .and c cs).text := by
      rw [Query.body, hcs, Condition.chain_text]
      rfl
    refine ⟨Condition.chain .and c' cs', Condition.ofText_ok_iff.mpr ⟨_, hq.ofText_body, ?_⟩,
      htext.trans hbody.symm, ?_⟩
    · rw [htokens, hwrites.dropWhere_eq]
      exact hwrites
    · have hor : (c' :: cs').any Condition.hasTopLevelOr = false := by
        rw [List.any_eq_false]
        intro d hd
        obtain ⟨e, _, he⟩ := exists_left_of_mem hall hd
        simp [he.grouped]
      have hpins := map_eq_of_forall₂ hall fun _ _ hd => hd.pins.symm
      have hany := congrArg (List.any · id) hpins
      simp only [List.any_map, Function.id_comp] at hany
      rw [Condition.isScoped, Condition.chain_and_hasTopLevelOr, hor, Bool.not_false, Bool.and_true,
        Condition.chain_pinsProject, hcs, hany]

end WorkQuery
