import WorkQuery.Proofs.DateSpelling
import WorkQuery.Proofs.Query.Standard

/-!
# WorkQuery.Proofs.Query.OperandTypes

The operands of a condition written by hand, by the type of the field that they stand beside.

* `IsNumeral`, `IsDay`, `IsQuoted`: how operands are written.
* `FieldDef.Takes`: the writings that fit the type of a field. Literals, numbers and macros are
  admitted in such a form only (`WrittenValue.Admits.takes`).
* `ofText_operands`: every operand of a condition fits the field on its left, unless it is a field of
  another type. A field is admitted as an operand whatever its type is.
-/

namespace WorkQuery

/-! ## Forms of operands -/

def AllDigits (cs : List Char) : Prop := ∀ c ∈ cs, c.isDigit = true

/-- Digits, perhaps with a point and more digits after them. -/
inductive IsMagnitude : List Char → Prop where
  | whole {ds : List Char} : ds ≠ [] → AllDigits ds → IsMagnitude ds
  | decimal {ds fraction : List Char} :
      ds ≠ [] → AllDigits ds → AllDigits fraction → IsMagnitude (ds ++ '.' :: fraction)

/-- A whole or decimal number, perhaps with a minus sign. -/
inductive IsNumeral : List Char → Prop where
  | plain {cs : List Char} : IsMagnitude cs → IsNumeral cs
  | negative {cs : List Char} : IsMagnitude cs → IsNumeral ('-' :: cs)

/-- Year, month and day. The year has four digits; a year outside of 0 to 9999 has a sign and at
least four. -/
inductive IsDay : List Char → Prop where
  | plain {year month day : List Char} :
      AllDigits (year ++ month ++ day) → year.length = 4 → month.length = 2 → day.length = 2 →
      IsDay (year ++ '-' :: month ++ '-' :: day)
  | signed {sign : Char} {year month day : List Char} :
      sign = '+' ∨ sign = '-' →
      AllDigits (year ++ month ++ day) → 4 ≤ year.length → month.length = 2 → day.length = 2 →
      IsDay (sign :: year ++ '-' :: month ++ '-' :: day)

def IsQuoted (text : String) : Prop := ∃ content, text = Quote.literal content

/-- The operands that fit the type of a field, as they are written. -/
def FieldDef.Takes (f : FieldDef) (text : String) : Prop :=
  match f.valueType with
  | .integer => IsNumeral text.toList
  | .dateTime =>
    (∃ day, IsDay day ∧ text = Quote.literal (String.ofList day)) ∨ ∃ m : DateMacro, text = m.text
  | .identity => IsQuoted text ∨ text = "@Me"
  | .treePath => IsQuoted text ∨ text = "@CurrentIteration"
  | .string => IsQuoted text ∨ (text = "@Project" ∧ f = FieldDef.teamProject)
  | .plainText => IsQuoted text

/-- Whether a value of a condition fits the type of the field that it is compared with. -/
def Registry.Suits (r : Registry) (f : FieldDef) : Value → Prop
  | .field reference => ∃ other, r.resolve? reference = some other ∧ other.valueType = f.valueType
  | v => f.Takes v.spelling

/-! ## Numbers -/

theorem allDigits_takeWhile (cs : List Char) : AllDigits (cs.takeWhile Char.isDigit) :=
  fun _ hc => List.mem_takeWhile_imp hc

theorem drop_takeWhile (cs : List Char) :
    cs.drop (cs.takeWhile Char.isDigit).length = cs.dropWhile Char.isDigit := by
  have h := @List.drop_left Char (cs.takeWhile Char.isDigit) (cs.dropWhile Char.isDigit)
  rwa [List.takeWhile_append_dropWhile] at h

/-- What follows the digits of a number without an exponent is a point. -/
theorem point_of_dropWhile {cs rest : List Char} {d : Char}
    (hchars : ∀ c ∈ cs, c.isDigit = true ∨ c = '.') (h : cs.dropWhile Char.isDigit = d :: rest) :
    d = '.' := by
  have hmem : d ∈ cs := (List.dropWhile_sublist _).subset (by rw [h]; exact List.mem_cons_self)
  refine (hchars d hmem).resolve_left fun hdigit => ?_
  have hhead := List.head?_dropWhile_not Char.isDigit cs
  rw [h] at hhead
  simp [hdigit] at hhead

/-- Digits and points that are read as a number have one point at most. -/
theorem readMagnitude?_isMagnitude {negative : Bool} {cs : List Char} (hcs : IsNumberText cs)
    (h : (Binary64.readMagnitude? negative cs).isSome = true) : IsMagnitude cs := by
  obtain ⟨c, more, rfl, hc, hmore⟩ := hcs
  have hchars : ∀ d ∈ c :: more, d.isDigit = true ∨ d = '.' := by
    intro d hd
    rcases List.mem_cons.mp hd with rfl | hd
    · exact .inl hc
    · simpa using List.all_eq_true.mp hmore d hd
  have hne : (c :: more).takeWhile Char.isDigit ≠ [] := by
    rw [List.takeWhile_cons_of_pos hc]
    exact List.cons_ne_nil _ _
  have hdigits := allDigits_takeWhile (c :: more)
  have hsplit := List.takeWhile_append_dropWhile (p := Char.isDigit) (l := c :: more)
  rw [← hsplit]
  generalize (c :: more).takeWhile Char.isDigit = whole at *
  cases hrest : (c :: more).dropWhile Char.isDigit with
  | nil =>
    rw [List.append_nil]
    exact .whole hne hdigits
  | cons d tail =>
    obtain rfl := point_of_dropWhile hchars hrest
    have htail : ∀ e ∈ tail, e.isDigit = true ∨ e = '.' := by
      intro e he
      exact hchars e ((List.dropWhile_sublist _).subset (by rw [hrest]; simp [he]))
    -- a second point is neither a digit nor the sign of an exponent
    have hnone : tail.dropWhile Char.isDigit = [] := by
      cases hend : tail.dropWhile Char.isDigit with
      | nil => rfl
      | cons e rest =>
        obtain rfl := point_of_dropWhile htail hend
        simp [Binary64.readMagnitude?, drop_takeWhile, hrest, hend] at h
    have hall := List.takeWhile_append_dropWhile (p := Char.isDigit) (l := tail)
    rw [hnone, List.append_nil] at hall
    exact .decimal hne hdigits (by rw [← hall]; exact allDigits_takeWhile _)

/-- A number that is no word and has no sign is read as a magnitude. -/
theorem readMagnitude?_of_word {negative : Bool} {cs : List Char} (hcs : IsNumberText cs)
    (h : (let word := String.ofList (cs.map Char.toLower)
      if word = "inf" ∨ word = "infinity" then some (.infinite negative)
      else if word = "nan" then some .nan
      else Binary64.readMagnitude? negative cs).isSome = true) :
    (Binary64.readMagnitude? negative cs).isSome = true := by
  obtain ⟨c, more, rfl, hc, -⟩ := hcs
  have hlower : c.toLower = c := by
    have hn := Char.isDigit_iff_toNat.mp hc
    have h9 : '9'.toNat = 57 := rfl
    exact (Text.toLower_cases c).resolve_right (by omega)
  have hword : ∀ w : String, (∀ d ∈ w.toList.head?, d.isDigit = false) →
      String.ofList ((c :: more).map Char.toLower) ≠ w := by
    rintro w hw rfl
    have hfirst := hw c (by simp [hlower])
    rw [hc] at hfirst
    cases hfirst
  have hinf := hword "inf" (by simp)
  have hinfinity := hword "infinity" (by simp)
  have hnan := hword "nan" (by simp)
  simpa only [hinf, hinfinity, hnan, or_self, if_false] using h

theorem isNumeral_numberText {negative : Bool} {digits : String} (hdigits : IsNumberText digits.toList)
    (h : (Binary64.ofChars? (numberText negative digits).toList).isSome = true) :
    IsNumeral (numberText negative digits).toList := by
  cases negative with
  | true =>
    have hminus : (numberText true digits).toList = '-' :: digits.toList := by simp [numberText]
    rw [hminus] at h ⊢
    exact .negative (readMagnitude?_isMagnitude hdigits (readMagnitude?_of_word hdigits h))
  | false =>
    have hplain : (numberText false digits).toList = digits.toList := by simp [numberText]
    rw [hplain] at h ⊢
    suffices hread : (Binary64.readMagnitude? false digits.toList).isSome = true from
      .plain (readMagnitude?_isMagnitude hdigits hread)
    refine readMagnitude?_of_word hdigits ?_
    obtain ⟨c, more, hcs, hc, -⟩ := hdigits
    have hminus : c ≠ '-' := by rintro rfl; exact absurd hc (by decide)
    have hplus : c ≠ '+' := by rintro rfl; exact absurd hc (by decide)
    simpa [Binary64.ofChars?, hcs, hminus, hplus] using h

theorem isMagnitude_digits (n : Nat) : IsMagnitude (Numeral.digits n) :=
  .whole Nat.toDigits_ne_nil fun _ hc => Numeral.isDigit_of_mem_digits hc

theorem isNumeral_intText (n : Int) : IsNumeral (Numeral.intText n).toList := by
  cases n with
  | ofNat n =>
    rw [Numeral.intText, Numeral.natText, String.toList_ofList]
    exact .plain (isMagnitude_digits n)
  | negSucc n =>
    rw [Numeral.intText, String.toList_ofList]
    exact .negative (isMagnitude_digits (n + 1))

/-! ## Days -/

theorem le_length_padded (w n : Nat) : w ≤ (Numeral.padded w n).length := by
  simp only [Numeral.padded, List.length_append, List.length_replicate]
  omega

theorem length_padded {w n : Nat} (hw : 0 < w) (h : n < 10 ^ w) : (Numeral.padded w n).length = w :=
  le_antisymm (Numeral.length_padded_le hw h) (le_length_padded w n)

theorem Date.toChars_isDay (d : Date) : IsDay d.toChars := by
  obtain ⟨hmonth, hday⟩ := d.month_day_lt
  have hmonth := length_padded (w := 2) (by decide) hmonth
  have hday := length_padded (w := 2) (by decide) hday
  have hdigits : ∀ year, AllDigits
      (Numeral.padded 4 year ++ Numeral.padded 2 d.month ++ Numeral.padded 2 d.day) := by
    intro year c hc
    simp only [List.mem_append] at hc
    rcases hc with (hc | hc) | hc <;> exact Numeral.isDigit_of_mem_padded hc
  unfold toChars
  rcases Date.yearChars_eq d.year with ⟨htext, hlow, hhigh⟩ | ⟨htext, -⟩ | ⟨htext, -⟩
  · rw [htext]
    exact .plain (hdigits _) (length_padded (by decide) (by omega)) hmonth hday
  · rw [htext]
    exact .signed (.inl rfl) (hdigits _) (le_length_padded _ _) hmonth hday
  · rw [htext]
    exact .signed (.inr rfl) (hdigits _) (le_length_padded _ _) hmonth hday

/-! ## Operands of a field -/

variable {r : Registry} {ctx : QueryContext} {field : FieldDef} {op : Operator}

/-- Whether the value is a field. -/
def Value.isField : Value → Bool
  | .field _ => true
  | _ => false

theorem Registry.suits_of_takes {v : Value} (hv : v.isField = false) (h : field.Takes v.spelling) :
    r.Suits field v := by
  cases v with
  | field _ => cases hv
  | _ => exact h

theorem isQuoted_text (content : String) : IsQuoted (Value.text content).spelling := ⟨content, rfl⟩

/-- A literal becomes an operand of the type of its field. -/
theorem render_takes {l : Literal} {v : Value}
    (hproject : field.isTeamProject = true → field = FieldDef.teamProject)
    (h : l.render field ctx = .ok v) : v.isField = false ∧ field.Takes v.spelling := by
  obtain ⟨reference, type⟩ := field
  cases type with
  | integer =>
    cases l with
    | integer n =>
      cases h
      exact ⟨rfl, isNumeral_intText n⟩
    | text t =>
      simp only [Literal.render] at h
      split at h
      · cases h
        exact ⟨rfl, isNumeral_intText _⟩
      · cases h
  | dateTime =>
    cases l with
    | integer n => cases h
    | text t =>
      simp only [Literal.render] at h
      split at h
      · next date _ =>
        cases h
        cases date with
        | relative m => exact ⟨rfl, .inr ⟨m, rfl⟩⟩
        | day d => exact ⟨rfl, .inl ⟨d.toChars, d.toChars_isDay, rfl⟩⟩
      · cases h
  | identity =>
    cases l with
    | integer n => cases h
    | text t =>
      simp only [Literal.render, Except.ok.injEq] at h
      split at h
      · subst h
        exact ⟨rfl, .inr rfl⟩
      · subst h
        exact ⟨rfl, .inl (isQuoted_text t)⟩
  | string =>
    cases l with
    | integer n =>
      cases h
      exact ⟨rfl, .inl (isQuoted_text _)⟩
    | text t =>
      simp only [Literal.render, Except.ok.injEq] at h
      split at h
      · next hcurrent =>
        subst h
        exact ⟨rfl, .inr ⟨rfl, hproject (Bool.and_eq_true_iff.mp hcurrent).1⟩⟩
      · subst h
        exact ⟨rfl, .inl (isQuoted_text t)⟩
  | treePath =>
    cases l with
    | integer n => cases h
    | text t =>
      cases h
      exact ⟨rfl, .inl (isQuoted_text t)⟩
  | plainText =>
    cases l with
    | integer n => cases h
    | text t =>
      cases h
      exact ⟨rfl, isQuoted_text t⟩

/-- A name with an at sign is an operand of the type of its field. -/
theorem suits_takes {v : Value} (hnamed : v ∈ namedValues ∨ ∃ m, v = .relative m)
    (hproject : field.isTeamProject = true → field = FieldDef.teamProject)
    (h : v.suits field = true) : v.isField = false ∧ field.Takes v.spelling := by
  obtain ⟨reference, type⟩ := field
  have hnamed : v = .currentUser ∨ v = .currentProject ∨ v = .currentIteration ∨ ∃ m, v = .relative m := by
    simpa [namedValues, or_assoc] using hnamed
  rcases hnamed with rfl | rfl | rfl | ⟨m, rfl⟩
  · obtain rfl : type = .identity := by simpa [Value.suits] using h
    exact ⟨rfl, .inr rfl⟩
  · obtain ⟨rfl, rfl⟩ := FieldDef.mk.inj (hproject h)
    exact ⟨rfl, .inr ⟨rfl, rfl⟩⟩
  · obtain rfl : type = .treePath := by simpa [Value.suits] using h
    exact ⟨rfl, .inr rfl⟩
  · obtain rfl : type = .dateTime := by simpa [Value.suits] using h
    exact ⟨rfl, .inr ⟨m, rfl⟩⟩

/-- A value that a field admits is written in a form of its type, or it is a field. -/
theorem WrittenValue.Admits.takes {w : WrittenValue} {v : Value} (h : w.Admits r ctx field op v)
    (hproject : field.isTeamProject = true → field = FieldDef.teamProject)
    (hnumbers : ∀ t ∈ w.tokens, t.IsNumbered) :
    (v.isField = false ∧ field.Takes v.spelling) ∨
      ∃ name other, r.resolve? name = some other ∧ v = .field (Text.trim other.reference) := by
  cases h with
  | literal _ _ hv => exact .inl (render_takes hproject hv)
  | integer _ hv => exact .inl (render_takes hproject hv)
  | @decimal negative digits _ htype hread =>
    have hdigits : IsNumberText digits.toList := by
      refine hnumbers (.number digits) ?_
      cases negative <;> simp [tokens]
    refine .inl ⟨rfl, ?_⟩
    simp only [FieldDef.Takes, htype]
    exact isNumeral_numberText hdigits hread
  | named hv hsuits => exact .inl (suits_takes (ofAtName?_cases hv) hproject hsuits)
  | field hother hreference =>
    obtain ⟨rfl, -⟩ := checkReference_ok hreference
    exact .inr ⟨_, _, hother, rfl⟩

/-! ## Conditions on standard fields -/

theorem Registry.standard_project : ∀ f ∈ Standard.fields.map fieldOf,
    f.isTeamProject = true → f = FieldDef.teamProject := by
  decide +kernel

/-- Every operand of a condition on standard fields has a form of the type of the field on its left,
unless it is a field itself. Such a field is known, and it fits exactly if it has the same type. -/
theorem ofText_operands {text : String} {cond : Condition}
    (h : Condition.ofText Registry.standard ctx text = .ok cond) :
    ∀ cmp ∈ cond.comparisons, ∀ v ∈ cmp.values,
      (v.isField = false → Registry.standard.Suits cmp.field v) ∧
      ∀ reference, v = .field reference → ∃ other,
        Registry.standard.resolve? reference = some other ∧
          (Registry.standard.Suits cmp.field v ↔ other.valueType = cmp.field.valueType) := by
  intro cmp hcmp v hv
  obtain ⟨tokens, htokens, hwrites⟩ := Condition.ofText_ok_iff.mp h
  obtain ⟨us, hus, hwritten⟩ := hwrites.written cmp hcmp
  have hnumbers : ∀ t ∈ us, t.IsNumbered :=
    fun t ht => Token.ofText_numbered htokens t (dropWhere_subset (hus ht))
  cases hwritten with
  | @mk name bare field ops op ws vs hfield _ _ _ _ hws =>
    obtain ⟨w, hw, hadmits⟩ := exists_left_of_mem hws hv
    have hproject := Registry.standard_project field (Registry.standard_mem hfield)
    have htakes := hadmits.takes hproject fun t ht => hnumbers t (by simp [mem_operandTokens hw ht])
    rcases htakes with ⟨hvalue, htakes⟩ | ⟨name, other, hother, rfl⟩
    · refine ⟨fun _ => Registry.suits_of_takes hvalue htakes, ?_⟩
      rintro reference rfl
      cases hvalue
    · have hrefers := Registry.standard_closed.found hother
      have hresolves : Registry.standard.resolve? (Text.trim other.reference) = some other := by
        rw [hrefers.trimmed, hrefers.resolves]
      refine ⟨nofun, ?_⟩
      rintro reference heq
      cases heq
      refine ⟨other, hresolves, ?_⟩
      simp only [Registry.Suits, hresolves, Option.some.injEq, exists_eq_left']

/-! ## Two clauses -/

def changed : FieldDef := ⟨Reference.changedDate, .dateTime⟩

def created : FieldDef := ⟨Reference.createdDate, .dateTime⟩

def revision : FieldDef := ⟨"System.Rev", .integer⟩

theorem Registry.standard_refers {f : FieldDef} (hf : f ∈ [changed, created, revision, .id, .title]) :
    Registry.standard.Refers f := by
  have hlisted : ∀ g ∈ [changed, created, revision, .id, .title], g ∈ Standard.fields.map fieldOf := by
    decide
  exact standard_mem_refers (hlisted f hf)

/-- A comparison of a field with another one. -/
theorem writesComparison_field (ctx : QueryContext) {f other : FieldDef} (hf : Registry.standard.Refers f)
    (hother : Registry.standard.Refers other) (s : String) {op : Operator}
    (hs : Operator.ofText? s = some op) (haccepts : f.valueType.accepts op = true)
    (hsingle : op.takesList = false) :
    WritesComparison Registry.standard ctx [.field f.reference, .symbol s, .field other.reference]
      ⟨f, op, [.field other.reference]⟩ := by
  have htakes : op.Takes [.field other.reference] := by simp [Operator.Takes, hsingle]
  have hadmits : List.Forall₂ (WrittenValue.Admits Registry.standard ctx f op)
      [.field other.reference] [.field other.reference] :=
    .cons (.field hother.resolves hother.checks) .nil
  have hwrites := WritesComparison.mk hf.resolves hf.checks (.symbol hs) haccepts htakes hadmits
  simpa [Operator.operandTokens, hsingle, WrittenValue.tokens] using hwrites

/-- A date beside a date, and a revision beside a number with a sign. -/
theorem ofText_operands_changedLater :
    ∃ cond, Condition.ofText Registry.standard .default
        "[System.ChangedDate] > [System.CreatedDate] AND [System.Rev] > -3" = .ok cond ∧
      ∀ cmp ∈ cond.comparisons, ∀ v ∈ cmp.values, Registry.standard.Suits cmp.field v := by
  have hlater := writesComparison_field .default (Registry.standard_refers (f := changed) (by simp))
    (Registry.standard_refers (f := created) (by simp)) ">" rfl rfl rfl
  have hrevision := Registry.standard_refers (f := revision) (by simp)
  have hnumber : WritesComparison Registry.standard .default
      [.field "System.Rev", .symbol ">", .symbol "-", .number "3"] ⟨revision, .gt, [.whole (-3)]⟩ :=
    @WritesComparison.mk Registry.standard .default "System.Rev" "System.Rev" revision [.symbol ">"] .gt
      [.number true "3"] _ hrevision.resolves hrevision.checks (.symbol rfl) rfl rfl
      (.cons (.integer (n := -3) rfl rfl) .nil)
  have hwrites := Writes.join (w := "AND") (k := .and) (.term (.factor (.comparison hlater))) rfl
    (.factor (.comparison hnumber))
  have htokens : Token.ofText "[System.ChangedDate] > [System.CreatedDate] AND [System.Rev] > -3"
      = .ok [.field "System.ChangedDate", .symbol ">", .field "System.CreatedDate", .word "AND",
        .field "System.Rev", .symbol ">", .symbol "-", .number "3"] := rfl
  have hof := Condition.ofText_ok_iff.mpr ⟨_, htokens, hwrites⟩
  have hoperands := ofText_operands hof
  refine ⟨_, hof, ?_⟩
  intro cmp hcmp v hv
  have hcases : (cmp = ⟨changed, .gt, [.field Reference.createdDate]⟩ ∨
      cmp = ⟨revision, .gt, [.whole (-3)]⟩) := by
    simpa [Condition.comparisons, created] using hcmp
  obtain ⟨hvalue, hfield⟩ := hoperands cmp hcmp v hv
  rcases hcases with rfl | rfl
  · obtain rfl := List.mem_singleton.mp hv
    obtain ⟨other, hother, hsuits⟩ := hfield _ rfl
    have hcreated := (Registry.standard_refers (f := created) (by simp)).resolves
    obtain rfl := Option.some.inj (hcreated.symm.trans hother)
    exact hsuits.mpr rfl
  · obtain rfl := List.mem_singleton.mp hv
    exact hvalue rfl

/-- A number is compared with a title. -/
theorem ofText_idIsTitle :
    ∃ cond, Condition.ofText Registry.standard .default "[System.Id] = [System.Title]" = .ok cond ∧
      ∃ cmp ∈ cond.comparisons, ∃ v ∈ cmp.values, ¬Registry.standard.Suits cmp.field v := by
  have htitle := Registry.standard_refers (f := .title) (by simp)
  have hcomparison := writesComparison_field .default
    (Registry.standard_refers (f := .id) (by simp)) htitle "=" rfl rfl rfl
  have htokens : Token.ofText "[System.Id] = [System.Title]"
      = .ok [.field "System.Id", .symbol "=", .field "System.Title"] := rfl
  have hof := Condition.ofText_ok_iff.mpr ⟨_, htokens, .term (.factor (.comparison hcomparison))⟩
  refine ⟨_, hof, _, List.mem_singleton.mpr rfl, _, List.mem_singleton.mpr rfl, ?_⟩
  rintro ⟨other, hother, htype⟩
  obtain rfl := Option.some.inj (htitle.resolves.symm.trans hother)
  cases htype

end WorkQuery
