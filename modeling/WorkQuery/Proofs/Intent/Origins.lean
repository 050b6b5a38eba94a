import WorkQuery.Proofs.Intent.Numbers

/-!
# WorkQuery.Proofs.Intent.Origins

Where the values of an utterance's criteria come from: `Criteria.TakenFrom` says it of a filter, and
`Criteria.ofUtterance_takenFrom` that it holds of the filter of every utterance.
-/

namespace WorkQuery

open Pattern Text

/-- The value is a text that stands in another one. -/
def Operand.IsBlockOf (text : List Char) (value : Operand) : Prop :=
  ∃ s : String, value = .single (.text s) ∧ s.toList <:+: text

namespace Criteria

/-- Every value of the filter stands in the text. -/
structure TakenFrom (text : List Char) (f : ItemFilter) : Prop where
  /-- An item number stands there with all of its digits, nine at most. -/
  ids : ∀ id ∈ f.ids, 0 < id ∧
    ∃ run, IsNumberIn text run ∧ run.length ≤ 9 ∧ Numeral.readDigits? run = some id
  tags : ∀ p ∈ f.predicates, p.field = Reference.tags → p.value.IsBlockOf text
  areas : ∀ p ∈ f.predicates, p.field = Reference.areaPath → p.value.IsBlockOf text
  /-- A name stands there, unless the text names no one and tells of the user. -/
  assignees : ∀ p ∈ f.predicates, p.field = Reference.assignedTo → p.value.IsBlockOf text ∨
    p.value = .single (.text "me") ∧ (Patterns.assignedToName.find? text).bind keptPhrase = none ∧
      Patterns.assignedToMe.occursIn text = true
  terms : ∀ term ∈ f.freeTextTerms, term.toList <:+: text
  priorities : ∀ p ∈ f.predicates, p.field = Reference.priority →
    ∃ n, p.value = .single (.integer n) ∧ 1 ≤ n ∧ n ≤ 4
  /-- The least priority asked for is not above the greatest. -/
  ordered : ∀ low high : Int, ⟨Reference.priority, .ge, .single (.integer low)⟩ ∈ f.predicates →
    ⟨Reference.priority, .le, .single (.integer high)⟩ ∈ f.predicates → low ≤ high

variable {text : List Char} {place : Place}

/-! ## Kept texts -/

/-- A kept phrase is one of the kept texts without the blanks around it. -/
theorem keptPhrase_eq_some {phrase : String} (h : keptPhrase place = some phrase) :
    ∃ i t, place.text? i = some t ∧ phrase.toList = trimChars t ∧ phrase.toList ≠ [] := by
  cases hkept : [1, 2, 3].filterMap place.text? with
  | nil =>
    simp only [keptPhrase, hkept] at h
    cases h
  | cons first more =>
    have hmem : first ∈ [1, 2, 3].filterMap place.text? := hkept ▸ List.mem_cons_self
    obtain ⟨i, -, hi⟩ := List.mem_filterMap.mp hmem
    simp only [keptPhrase, hkept] at h
    obtain ⟨hne, hphrase⟩ := Option.ite_none_left_eq_some.mp h
    cases hphrase
    exact ⟨i, first, hi, String.toList_ofList, by simpa using hne⟩

theorem keptPhrase_not_blank {phrase : String} (h : keptPhrase place = some phrase) :
    isBlankText phrase = false := by
  obtain ⟨i, t, -, hphrase, hne⟩ := keptPhrase_eq_some h
  rwa [Bool.eq_false_iff, ne_eq, isBlankText_iff, hphrase, trimChars_trimChars, ← hphrase]

theorem keptPhrase_block {p : Pattern} {phrase : String} (hmatch : p.Matches text place)
    (h : keptPhrase place = some phrase) : phrase.toList <:+: text := by
  obtain ⟨i, t, ht, hphrase, -⟩ := keptPhrase_eq_some h
  rw [hphrase]
  exact (trimChars_block t).trans (hmatch.text?_block ht)

theorem mentioning_text (h : Patterns.mentioning.Matches text place) :
    ∃ c t, place.text? 1 = some (c :: t) ∧ c :: t <:+: text ∧ isBlank c = false := by
  obtain ⟨a, hin, -, hleads⟩ := h
  obtain ⟨s, e, t, hgap, hword, hspan, -, htext⟩ :=
    leads_capture_boundary [.boundary, Patterns.anyWord ["mentioning", "containing", "mentions"],
      blanks 1] hleads
  obtain ⟨left, hleft⟩ := hgap.spans
  obtain ⟨m, ⟨first, hfirst, -, hletter, hone, -⟩, hmore⟩ := hword
  obtain ⟨more, hmore⟩ := hmore.spans
  obtain rfl := hspan.unique (hfirst.trans hmore)
  obtain ⟨c, rest, rfl⟩ := List.exists_cons_of_length_pos hone
  refine ⟨c, rest ++ more, htext, (hin.spans hleft).block hspan, ?_⟩
  have hc := hletter c List.mem_cons_self
  have hodd : ∀ n ∈ [0x17F, 0x212A], isBlank (Char.ofNat n) = false := by decide
  simp only [Bool.or_eq_true, beq_iff_eq] at hc
  rw [← Char.ofNat_toNat c]
  rcases hc with (halpha | hs) | hk
  · rw [Char.ofNat_toNat]
    exact isBlank_of_isAlpha halpha
  · exact hs ▸ hodd _ (by simp)
  · exact hk ▸ hodd _ (by simp)

/-! ## Priorities -/

/-- Where a priority digit has been taken. -/
theorem priorityOf_digit (h : Patterns.priority.Matches text place) {i : Nat} (hi : i = 1 ∨ i = 2)
    {t : List Char} (ht : place.text? i = some t) :
    ∃ n, priorityOf t = some n ∧ 1 ≤ n ∧ n ≤ 4 := by
  have hcaptured : Patterns.priority.captured i = [Patterns.priorityDigit] := by
    rcases hi with rfl | rfl <;> rfl
  obtain ⟨inner, hinner, s, e, -, hleads, hspan⟩ := h.text? ht
  rw [hcaptured, List.mem_singleton] at hinner
  subst hinner
  obtain ⟨t', ht', -, hdigit, hleast, hmost⟩ := hleads
  obtain rfl := hspan.unique ht'
  obtain ⟨c, rfl⟩ := List.length_eq_one_iff.mp (Nat.le_antisymm (hmost 1 rfl) hleast)
  have hc := hdigit c List.mem_cons_self
  obtain ⟨hlow, hhigh⟩ : '1' ≤ c ∧ c ≤ '4' := by simpa using hc
  have hlow : 49 ≤ c.toNat := UInt32.le_iff_toNat_le.mp hlow
  have hhigh : c.toNat ≤ 52 := UInt32.le_iff_toNat_le.mp hhigh
  have h0 : '0'.toNat = 48 := rfl
  have h9 : '9'.toNat = 57 := rfl
  have hisDigit : c.isDigit = true := Char.isDigit_iff_toNat.mpr (by omega)
  refine ⟨((c.toNat - 48 : Nat) : Int), ?_, by omega, by omega⟩
  simp [priorityOf, Numeral.readDigits?, hisDigit, Nat.ofDigitChars]

theorem priorities_bounds {low high : Int} (h : priorities text = some (low, high)) :
    1 ≤ low ∧ low ≤ high ∧ high ≤ 4 := by
  obtain ⟨place, hplace, hbounds⟩ := Option.bind_eq_some_iff.mp h
  have hmatch := matches_of_find? hplace
  -- a bound is the digit taken, or else what stands for it
  have hbound : ∀ {i : Nat} (other : Int), i = 1 ∨ i = 2 → 1 ≤ other ∧ other ≤ 4 →
      1 ≤ ((place.text? i).bind priorityOf).getD other ∧
        ((place.text? i).bind priorityOf).getD other ≤ 4 := by
    intro i other hi hother
    cases ht : place.text? i with
    | none => exact hother
    | some t =>
      obtain ⟨n, hn, hrange⟩ := priorityOf_digit hmatch hi ht
      rw [Option.bind_some, hn]
      exact hrange
  have hlow := hbound 1 (.inl rfl) (by decide)
  have hhigh := hbound _ (.inr rfl) hlow
  cases hbounds
  omega

/-! ## The filter of an utterance -/

namespace Found

variable {r : Registry} {now : Criterion} {c : Criteria} {p : Predicate}

theorem ids_taken (h : Found r text now c) {id : Nat} (hid : id ∈ c.filter.ids) :
    0 < id ∧ ∃ run, IsNumberIn text run ∧ run.length ≤ 9 ∧ Numeral.readDigits? run = some id := by
  obtain ⟨hpos, run, hrun, hvalue⟩ := mem_ids (h.ids_origin hid)
  exact ⟨hpos, run, isNumberIn_of_mem hrun, hvalue⟩

theorem tags_taken (h : Found r text now c) (hp : p ∈ c.filter.predicates)
    (hfield : p.field = Reference.tags) : p.value.IsBlockOf text := by
  obtain ⟨part, hfinds, hpart⟩ := h.predicate_origin .tag hp (congrArg some hfield.symm)
  cases hfinds with
  | tag hplace hkept =>
    obtain rfl := List.mem_singleton.mp hpart
    exact ⟨_, rfl, keptPhrase_block (matches_of_findAll hplace) hkept⟩

theorem areas_taken (h : Found r text now c) (hp : p ∈ c.filter.predicates)
    (hfield : p.field = Reference.areaPath) : p.value.IsBlockOf text := by
  obtain ⟨part, hfinds, hpart⟩ := h.predicate_origin .area hp (congrArg some hfield.symm)
  cases hfinds with
  | area hplace hkept =>
    obtain rfl := List.mem_singleton.mp hpart
    exact ⟨_, rfl, keptPhrase_block (matches_of_find? hplace) hkept⟩

theorem assignees_taken (h : Found r text now c) (hp : p ∈ c.filter.predicates)
    (hfield : p.field = Reference.assignedTo) : p.value.IsBlockOf text ∨
      p.value = .single (.text "me") ∧
        (Patterns.assignedToName.find? text).bind keptPhrase = none ∧
        Patterns.assignedToMe.occursIn text = true := by
  obtain ⟨part, hfinds, hpart⟩ := h.predicate_origin .assignee hp (congrArg some hfield.symm)
  cases hfinds with
  | person hplace hkept =>
    obtain rfl := List.mem_singleton.mp hpart
    exact .inl ⟨_, rfl, keptPhrase_block (matches_of_find? hplace) hkept⟩
  | me hname hoccurs =>
    obtain rfl := List.mem_singleton.mp hpart
    exact .inr ⟨rfl, hname, hoccurs⟩

theorem terms_taken (h : Found r text now c) {term : String}
    (hterm : term ∈ c.filter.freeTextTerms) : term.toList <:+: text := by
  rcases h.terms_origin hterm with ⟨place, hplace, hkept⟩ | ⟨place, hplace, rfl⟩
  · exact keptPhrase_block (matches_of_findAll hplace) hkept
  · obtain ⟨first, rest, htext, hblock, -⟩ := mentioning_text (matches_of_findAll hplace)
    rw [Place.text, htext, Option.getD_some, String.toList_ofList]
    exact hblock

/-- All conditions on the priority are about the one range that the text asks for. -/
theorem priority_origin (h : Found r text now c) (hp : p ∈ c.filter.predicates)
    (hfield : p.field = Reference.priority) : ∃ low high, priorities text = some (low, high) ∧
      p ∈ Predicate.priorityBetween low high := by
  obtain ⟨part, hfinds, hpart⟩ := h.predicate_origin .priority hp (congrArg some hfield.symm)
  cases hfinds with
  | priority hbounds => exact ⟨_, _, hbounds, hpart⟩

theorem priorities_taken (h : Found r text now c) (hp : p ∈ c.filter.predicates)
    (hfield : p.field = Reference.priority) :
    ∃ n, p.value = .single (.integer n) ∧ 1 ≤ n ∧ n ≤ 4 := by
  obtain ⟨low, high, hbounds, hmem⟩ := h.priority_origin hp hfield
  obtain ⟨hlow, hle, hhigh⟩ := priorities_bounds hbounds
  rcases Predicate.mem_priorityBetween hmem with rfl | rfl | rfl
  · exact ⟨_, rfl, hlow, by omega⟩
  · exact ⟨_, rfl, hlow, by omega⟩
  · exact ⟨_, rfl, by omega, hhigh⟩

theorem priorities_ordered (h : Found r text now c) {low high : Int}
    (hlow : ⟨Reference.priority, .ge, .single (.integer low)⟩ ∈ c.filter.predicates)
    (hhigh : ⟨Reference.priority, .le, .single (.integer high)⟩ ∈ c.filter.predicates) :
    low ≤ high := by
  obtain ⟨first, last, hbounds, hlow⟩ := h.priority_origin hlow rfl
  obtain ⟨first', last', hbounds', hhigh⟩ := h.priority_origin hhigh rfl
  cases Option.some.inj (hbounds.symm.trans hbounds')
  rcases Predicate.mem_priorityBetween hlow with h | h | h <;> cases h
  rcases Predicate.mem_priorityBetween hhigh with h | h | h <;> cases h
  exact (priorities_bounds hbounds).2.1

end Found

/-- Nothing is made up: every value of an utterance's filter stands in the utterance. -/
theorem ofUtterance_takenFrom (r : Registry) (utterance : String) :
    TakenFrom utterance.toList (ofUtterance r utterance).filter := by
  obtain ⟨c, extras, hfound, heq⟩ := ofUtterance_found r utterance
  rw [heq]
  exact {
    ids := fun _ => hfound.ids_taken
    tags := fun _ => hfound.tags_taken
    areas := fun _ => hfound.areas_taken
    assignees := fun _ => hfound.assignees_taken
    terms := fun _ => hfound.terms_taken
    priorities := fun _ => hfound.priorities_taken
    ordered := fun _ _ => hfound.priorities_ordered }

/-- A number of ten digits is passed over, not cut. -/
example : (ofUtterance Registry.standard "items 12 and 1234567890").filter.ids = [12] := by
  decide +kernel

end Criteria
end WorkQuery
