import WorkQuery.Text.Pattern
import Mathlib.Logic.Relation

/-!
# WorkQuery.Proofs.Text.Matching

What a match of a pattern is, apart from how it is searched for.

* `Place.Spans`: the text between two places.
* `Pattern.Leads`: the places to which a pattern leads, by its form. Every outcome is one of them
  (`leads_of_mem_outcomes`), and so every match found (`matches_of_find?`, `matches_of_findAll`).
* `Matches.text?`: a text that a match has kept is a block of the text searched, and the pattern
  that keeps it leads over it.
* `Pattern.Over` and `Pattern.least`: what the text of a match is made of, and how long it is.
* `head?_runFrom`, `findFrom_eq`: the outcome that is preferred, and where the search goes on.
-/

namespace WorkQuery

/-! ## Places -/

namespace Place

def start (text : List Char) : Place := ⟨none, text, []⟩

/-- Between the two places stands this text. -/
structure Spans (a : Place) (span : List Char) (b : Place) : Prop where
  rest : a.rest = span ++ b.rest
  before : b.before = span.getLast?.or a.before

variable {a b c : Place} {text span more : List Char}

theorem Spans.refl (a : Place) : a.Spans [] a := ⟨rfl, rfl⟩

theorem Spans.trans (h : a.Spans span b) (h' : b.Spans more c) : a.Spans (span ++ more) c := by
  refine ⟨?_, ?_⟩
  · rw [h.rest, h'.rest, List.append_assoc]
  · rw [h'.before, h.before, List.getLast?_append, Option.or_assoc]

theorem Spans.unique (h : a.Spans span b) (h' : a.Spans more b) : span = more :=
  List.append_cancel_right (h.rest.symm.trans h'.rest)

/-- What is kept does not matter for the text between places. -/
theorem Spans.keep (h : a.Spans span b) (kept : List (Nat × List Char × List Char)) :
    a.Spans span { b with kept := kept } :=
  ⟨h.rest, h.before⟩

/-- A kept text is read off the two ends of it. -/
theorem Spans.take (h : a.Spans span b) :
    a.rest.take (a.rest.length - b.rest.length) = span := by
  rw [h.rest, List.length_append, Nat.add_sub_cancel]
  exact List.take_left

/-- A place in a text. -/
def IsIn (text : List Char) (a : Place) : Prop := ∃ left, (start text).Spans left a

theorem IsIn.spans (ha : a.IsIn text) (h : a.Spans span b) : b.IsIn text := by
  obtain ⟨left, hleft⟩ := ha
  exact ⟨left ++ span, hleft.trans h⟩

/-- What stands between two places in a text is a block of it. -/
theorem IsIn.block (ha : a.IsIn text) (h : a.Spans span b) : span <:+: text := by
  obtain ⟨left, hleft⟩ := ha
  exact ⟨left, b.rest, by rw [List.append_assoc, ← h.rest]; exact hleft.rest.symm⟩

end Place

/-! ## Where a pattern leads -/

namespace Pattern

/-- The second place can be reached from the first by the pattern. -/
def Leads : Pattern → Place → Place → Prop
  | .empty, a, b => b = a
  | .run accepts least most, a, b =>
    ∃ span, a.Spans span b ∧ b.kept = a.kept ∧ (∀ c ∈ span, accepts c = true) ∧
      least ≤ span.length ∧ ∀ m ∈ most, span.length ≤ m
  | .seq first second, a, c => ∃ b, first.Leads a b ∧ second.Leads b c
  | .either first second, a, b => first.Leads a b ∨ second.Leads a b
  | .many inner, a, b => Relation.ReflTransGen inner.Leads a b
  | .boundary, a, b => isBoundary a = true ∧ b = a
  | .capture index inner, a, b =>
    ∃ stop, inner.Leads a stop ∧ b = { stop with kept := (index, a.rest, stop.rest) :: stop.kept }

/-! ## Every outcome is a place to which the pattern leads -/

theorem mem_runFrom {accepts : Char → Bool} {kept : List (Nat × List Char × List Char)} {b : Place} :
    ∀ (limit : Nat) {least : Nat} {before : Option Char} {rest : List Char} {nearer : List Place},
    b ∈ runFrom accepts kept least limit before rest nearer →
    b ∈ nearer ∨ ∃ span, Place.Spans ⟨before, rest, kept⟩ span b ∧ b.kept = kept ∧
      (∀ c ∈ span, accepts c = true) ∧ least ≤ span.length ∧ span.length ≤ limit := by
  have hhere : ∀ {least limit : Nat} {a : Place} {nearer : List Place}, a.kept = kept →
      b ∈ (if least = 0 then a :: nearer else nearer) →
      b ∈ nearer ∨ ∃ span, a.Spans span b ∧ b.kept = kept ∧
        (∀ c ∈ span, accepts c = true) ∧ least ≤ span.length ∧ span.length ≤ limit := by
    intro least limit a nearer ha hb
    by_cases hleast : least = 0
    · rw [if_pos hleast] at hb
      rcases List.mem_cons.mp hb with rfl | hb
      · exact .inr ⟨[], .refl b, ha, nofun, by simp [hleast], by simp⟩
      · exact .inl hb
    · rw [if_neg hleast] at hb
      exact .inl hb
  intro limit
  induction limit with
  | zero =>
    intro least before rest nearer hb
    simp only [runFrom] at hb
    exact hhere rfl hb
  | succ limit ih =>
    intro least before rest nearer hb
    cases rest with
    | nil =>
      simp only [runFrom] at hb
      exact hhere rfl hb
    | cons c tail =>
      simp only [runFrom] at hb
      by_cases hc : accepts c = true
      · rw [if_pos hc] at hb
        rcases ih hb with hb | ⟨span, hspan, hkept, haccepts, hleast, hlimit⟩
        · exact hhere rfl hb
        · have hone : Place.Spans ⟨before, c :: tail, kept⟩ [c] ⟨some c, tail, kept⟩ := ⟨rfl, rfl⟩
          refine .inr ⟨c :: span, hone.trans hspan, hkept, ?_, ?_, ?_⟩
          · simpa [hc] using haccepts
          · rw [List.length_cons]
            omega
          · rw [List.length_cons]
            omega
      · rw [if_neg hc] at hb
        exact hhere rfl hb

theorem reaches_of_mem_iterate {step : Place → List Place} : ∀ (limit : Nat) {a b : Place},
    b ∈ iterate step limit a → Relation.ReflTransGen (fun a b => b ∈ step a) a b := by
  intro limit
  induction limit with
  | zero =>
    intro a b hb
    rw [List.mem_singleton.mp hb]
  | succ limit ih =>
    intro a b hb
    rw [iterate, List.mem_append, List.mem_singleton, List.mem_flatMap] at hb
    rcases hb with ⟨next, hnext, hb⟩ | rfl
    · exact .head hnext (ih hb)
    · exact .refl

theorem leads_of_mem_outcomes (p : Pattern) {a b : Place} (h : b ∈ p.outcomes a) : p.Leads a b := by
  induction p generalizing a b with
  | empty => exact List.mem_singleton.mp h
  | run accepts least most =>
    rcases mem_runFrom _ h with h | ⟨span, hspan, hkept, haccepts, hleast, hlimit⟩
    · exact absurd h List.not_mem_nil
    · refine ⟨span, hspan, hkept, haccepts, hleast, fun m hm => ?_⟩
      rwa [Option.mem_def.mp hm] at hlimit
  | seq first second ihFirst ihSecond =>
    obtain ⟨next, hnext, hb⟩ := List.mem_flatMap.mp h
    exact ⟨next, ihFirst hnext, ihSecond hb⟩
  | either first second ihFirst ihSecond =>
    exact (List.mem_append.mp h).imp ihFirst ihSecond
  | many inner ih =>
    exact Relation.ReflTransGen.mono (fun _ _ => ih) _ _ (reaches_of_mem_iterate _ h)
  | boundary =>
    rw [outcomes] at h
    split at h
    · exact ⟨‹_›, List.mem_singleton.mp h⟩
    · exact absurd h List.not_mem_nil
  | capture index inner ih =>
    obtain ⟨stop, hstop, rfl⟩ := List.mem_map.mp h
    exact ⟨stop, ih hstop, rfl⟩

/-- From one place to the other there is some text. -/
theorem Leads.spans {p : Pattern} {a b : Place} (h : p.Leads a b) : ∃ span, a.Spans span b := by
  induction p generalizing a b with
  | empty =>
    cases h
    exact ⟨[], .refl a⟩
  | run accepts least most =>
    obtain ⟨span, hspan, -⟩ := h
    exact ⟨span, hspan⟩
  | seq first second ihFirst ihSecond =>
    obtain ⟨next, hfirst, hsecond⟩ := h
    obtain ⟨one, hone⟩ := ihFirst hfirst
    obtain ⟨two, htwo⟩ := ihSecond hsecond
    exact ⟨one ++ two, hone.trans htwo⟩
  | either first second ihFirst ihSecond => exact h.elim ihFirst ihSecond
  | many inner ih =>
    induction h with
    | refl => exact ⟨[], .refl a⟩
    | tail _ hstep ihSteps =>
      obtain ⟨one, hone⟩ := ihSteps
      obtain ⟨two, htwo⟩ := ih hstep
      exact ⟨one ++ two, hone.trans htwo⟩
  | boundary =>
    rw [h.2]
    exact ⟨[], .refl a⟩
  | capture index inner ih =>
    obtain ⟨stop, hstop, rfl⟩ := h
    obtain ⟨span, hspan⟩ := ih hstop
    exact ⟨span, hspan.keep _⟩

/-! ## What a match keeps -/

/-- The patterns whose texts are kept under a number. -/
def captured (index : Nat) : Pattern → List Pattern
  | .empty | .run _ _ _ | .boundary => []
  | .seq first second | .either first second => first.captured index ++ second.captured index
  | .many inner => inner.captured index
  | .capture i inner => (if i = index then [inner] else []) ++ inner.captured index

/-- A text is kept, or was kept before, if a pattern under its number leads over it. -/
theorem Leads.kept {p : Pattern} {a b : Place} (h : p.Leads a b) {index : Nat}
    {first last : List Char} (hk : (index, first, last) ∈ b.kept) :
    (index, first, last) ∈ a.kept ∨ ∃ inner ∈ p.captured index, ∃ left s e,
      a.Spans left s ∧ inner.Leads s e ∧ s.rest = first ∧ e.rest = last := by
  induction p generalizing a b with
  | empty =>
    cases h
    exact .inl hk
  | run accepts least most =>
    obtain ⟨span, -, hkept, -⟩ := h
    rw [hkept] at hk
    exact .inl hk
  | seq p q ihFirst ihSecond =>
    obtain ⟨next, hfirst, hsecond⟩ := h
    rcases ihSecond hsecond hk with hk | ⟨inner, hinner, left, s, e, hleft, hrest⟩
    · refine (ihFirst hfirst hk).imp_right ?_
      rintro ⟨inner, hinner, hrest⟩
      exact ⟨inner, List.mem_append_left _ hinner, hrest⟩
    · obtain ⟨one, hone⟩ := hfirst.spans
      exact .inr ⟨inner, List.mem_append_right _ hinner, one ++ left, s, e, hone.trans hleft, hrest⟩
  | either p q ihFirst ihSecond =>
    rcases h with h | h
    · refine (ihFirst h hk).imp_right ?_
      rintro ⟨inner, hinner, hrest⟩
      exact ⟨inner, List.mem_append_left _ hinner, hrest⟩
    · refine (ihSecond h hk).imp_right ?_
      rintro ⟨inner, hinner, hrest⟩
      exact ⟨inner, List.mem_append_right _ hinner, hrest⟩
  | many p ih =>
    induction h with
    | refl => exact .inl hk
    | tail hsteps hstep ihSteps =>
      rcases ih hstep hk with hk | ⟨inner, hinner, left, s, e, hleft, hrest⟩
      · exact ihSteps hk
      · obtain ⟨one, hone⟩ := Leads.spans (p := .many p) hsteps
        exact .inr ⟨inner, hinner, one ++ left, s, e, hone.trans hleft, hrest⟩
  | boundary =>
    rw [h.2] at hk
    exact .inl hk
  | capture i p ih =>
    obtain ⟨stop, hstop, rfl⟩ := h
    rcases List.mem_cons.mp hk with hk | hk
    · cases hk
      refine .inr ⟨p, ?_, [], a, stop, .refl a, hstop, rfl, rfl⟩
      rw [captured, if_pos rfl]
      exact List.mem_cons_self
    · refine (ih hstop hk).imp_right ?_
      rintro ⟨inner, hinner, hrest⟩
      exact ⟨inner, List.mem_append_right _ hinner, hrest⟩

/-- The place is the end of a match in the text. -/
def Matches (p : Pattern) (text : List Char) (b : Place) : Prop :=
  ∃ a : Place, a.IsIn text ∧ a.kept = [] ∧ p.Leads a b

variable {p : Pattern} {text : List Char} {b : Place}

theorem matches_of_findFrom {before : Option Char} {rest : List Char}
    (hin : Place.IsIn text ⟨before, rest, []⟩) (h : p.findFrom before rest = some b) :
    p.Matches text b := by
  induction rest generalizing before with
  | nil =>
    unfold findFrom at h
    split at h
    · rename_i place more houtcomes
      cases h
      exact ⟨_, hin, rfl, leads_of_mem_outcomes p (houtcomes ▸ List.mem_cons_self)⟩
    · cases h
  | cons c tail ih =>
    unfold findFrom at h
    split at h
    · rename_i place more houtcomes
      cases h
      exact ⟨_, hin, rfl, leads_of_mem_outcomes p (houtcomes ▸ List.mem_cons_self)⟩
    · have hnext : Place.Spans ⟨before, c :: tail, []⟩ [c] ⟨some c, tail, []⟩ := ⟨rfl, rfl⟩
      exact ih (hin.spans hnext) h

theorem matches_of_find? (h : p.find? text = some b) : p.Matches text b :=
  matches_of_findFrom ⟨[], .refl _⟩ h

theorem matches_of_findAll (h : b ∈ p.findAll text) : p.Matches text b := by
  have hrun : ∀ (fuel : Nat) {before : Option Char} {rest : List Char},
      Place.IsIn text ⟨before, rest, []⟩ → b ∈ p.findAllFrom fuel before rest →
      p.Matches text b := by
    intro fuel
    induction fuel with
    | zero =>
      intro before rest _ hb
      exact absurd hb List.not_mem_nil
    | succ fuel ih =>
      intro before rest hin hb
      rw [findAllFrom] at hb
      split at hb
      · exact absurd hb List.not_mem_nil
      · rename_i place hplace
        have hmatch := matches_of_findFrom hin hplace
        rcases List.mem_cons.mp hb with rfl | hb
        · exact hmatch
        · obtain ⟨a, ha, -, hleads⟩ := hmatch
          obtain ⟨span, hspan⟩ := hleads.spans
          exact ih (ha.spans (hspan.keep [])) hb
  exact hrun _ ⟨[], .refl _⟩ h

/-- A text that a match has kept. -/
theorem Matches.text? (h : p.Matches text b) {index : Nat} {t : List Char}
    (ht : b.text? index = some t) :
    ∃ inner ∈ p.captured index, ∃ s e, s.IsIn text ∧ inner.Leads s e ∧ s.Spans t e := by
  obtain ⟨a, hin, hnone, hleads⟩ := h
  obtain ⟨⟨i, first, last⟩, hfind, rfl⟩ := Option.map_eq_some_iff.mp ht
  have hi : i = index := by simpa using List.find?_some hfind
  subst hi
  rcases hleads.kept (List.mem_of_find?_eq_some hfind) with
    hk | ⟨inner, hinner, left, s, e, hleft, hlead, rfl, rfl⟩
  · rw [hnone] at hk
    exact absurd hk List.not_mem_nil
  · obtain ⟨span, hspan⟩ := hlead.spans
    refine ⟨inner, hinner, s, e, hin.spans hleft, hlead, ?_⟩
    show s.Spans (s.rest.take (s.rest.length - e.rest.length)) e
    rwa [hspan.take]

theorem Matches.text?_block (h : p.Matches text b) {index : Nat} {t : List Char}
    (ht : b.text? index = some t) : t <:+: text := by
  obtain ⟨-, -, s, e, hin, -, hspan⟩ := h.text? ht
  exact hin.block hspan

/-! ## The text of a match -/

/-- The pattern goes over characters of this class only. -/
def Over (ok : Char → Bool) : Pattern → Prop
  | .empty | .boundary => True
  | .run accepts _ _ => ∀ c, accepts c = true → ok c = true
  | .seq first second | .either first second => first.Over ok ∧ second.Over ok
  | .many inner | .capture _ inner => inner.Over ok

/-- The pattern goes over so many characters or more. -/
def least : Pattern → Nat
  | .empty | .boundary | .many _ => 0
  | .run _ n _ => n
  | .seq first second => first.least + second.least
  | .either first second => min first.least second.least
  | .capture _ inner => inner.least

theorem Leads.over {ok : Char → Bool} {p : Pattern} {a b : Place} (hok : p.Over ok)
    (h : p.Leads a b) : ∃ span, a.Spans span b ∧ ∀ c ∈ span, ok c = true := by
  induction p generalizing a b with
  | empty =>
    cases h
    exact ⟨[], .refl a, nofun⟩
  | run accepts least most =>
    obtain ⟨span, hspan, -, haccepts, -⟩ := h
    exact ⟨span, hspan, fun c hc => hok c (haccepts c hc)⟩
  | seq first second ihFirst ihSecond =>
    obtain ⟨next, hfirst, hsecond⟩ := h
    obtain ⟨one, hone, hokOne⟩ := ihFirst hok.1 hfirst
    obtain ⟨two, htwo, hokTwo⟩ := ihSecond hok.2 hsecond
    exact ⟨one ++ two, hone.trans htwo, List.forall_mem_append.mpr ⟨hokOne, hokTwo⟩⟩
  | either first second ihFirst ihSecond => exact h.elim (ihFirst hok.1) (ihSecond hok.2)
  | many inner ih =>
    induction h with
    | refl => exact ⟨[], .refl a, nofun⟩
    | tail _ hstep ihSteps =>
      obtain ⟨one, hone, hokOne⟩ := ihSteps
      obtain ⟨two, htwo, hokTwo⟩ := ih hok hstep
      exact ⟨one ++ two, hone.trans htwo, List.forall_mem_append.mpr ⟨hokOne, hokTwo⟩⟩
  | boundary =>
    rw [h.2]
    exact ⟨[], .refl a, nofun⟩
  | capture index inner ih =>
    obtain ⟨stop, hstop, rfl⟩ := h
    obtain ⟨span, hspan, hall⟩ := ih hok hstop
    exact ⟨span, hspan.keep _, hall⟩

theorem Leads.least_le {p : Pattern} {a b : Place} (h : p.Leads a b) {span : List Char}
    (hspan : a.Spans span b) : p.least ≤ span.length := by
  induction p generalizing a b span with
  | empty => exact Nat.zero_le _
  | run accepts least most =>
    obtain ⟨span', hspan', -, -, hleast, -⟩ := h
    rwa [hspan.unique hspan']
  | seq first second ihFirst ihSecond =>
    obtain ⟨next, hfirst, hsecond⟩ := h
    obtain ⟨one, hone⟩ := hfirst.spans
    obtain ⟨two, htwo⟩ := hsecond.spans
    rw [hspan.unique (hone.trans htwo), List.length_append]
    exact Nat.add_le_add (ihFirst hfirst hone) (ihSecond hsecond htwo)
  | either first second ihFirst ihSecond =>
    rcases h with h | h
    · exact Nat.le_trans (Nat.min_le_left _ _) (ihFirst h hspan)
    · exact Nat.le_trans (Nat.min_le_right _ _) (ihSecond h hspan)
  | many inner ih => exact Nat.zero_le _
  | boundary => exact Nat.zero_le _
  | capture index inner ih =>
    obtain ⟨stop, hstop, rfl⟩ := h
    exact ih hstop ⟨hspan.rest, hspan.before⟩

/-! ## Patterns one after another -/

theorem leads_all_cons {p : Pattern} {ps : List Pattern} {a c : Place} :
    (all (p :: ps)).Leads a c ↔ ∃ b, p.Leads a b ∧ (all ps).Leads b c := by
  cases ps with
  | nil =>
    constructor
    · exact fun h => ⟨c, h, rfl⟩
    · rintro ⟨b, h, rfl⟩
      exact h
  | cons q ps => exact Iff.rfl

theorem leads_all_append {ps qs : List Pattern} {a c : Place} :
    (all (ps ++ qs)).Leads a c ↔ ∃ b, (all ps).Leads a b ∧ (all qs).Leads b c := by
  induction ps generalizing a with
  | nil =>
    constructor
    · exact fun h => ⟨a, rfl, h⟩
    · rintro ⟨b, rfl, h⟩
      exact h
  | cons p ps ih =>
    rw [List.cons_append, leads_all_cons]
    constructor
    · rintro ⟨b, hp, hrest⟩
      obtain ⟨b', hps, hqs⟩ := ih.mp hrest
      exact ⟨b', leads_all_cons.mpr ⟨b, hp, hps⟩, hqs⟩
    · rintro ⟨b', hps, hqs⟩
      obtain ⟨b, hp, hps⟩ := leads_all_cons.mp hps
      exact ⟨b, hp, ih.mpr ⟨b', hps, hqs⟩⟩

/-- A pattern that keeps a text up to a boundary of words. -/
theorem leads_capture_boundary (gap : List Pattern) {index : Nat} {inner : Pattern} {a b : Place}
    (h : (all (gap ++ [.capture index inner, .boundary])).Leads a b) :
    ∃ s e t, (all gap).Leads a s ∧ inner.Leads s e ∧ s.Spans t e ∧ isBoundary e = true ∧
      b.text? index = some t := by
  obtain ⟨s, hgap, hrest⟩ := leads_all_append.mp h
  obtain ⟨m, ⟨e, hinner, rfl⟩, hboundary, rfl⟩ := leads_all_cons.mp hrest
  obtain ⟨t, ht⟩ := hinner.spans
  refine ⟨s, e, t, hgap, hinner, ht, hboundary, ?_⟩
  simp [Place.text?, ht.take]

theorem leads_char {c : Char} {a b : Place} (h : (char c).Leads a b) :
    a.rest = c :: b.rest ∧ b.before = some c ∧ b.kept = a.kept := by
  obtain ⟨span, hspan, hkept, hall, hleast, hmost⟩ := h
  obtain ⟨d, rfl⟩ := List.length_eq_one_iff.mp (Nat.le_antisymm (hmost 1 rfl) hleast)
  obtain rfl : d = c := beq_iff_eq.mp (hall d List.mem_cons_self)
  exact ⟨hspan.rest, hspan.before, hkept⟩

/-! ## The preferred outcome -/

/-- The farthest place of a repetition comes first. -/
theorem head?_runFrom {accepts : Char → Bool} {kept : List (Nat × List Char × List Char)} :
    ∀ (limit : Nat) {least : Nat} {before : Option Char} {rest : List Char} {nearer : List Place},
    rest.length ≤ limit →
    (runFrom accepts kept least limit before rest nearer).head? =
      if least ≤ (rest.takeWhile accepts).length then
        some ⟨(rest.takeWhile accepts).getLast?.or before, rest.dropWhile accepts, kept⟩
      else nearer.head? := by
  intro limit
  induction limit with
  | zero =>
    intro least before rest nearer hlimit
    have hrest : rest = [] := List.eq_nil_of_length_eq_zero (by omega)
    subst hrest
    by_cases hleast : least = 0 <;> simp [runFrom, hleast]
  | succ limit ih =>
    intro least before rest nearer hlimit
    cases rest with
    | nil => by_cases hleast : least = 0 <;> simp [runFrom, hleast]
    | cons c tail =>
      by_cases hc : accepts c = true
      · have htail : tail.length ≤ limit := by simpa using hlimit
        simp only [runFrom, if_pos hc, List.takeWhile_cons_of_pos hc, List.dropWhile_cons_of_pos hc,
          List.length_cons, ih htail]
        by_cases hleast : least ≤ (tail.takeWhile accepts).length + 1
        · rw [if_pos (by omega), if_pos hleast, List.getLast?_cons]
          cases (tail.takeWhile accepts).getLast? <;> rfl
        · rw [if_neg (by omega), if_neg hleast, if_neg (by omega)]
      · by_cases hleast : least = 0 <;> simp [runFrom, hleast, hc]

/-- The farthest place is at the first character that is not accepted. -/
theorem head?_runFrom_append {accepts : Char → Bool} {kept : List (Nat × List Char × List Char)}
    {least : Nat} {before : Option Char} {span after : List Char} {stop : Char}
    (hspan : ∀ c ∈ span, accepts c = true) (hstop : ¬accepts stop = true)
    (hleast : least ≤ span.length) :
    (runFrom accepts kept least (span ++ stop :: after).length before (span ++ stop :: after)
      []).head? = some ⟨span.getLast?.or before, stop :: after, kept⟩ := by
  rw [head?_runFrom _ (Nat.le_refl _), List.takeWhile_append_of_pos hspan,
    List.dropWhile_append_of_pos hspan, List.takeWhile_cons_of_neg hstop,
    List.dropWhile_cons_of_neg hstop, List.append_nil, if_pos hleast]

theorem outcomes_char (c : Char) (before : Option Char) (rest : List Char)
    (kept : List (Nat × List Char × List Char)) :
    (char c).outcomes ⟨before, c :: rest, kept⟩ = [⟨some c, rest, kept⟩] := by
  simp [char, one, outcomes, runFrom]

theorem findFrom_eq (p : Pattern) (before : Option Char) (rest : List Char) :
    p.findFrom before rest = (p.outcomes ⟨before, rest, []⟩).head?.or
      (match rest with
        | [] => none
        | c :: tail => p.findFrom (some c) tail) := by
  cases rest <;> rw [findFrom] <;> cases p.outcomes _ <;> rfl

end Pattern
end WorkQuery
