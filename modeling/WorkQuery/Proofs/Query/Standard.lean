import WorkQuery.Proofs.Query.WellFormed

/-!
# WorkQuery.Proofs.Query.Standard

What holds of the fields that are found in a registry.

* `Registry.Refers`: the reference of a field can be written in brackets, and the field is found
  under it again.
* `Registry.Lists`: a registry that has been built from fields of different references.
* `Registry.IsClosed`: every field that is found is of this kind, and so are the fields that the
  compiler asks for by itself. The standard registry is closed (`Registry.standard_closed`).
-/

namespace WorkQuery

/-! ## Entries -/

namespace Entries

variable {α : Type}

theorem find?_insert (key other : String) (value : α) (es : Entries α) :
    (es.insert key value).find? other = if key = other then some value else es.find? other := by
  induction es with
  | nil => rfl
  | cons e rest ih =>
    obtain ⟨k, v⟩ := e
    by_cases hk : k = key
    · subst hk
      by_cases hother : k = other <;> simp [insert, find?, hother]
    · rw [insert, if_neg hk, find?, find?, ih]
      by_cases hother : k = other
      · have hne : ¬key = other := fun h => hk (hother.trans h.symm)
        rw [if_pos hother, if_neg hne, if_pos hother]
      · rw [if_neg hother, if_neg hother]

theorem mem_insert {key : String} {value a : α} {es : Entries α}
    (h : a ∈ (es.insert key value).map Prod.snd) : a = value ∨ a ∈ es.map Prod.snd := by
  induction es with
  | nil => exact .inl (List.mem_singleton.mp h)
  | cons e rest ih =>
    obtain ⟨k, v⟩ := e
    by_cases hk : k = key
    · rw [insert, if_pos hk] at h
      rcases List.mem_cons.mp h with rfl | h
      · exact .inl rfl
      · exact .inr (List.mem_cons_of_mem _ h)
    · rw [insert, if_neg hk] at h
      rcases List.mem_cons.mp h with rfl | h
      · exact .inr List.mem_cons_self
      · exact (ih h).imp_right (List.mem_cons_of_mem _)

end Entries

/-! ## Fields of a registry -/

namespace Registry

/-- The reference of the field stands for it wherever it is written. -/
structure Refers (r : Registry) (f : FieldDef) : Prop where
  trimmed : Text.trim f.reference = f.reference
  checks : Quote.checkReference f.reference = .ok f.reference
  resolves : r.resolve? f.reference = some f

/-- Every field that is found is found under its reference, and those that the compiler asks for by
itself are. -/
structure IsClosed (r : Registry) : Prop where
  found : ∀ {name f}, r.resolve? name = some f → r.Refers f
  own : ∀ {f}, f ∈ ownFields → r.Refers f

/-- The fields of a registry, each found under its reference. -/
structure Lists (r : Registry) (fs : List FieldDef) : Prop where
  values : ∀ f ∈ (r.byReference ++ r.byKey).map Prod.snd, f ∈ fs
  found : ∀ f ∈ fs, r.byReference.find? (Text.lower f.reference) = some f

theorem Lists.insert {r : Registry} {fs : List FieldDef} (h : r.Lists fs) (key : String)
    {f : FieldDef} (hnew : ∀ g ∈ fs, Text.lower f.reference ≠ Text.lower g.reference) :
    (r.insert key f).Lists (f :: fs) := by
  refine ⟨fun g hg => ?_, fun g hg => ?_⟩
  · rw [List.map_append, List.mem_append] at hg
    have hold : g = f ∨ g ∈ (r.byReference ++ r.byKey).map Prod.snd := by
      rw [List.map_append, List.mem_append]
      rcases hg with hg | hg
      · exact (Entries.mem_insert hg).imp_right .inl
      · exact (Entries.mem_insert hg).imp_right .inr
    exact List.mem_cons.mpr (hold.imp_right (h.values g))
  · rw [Registry.insert, Entries.find?_insert]
    rcases List.mem_cons.mp hg with rfl | hg
    · rw [if_pos rfl]
    · rw [if_neg (hnew g hg), h.found g hg]

/-- The field of an entry of the standard vocabulary. -/
def fieldOf (e : String × String × ValueType) : FieldDef := ⟨e.2.1, e.2.2⟩

theorem Lists.foldl : ∀ (es : List (String × String × ValueType)) {r : Registry}
    {fs : List FieldDef}, r.Lists fs →
    ((es.map fieldOf).reverse ++ fs).Pairwise (fun f g => Text.lower f.reference ≠ Text.lower g.reference) →
    (es.foldl (fun r e => r.insert e.1 (fieldOf e)) r).Lists ((es.map fieldOf).reverse ++ fs) := by
  intro es
  induction es with
  | nil => intro r fs h _; exact h
  | cons e es ih =>
    intro r fs h hdistinct
    rw [List.map_cons, List.reverse_cons, List.append_assoc, List.singleton_append] at hdistinct ⊢
    have hnew := (List.pairwise_cons.mp (List.pairwise_append.mp hdistinct).2.1).1
    exact ih (h.insert e.1 hnew) hdistinct

/-- A field whose reference has no blanks and no brackets is found under it. -/
theorem Lists.refers {r : Registry} {fs : List FieldDef} (h : r.Lists fs) {f : FieldDef} (hf : f ∈ fs)
    (hne : f.reference.toList ≠ [])
    (hplain : ∀ c ∈ f.reference.toList, Text.isBlank c = false ∧ c ≠ '[' ∧ c ≠ ']') :
    r.Refers f := by
  have htrim : Text.trimChars f.reference.toList = f.reference.toList :=
    Text.trimChars_of_no_blank fun c hc => (hplain c hc).1
  have htrimmed : Text.trim f.reference = f.reference := by rw [Text.trim, htrim, String.ofList_toList]
  have hfree : BracketFree f.reference := by
    rw [BracketFree, List.all_eq_true]
    intro c hc
    simpa using (hplain c hc).2
  refine ⟨htrimmed, checkReference_ok_iff.mpr ⟨htrimmed.symm, hne, hfree⟩, ?_⟩
  have hbare : unbracketed f.reference.toList = f.reference.toList := by
    cases hcs : f.reference.toList with
    | nil => rfl
    | cons c cs =>
      have hc : c ≠ '[' := (hplain c (by simp [hcs])).2.1
      unfold unbracketed
      split
      · rename_i heq
        cases heq
        exact absurd rfl hc
      · rfl
  simp only [resolve?, htrim, hbare, String.ofList_toList, h.found f hf]

/-! ## The standard registry -/

theorem standard_references :
    (Standard.fields.map fun e => Text.lowerChars e.2.1.toList).Nodup ∧
    Standard.fields.all (fun e => !e.2.1.toList.isEmpty &&
      e.2.1.toList.all fun c => !Text.isBlank c && c != '[' && c != ']') = true := by
  decide +kernel

theorem standard_lists : standard.Lists (Standard.fields.map fieldOf).reverse := by
  have hempty : Lists ⟨[], [], Standard.aliases, Standard.workItemTypes⟩ [] := ⟨nofun, nofun⟩
  have hdistinct : ((Standard.fields.map fieldOf).reverse ++ []).Pairwise
      (fun f g : FieldDef => Text.lower f.reference ≠ Text.lower g.reference) := by
    rw [List.append_nil, List.pairwise_reverse, List.pairwise_map]
    refine (List.pairwise_map.mp standard_references.1).imp fun hne hsame => hne ?_
    exact (String.ofList_injective hsame).symm
  have hall := Lists.foldl Standard.fields hempty hdistinct
  rwa [List.append_nil] at hall

theorem standard_mem_refers {f : FieldDef} (h : f ∈ Standard.fields.map fieldOf) :
    standard.Refers f := by
  obtain ⟨e, he, rfl⟩ := List.mem_map.mp h
  have hplain := List.all_eq_true.mp standard_references.2 e he
  simp only [Bool.and_eq_true, Bool.not_eq_true', List.isEmpty_eq_false_iff, List.all_eq_true,
    bne_iff_ne, and_assoc] at hplain
  exact standard_lists.refers (List.mem_reverse.mpr h) hplain.1 hplain.2

theorem standard_mem {name : String} {f : FieldDef} (h : standard.resolve? name = some f) :
    f ∈ Standard.fields.map fieldOf :=
  List.mem_reverse.mp (standard_lists.values f (mem_of_resolve? h))

theorem standard_closed : standard.IsClosed := by
  have hown : ∀ f ∈ ownFields, f ∈ Standard.fields.map fieldOf := by decide
  exact ⟨fun h => standard_mem_refers (standard_mem h), fun {f} h => standard_mem_refers (hown f h)⟩

end Registry
end WorkQuery
