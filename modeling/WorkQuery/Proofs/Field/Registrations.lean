import WorkQuery.Proofs.Query.Standard

/-!
# WorkQuery.Proofs.Field.Registrations

The standard registry with fields added to it one after another.

* `resolve?_extended`: a name leads to the field that was given last under it, as a reference, an
  alias or a friendly name.
* `Registry.IsLatest`: of the fields given, no later one has the same reference.
* `resolve?_reference`: what the reference of a field leads to, once a name has led to the field.
-/

namespace WorkQuery

/-- Of the pairs inserted under a key, the last one is found. -/
theorem Entries.find?_foldl {α β : Type} (key : β → String) (value : β → α) (bs : List β)
    (es : Entries α) (other : String) :
    (bs.foldl (fun es b => es.insert (key b) (value b)) es).find? other =
      ((bs.reverse.find? fun b => key b == other).map value).or (es.find? other) := by
  induction bs generalizing es with
  | nil => rfl
  | cons b bs ih =>
    rw [List.foldl_cons, ih, Entries.find?_insert, List.reverse_cons, List.find?_append]
    -- a later pair decides if there is one under the key, otherwise this pair or the entries before
    cases bs.reverse.find? fun b => key b == other with
    | some c => rfl
    | none =>
      by_cases h : key b = other
      · simp [h]
      · simp [h]

namespace Registry

/-! ## Fields in the order in which they are given -/

/-- The standard registry with fields added under friendly names, in order. -/
def extended (added : List (String × FieldDef)) : Registry :=
  added.foldl (fun r e => r.withField e.1 e.2) standard

/-- The standard fields and then the added ones, each with its friendly key. -/
def keyed (added : List (String × FieldDef)) : List (String × FieldDef) :=
  Standard.fields.map (fun e => (e.1, fieldOf e)) ++ added.map fun e => (friendlyKey e.1, e.2)

def given (added : List (String × FieldDef)) : List FieldDef := (keyed added).map Prod.snd

/-- The standard registry before it has fields. -/
def fieldless : Registry := ⟨[], [], Standard.aliases, Standard.workItemTypes⟩

theorem extended_eq (added : List (String × FieldDef)) :
    extended added = (keyed added).foldl (fun r e => r.insert e.1 e.2) fieldless := by
  rw [keyed, List.foldl_append, List.foldl_map, List.foldl_map]
  rfl

theorem foldl_insert (es : List (String × FieldDef)) (r : Registry) :
    es.foldl (fun r e => r.insert e.1 e.2) r =
      { r with
        byReference := es.foldl (fun found e => found.insert (Text.lower e.2.reference) e.2) r.byReference
        byKey := es.foldl (fun found e => found.insert e.1 e.2) r.byKey } := by
  induction es generalizing r with
  | nil => rfl
  | cons e es ih => rw [List.foldl_cons, ih, List.foldl_cons, List.foldl_cons, insert]

theorem extended_byReference (added : List (String × FieldDef)) (key : String) :
    (extended added).byReference.find? key =
      (given added).reverse.find? fun f => Text.lower f.reference == key := by
  rw [extended_eq, foldl_insert, Entries.find?_foldl, given, ← List.map_reverse, List.find?_map]
  exact Option.or_none

theorem extended_byKey (added : List (String × FieldDef)) (key : String) :
    (extended added).byKey.find? key =
      ((keyed added).reverse.find? fun e => e.1 == key).map Prod.snd := by
  rw [extended_eq, foldl_insert, Entries.find?_foldl]
  exact Option.or_none

theorem extended_aliases (added : List (String × FieldDef)) :
    (extended added).aliases = Standard.aliases := by
  rw [extended_eq, foldl_insert]
  rfl

/-- A name leads to the last field given with that reference, and if there is none, to the last one
given under that alias or friendly name. -/
theorem resolve?_extended (added : List (String × FieldDef)) (name : String) :
    (extended added).resolve? name =
      let bare := String.ofList (unbracketed (Text.trimChars name.toList))
      let key := friendlyKey bare
      ((given added).reverse.find? fun f => Text.lower f.reference == Text.lower bare).or
        (((keyed added).reverse.find? fun e => e.1 == (Entries.find? key Standard.aliases).getD key).map
          Prod.snd) := by
  simp only [resolve?, extended_byReference, extended_byKey, extended_aliases]
  split
  · next f hf => rw [hf, Option.some_or]
  · next hnone => rw [hnone, Option.none_or]

theorem mem_given_of_resolve? {added : List (String × FieldDef)} {name : String} {f : FieldDef}
    (h : (extended added).resolve? name = some f) : f ∈ given added := by
  rw [resolve?_extended] at h
  rcases Option.or_eq_some_iff.mp h with h | ⟨-, h⟩
  · exact List.mem_reverse.mp (List.mem_of_find?_eq_some h)
  · obtain ⟨e, he, rfl⟩ := Option.map_eq_some_iff.mp h
    exact List.mem_map.mpr ⟨e, List.mem_reverse.mp (List.mem_of_find?_eq_some he), rfl⟩

/-! ## The latest field of a reference -/

/-- One of the fields, and no later one has its reference in any case. -/
def IsLatest (fs : List FieldDef) (f : FieldDef) : Prop :=
  ∃ earlier later, fs = earlier ++ f :: later ∧
    ∀ g ∈ later, Text.lower g.reference ≠ Text.lower f.reference

theorem find?_latest_iff {fs : List FieldDef} {key : String} {f : FieldDef} :
    (fs.reverse.find? fun g => Text.lower g.reference == key) = some f ↔
      Text.lower f.reference = key ∧ IsLatest fs f := by
  rw [List.find?_eq_some_iff_append]
  constructor
  · rintro ⟨hkey, later, earlier, hfs, hlater⟩
    have hkey : Text.lower f.reference = key := by simpa using hkey
    have hsplit : fs = earlier.reverse ++ f :: later.reverse := by
      rw [← List.reverse_reverse fs, hfs]
      simp
    refine ⟨hkey, earlier.reverse, later.reverse, hsplit, fun g hg => ?_⟩
    simpa [hkey] using hlater g (List.mem_reverse.mp hg)
  · rintro ⟨hkey, earlier, later, rfl, hlater⟩
    refine ⟨by simp [hkey], later.reverse, earlier.reverse, by simp, fun g hg => ?_⟩
    simpa [← hkey] using hlater g (List.mem_reverse.mp hg)

/-- For every field there is a latest one with its reference. -/
theorem exists_latest {fs : List FieldDef} {f : FieldDef} (h : f ∈ fs) :
    ∃ g, Text.lower g.reference = Text.lower f.reference ∧ IsLatest fs g := by
  have hfound : (fs.reverse.find? fun g => Text.lower g.reference == Text.lower f.reference).isSome := by
    rw [List.find?_isSome]
    exact ⟨f, List.mem_reverse.mpr h, by simp⟩
  obtain ⟨g, hg⟩ := Option.isSome_iff_exists.mp hfound
  exact ⟨g, find?_latest_iff.mp hg⟩

/-! ## Looking up a reference -/

/-- Without blanks at its ends and without brackets. -/
def IsPlain (reference : String) : Prop := Text.trim reference = reference ∧ BracketFree reference

theorem IsPlain.unbracketed {reference : String} (h : IsPlain reference) :
    unbracketed (Text.trimChars reference.toList) = reference.toList ∧
      unbracketed (Text.trimChars ("[" ++ reference ++ "]").toList) = reference.toList := by
  obtain ⟨htrim, hfree⟩ := h
  have htrimmed : Text.trimChars reference.toList = reference.toList := by
    rw [← String.toList_ofList (l := Text.trimChars _), ← Text.trim, htrim]
  have hchars : ("[" ++ reference ++ "]").toList = '[' :: (reference.toList ++ [']']) := by simp
  have hends : Text.trimChars ('[' :: (reference.toList ++ [']'])) =
      '[' :: (reference.toList ++ [']']) := by
    refine Text.trimChars_eq_self (fun c hc => ?_) fun c hc => ?_
    · cases hc
      decide
    · rw [← List.cons_append, List.getLast?_concat] at hc
      cases hc
      decide
  rw [htrimmed, hchars, hends]
  refine ⟨?_, by simp [Registry.unbracketed]⟩
  cases hcs : reference.toList with
  | nil => rfl
  | cons c cs =>
    have hc : c ≠ '[' := by
      rintro rfl
      simp [BracketFree, hcs] at hfree
    unfold Registry.unbracketed
    split
    · next heq =>
      cases heq
      exact absurd rfl hc
    · rfl

theorem resolve?_latest {added : List (String × FieldDef)} {reference : String}
    (hplain : IsPlain reference) {f : FieldDef}
    (hsame : Text.lower f.reference = Text.lower reference) (hlatest : IsLatest (given added) f) :
    (extended added).resolve? reference = some f ∧
      (extended added).resolve? ("[" ++ reference ++ "]") = some f := by
  have hfound := find?_latest_iff.mpr ⟨hsame, hlatest⟩
  obtain ⟨hbare, hbracketed⟩ := hplain.unbracketed
  constructor
  · simp only [resolve?_extended, hbare, String.ofList_toList, hfound, Option.some_or]
  · simp only [resolve?_extended, hbracketed, String.ofList_toList, hfound, Option.some_or]

theorem given_plain {added : List (String × FieldDef)} (hadded : ∀ e ∈ added, IsPlain e.2.reference)
    {f : FieldDef} (hf : f ∈ given added) : IsPlain f.reference := by
  rw [given, keyed, List.map_append, List.map_map, List.map_map] at hf
  rcases List.mem_append.mp hf with hf | hf
  · obtain ⟨htrimmed, -, hfree⟩ := checkReference_ok_iff.mp (standard_mem_refers hf).checks
    exact ⟨htrimmed.symm, hfree⟩
  · obtain ⟨e, he, rfl⟩ := List.mem_map.mp hf
    exact hadded e he

/-- The standard registry with fields added whose references have no blanks at their ends and no
brackets. If a name leads to a field, then the field's reference, in brackets or not, leads to the
latest field given with that reference; and it leads to the same field exactly if no later one has
been given with its reference. -/
theorem resolve?_reference (added : List (String × FieldDef))
    (hadded : ∀ e ∈ added, IsPlain e.2.reference) {name : String} {f : FieldDef}
    (hf : (extended added).resolve? name = some f) :
    (∃ latest, IsLatest (given added) latest ∧
      Text.lower latest.reference = Text.lower f.reference ∧
      (extended added).resolve? f.reference = some latest ∧
      (extended added).resolve? ("[" ++ f.reference ++ "]") = some latest) ∧
    ((extended added).resolve? f.reference = some f ∧
      (extended added).resolve? ("[" ++ f.reference ++ "]") = some f ↔ IsLatest (given added) f) := by
  have hgiven := mem_given_of_resolve? hf
  have hplain := given_plain hadded hgiven
  obtain ⟨latest, hsame, hlatest⟩ := exists_latest hgiven
  have hresolved := resolve?_latest hplain hsame hlatest
  refine ⟨⟨latest, hlatest, hsame, hresolved⟩, fun ⟨hself, _⟩ => ?_, fun h => ?_⟩
  · obtain rfl := Option.some.inj (hresolved.1.symm.trans hself)
    exact hlatest
  · exact resolve?_latest hplain rfl h

/-- A field of its own, found again under its reference. -/
theorem resolve?_reference_customer :
    let added := [("Customer Name", (⟨"Contoso.Customer", .string⟩ : FieldDef))]
    IsPlain "Contoso.Customer" ∧
      (extended added).resolve? "contoso.CUSTOMER" = some ⟨"Contoso.Customer", .string⟩ ∧
      (extended added).resolve? "[Contoso.Customer]" = some ⟨"Contoso.Customer", .string⟩ := by
  intro added
  have hplain : IsPlain "Contoso.Customer" := by
    unfold IsPlain BracketFree
    decide
  have hname : (extended added).resolve? "contoso.CUSTOMER" = some ⟨"Contoso.Customer", .string⟩ := by
    rw [resolve?_extended]
    decide +kernel
  obtain ⟨-, hlatest⟩ := resolve?_reference added (by
    intro e he
    obtain rfl := List.mem_singleton.mp he
    exact hplain) hname
  exact ⟨hplain, hname, (hlatest.mpr ⟨Standard.fields.map fieldOf, [], rfl, nofun⟩).2⟩

/-- The title given again as a number, under another name: by its own name it is still a text. -/
theorem resolve?_titleAgain :
    let added := [("customer", (⟨Reference.title, .integer⟩ : FieldDef))]
    IsPlain Reference.title ∧
      (extended added).resolve? "title" = some ⟨Reference.title, .string⟩ ∧
      (extended added).resolve? Reference.title = some ⟨Reference.title, .integer⟩ ∧
      (extended added).resolve? ("[" ++ Reference.title ++ "]") = some ⟨Reference.title, .integer⟩ := by
  unfold IsPlain BracketFree
  simp only [resolve?_extended]
  decide +kernel

end Registry
end WorkQuery
