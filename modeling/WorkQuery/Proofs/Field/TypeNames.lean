import WorkQuery.Field.Registry
import Mathlib.Data.List.Nodup

/-!
# WorkQuery.Proofs.Field.TypeNames

Names of work item types, and the order in which the synonyms of a registry are gone through.

* `Entries.IsKeyed`: one pair for each key. What is found under a key then depends on no order
  (`Entries.IsKeyed.find?_perm`).
* `Registry.inOrder`: the registry with its synonyms in an order.
* `Registry.exists_order_iff`: what a name that is no synonym leads to in one order or another.
* `normalizeWorkItemType_inOrder`: when the order has no part in it.
* `normalizeWorkItemType_orders`: the names that lead to the same in every order.
-/

namespace WorkQuery

/-! ## Entries in another order -/

namespace Entries

variable {α : Type} {es es' : Entries α} {key : String} {value : α}

/-- No key comes twice. -/
def IsKeyed (es : Entries α) : Prop := (es.map Prod.fst).Nodup

theorem keys_insert (key : String) (value : α) (es : Entries α) :
    (es.insert key value).map Prod.fst = es.map Prod.fst ∨
      key ∉ es.map Prod.fst ∧ (es.insert key value).map Prod.fst = (es.map Prod.fst).concat key := by
  induction es with
  | nil => exact .inr ⟨List.not_mem_nil, rfl⟩
  | cons e es ih =>
    obtain ⟨k, v⟩ := e
    by_cases hk : k = key
    · subst hk
      exact .inl (by simp [insert])
    · rw [insert, if_neg hk]
      refine ih.imp (congrArg (k :: ·)) fun ⟨hnew, hkeys⟩ => ⟨?_, congrArg (k :: ·) hkeys⟩
      exact List.not_mem_cons_of_ne_of_not_mem (Ne.symm hk) hnew

theorem IsKeyed.insert (h : es.IsKeyed) (key : String) (value : α) :
    (es.insert key value).IsKeyed := by
  rcases keys_insert key value es with hkeys | ⟨hnew, hkeys⟩
  · rwa [IsKeyed, hkeys]
  · rw [IsKeyed, hkeys]
    exact List.Nodup.concat hnew h

theorem IsKeyed.find?_eq_some_iff (h : es.IsKeyed) :
    es.find? key = some value ↔ (key, value) ∈ es := by
  induction es with
  | nil => simp [find?]
  | cons e es ih =>
    obtain ⟨k, v⟩ := e
    obtain ⟨hnew, hes⟩ := List.nodup_cons.mp h
    by_cases hk : k = key
    · subst hk
      have hlater : (k, value) ∉ es := fun hmem => hnew (List.mem_map.mpr ⟨_, hmem, rfl⟩)
      simp [find?, hlater, eq_comm]
    · rw [find?, if_neg hk, ih hes]
      simp [Ne.symm hk]

theorem IsKeyed.perm (h : es.IsKeyed) (horder : es'.Perm es) : es'.IsKeyed :=
  (horder.map Prod.fst).nodup_iff.mpr h

theorem IsKeyed.find?_perm (h : es.IsKeyed) (horder : es'.Perm es) (key : String) :
    es'.find? key = es.find? key := by
  refine Option.ext fun value => ?_
  rw [(h.perm horder).find?_eq_some_iff, h.find?_eq_some_iff, horder.mem_iff]

end Entries

namespace Registry

/-! ## Synonyms one after another -/

/-- The registry with further synonyms of work item types, one after another. -/
def withTypeSynonyms (r : Registry) (synonyms : List (String × String)) : Registry :=
  synonyms.foldl (fun r entry => r.withTypeSynonym entry.1 entry.2) r

theorem resolve?_withTypeSynonyms (r : Registry) (synonyms : List (String × String)) :
    (r.withTypeSynonyms synonyms).resolve? = r.resolve? := by
  induction synonyms generalizing r with
  | nil => rfl
  | cons entry synonyms ih => exact ih (r.withTypeSynonym entry.1 entry.2)

theorem withTypeSynonyms_isKeyed {r : Registry} (h : r.types.IsKeyed)
    (synonyms : List (String × String)) : (r.withTypeSynonyms synonyms).types.IsKeyed := by
  induction synonyms generalizing r with
  | nil => exact h
  | cons entry synonyms ih => exact ih (r := r.withTypeSynonym entry.1 entry.2) (h.insert _ _)

theorem standard_types : standard.types = Standard.workItemTypes := by
  have hfields : ∀ (es : List (String × String × ValueType)) (r : Registry),
      (es.foldl (fun r e => r.insert e.1 ⟨e.2.1, e.2.2⟩) r).types = r.types := by
    intro es
    induction es with
    | nil => exact fun _ => rfl
    | cons e es ih => exact fun r => ih (r.insert e.1 ⟨e.2.1, e.2.2⟩)
  exact hfields _ _

theorem standard_isKeyed : standard.types.IsKeyed := by
  rw [standard_types, Entries.IsKeyed]
  decide +kernel

/-! ## The name of a type in an order of the synonyms -/

variable {r : Registry} {name t : String} {order : Entries String}

def inOrder (r : Registry) (order : Entries String) : Registry := { r with types := order }

/-- The synonyms have no part in how fields are found, in whatever order they are gone through. -/
theorem resolve?_inOrder (r : Registry) (synonyms : List (String × String))
    (order : Entries String) :
    ((r.withTypeSynonyms synonyms).inOrder order).resolve? = r.resolve? :=
  resolve?_withTypeSynonyms r synonyms

/-- The type that the name is a synonym of, in singular or plural. -/
def typeByKey? (r : Registry) (name : String) : Option String :=
  (typeKeys name).findSome? fun key => r.types.find? key

/-- The type is one of the registry, and the name is its name but for case. -/
def IsNamed (r : Registry) (name t : String) : Prop :=
  t ∈ r.types.map Prod.snd ∧ Text.sameIgnoringCase t (Text.trim name) = true

theorem typeByKey?_inOrder (h : r.types.IsKeyed) (horder : order.Perm r.types) (name : String) :
    (r.inOrder order).typeByKey? name = r.typeByKey? name := by
  unfold typeByKey?
  congr 1
  funext key
  exact h.find?_perm horder key

theorem isNamed_inOrder (horder : order.Perm r.types) :
    (r.inOrder order).IsNamed name t ↔ r.IsNamed name t :=
  and_congr_left fun _ => (horder.map Prod.snd).mem_iff

theorem normalizeWorkItemType_of_key (h : r.typeByKey? name = some t) :
    r.normalizeWorkItemType name = ⟨t, true⟩ := by
  unfold typeByKey? at h
  rw [normalizeWorkItemType, h]

theorem normalizeWorkItemType_of_no_key (h : r.typeByKey? name = none) :
    r.normalizeWorkItemType name =
      ((r.types.map Prod.snd).find? fun t => Text.sameIgnoringCase t (Text.trim name)).elim
        ⟨name, false⟩ fun t => ⟨t, true⟩ := by
  unfold typeByKey? at h
  rw [normalizeWorkItemType, h]
  cases (r.types.map Prod.snd).find? fun t => Text.sameIgnoringCase t (Text.trim name) <;> rfl

theorem normalizeWorkItemType_of_unnamed (h : r.typeByKey? name = none)
    (hnone : ∀ t, ¬r.IsNamed name t) : r.normalizeWorkItemType name = ⟨name, false⟩ := by
  rw [normalizeWorkItemType_of_no_key h,
    List.find?_eq_none.mpr fun t ht hsame => hnone t ⟨ht, hsame⟩, Option.elim_none]

theorem exists_isNamed (h : r.typeByKey? name = none) (hname : r.IsNamed name t) :
    ∃ u, r.IsNamed name u ∧ r.normalizeWorkItemType name = ⟨u, true⟩ := by
  have hfound : ((r.types.map Prod.snd).find? fun u =>
      Text.sameIgnoringCase u (Text.trim name)).isSome := List.find?_isSome.mpr ⟨t, hname⟩
  obtain ⟨u, hu⟩ := Option.isSome_iff_exists.mp hfound
  have hsame : Text.sameIgnoringCase u (Text.trim name) = true := by simpa using List.find?_some hu
  rw [normalizeWorkItemType_of_no_key h, hu]
  exact ⟨u, ⟨List.mem_of_find?_eq_some hu, hsame⟩, rfl⟩

/-- A name that is no synonym leads to every type whose name it is but for case, in some order. -/
theorem exists_order_iff (hkeyed : r.types.IsKeyed) (h : r.typeByKey? name = none) :
    (∃ order, order.Perm r.types ∧ (r.inOrder order).normalizeWorkItemType name = ⟨t, true⟩) ↔
      r.IsNamed name t := by
  constructor
  · rintro ⟨order, horder, hresult⟩
    have hkey := (typeByKey?_inOrder hkeyed horder name).trans h
    by_cases hnone : ∀ u, ¬(r.inOrder order).IsNamed name u
    · rw [normalizeWorkItemType_of_unnamed hkey hnone] at hresult
      cases hresult
    · obtain ⟨u, hu⟩ := not_forall_not.mp hnone
      obtain ⟨v, hv, hfound⟩ := exists_isNamed hkey hu
      cases hresult.symm.trans hfound
      exact (isNamed_inOrder horder).mp hv
  · -- an order that begins with a synonym of the type
    rintro ⟨hmem, hsame⟩
    obtain ⟨⟨key, t⟩, hentry, rfl⟩ := List.mem_map.mp hmem
    have horder := (List.perm_cons_erase hentry).symm
    refine ⟨_, horder, ?_⟩
    rw [normalizeWorkItemType_of_no_key ((typeByKey?_inOrder hkeyed horder name).trans h), inOrder,
      List.map_cons, List.find?_cons, hsame]
    rfl

/-- The order has no part in it where the name is found by its key or has one type. -/
theorem normalizeWorkItemType_inOrder (hkeyed : r.types.IsKeyed) (horder : order.Perm r.types)
    (hone : (r.typeByKey? name).isSome ∨ ∀ t u, r.IsNamed name t → r.IsNamed name u → t = u) :
    (r.inOrder order).normalizeWorkItemType name = r.normalizeWorkItemType name := by
  have hsame := typeByKey?_inOrder hkeyed horder name
  cases hkey : r.typeByKey? name with
  | some t => rw [normalizeWorkItemType_of_key (hsame.trans hkey), normalizeWorkItemType_of_key hkey]
  | none =>
    rw [hkey] at hone
    by_cases hnone : ∀ t, ¬r.IsNamed name t
    · rw [normalizeWorkItemType_of_unnamed hkey hnone, normalizeWorkItemType_of_unnamed
        (hsame.trans hkey) fun t ht => hnone t ((isNamed_inOrder horder).mp ht)]
    · obtain ⟨t, ht⟩ := not_forall_not.mp hnone
      obtain ⟨u, hu, hfound⟩ := exists_isNamed (hsame.trans hkey) ((isNamed_inOrder horder).mpr ht)
      obtain ⟨v, hv, hfirst⟩ := exists_isNamed hkey ht
      obtain rfl := hone.resolve_left nofun u v ((isNamed_inOrder horder).mp hu) hv
      rw [hfound, hfirst]

/-- The standard registry with further synonyms. A name leads to the same type in every order of the
synonyms exactly if it is a synonym itself, in singular or plural, or if the types whose name it is but
for case are all written alike. -/
theorem normalizeWorkItemType_orders (synonyms : List (String × String)) (name : String) :
    let r := standard.withTypeSynonyms synonyms
    (∀ order₁ order₂ : Entries String, order₁.Perm r.types → order₂.Perm r.types →
      (r.inOrder order₁).normalizeWorkItemType name =
        (r.inOrder order₂).normalizeWorkItemType name) ↔
      (r.typeByKey? name).isSome ∨ ∀ t u, r.IsNamed name t → r.IsNamed name u → t = u := by
  intro r
  have hkeyed : r.types.IsKeyed := withTypeSynonyms_isKeyed standard_isKeyed synonyms
  constructor
  · intro hsame
    cases hkey : r.typeByKey? name with
    | some t => exact .inl rfl
    | none =>
      refine .inr fun t u ht hu => ?_
      obtain ⟨order₁, horder₁, hresult₁⟩ := (exists_order_iff hkeyed hkey).mpr ht
      obtain ⟨order₂, horder₂, hresult₂⟩ := (exists_order_iff hkeyed hkey).mpr hu
      have hresults := hsame order₁ order₂ horder₁ horder₂
      rw [hresult₁, hresult₂] at hresults
      exact congrArg TypeResolution.name hresults
  · intro hone order₁ order₂ horder₁ horder₂
    rw [normalizeWorkItemType_inOrder hkeyed horder₁ hone,
      normalizeWorkItemType_inOrder hkeyed horder₂ hone]

/-- Two synonyms whose types differ in case only. The name of the type leads to the one or to the
other. -/
theorem normalizeWorkItemType_spike :
    let r := standard.withTypeSynonyms [("research", "Spike"), ("investigation", "SPIKE")]
    r.types.reverse.Perm r.types ∧
      (r.inOrder r.types).normalizeWorkItemType "spike" = ⟨"Spike", true⟩ ∧
      (r.inOrder r.types.reverse).normalizeWorkItemType "spike" = ⟨"SPIKE", true⟩ := by
  intro r
  refine ⟨List.reverse_perm _, ?_, ?_⟩
  · decide +kernel
  · decide +kernel

end Registry
end WorkQuery
