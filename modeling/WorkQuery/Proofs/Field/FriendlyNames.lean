import WorkQuery.Proofs.Field.Registrations
import WorkQuery.Proofs.Text.Runs

/-!
# WorkQuery.Proofs.Field.FriendlyNames

Friendly names under which fields are added to a registry.

* `IsName`, `SameName`: names, and the spellings of a name that differ in case, spaces, dashes and
  underscores. All of them have one key (`SameName.friendlyKey_trim`).
* `resolve?_withField`: when a field is found under the name that it has just been given. A reference
  is looked up before a name, and an alias stands for the name that it abbreviates.
-/

namespace WorkQuery

/-! ## Characters of names -/

namespace Text

theorem lowerChar_toLower (c : Char) : lowerChar c.toLower = lowerChar c := by
  rcases toLower_cases c with h | ⟨hlow, hhigh, hlower⟩
  · rw [h]
  · have hsmall : c.toLower.toLower = c.toLower := (toLower_cases c.toLower).resolve_right (by omega)
    have hascii : isAscii c = true := by simp only [isAscii, decide_eq_true_eq]; omega
    have hascii' : isAscii c.toLower = true := by simp only [isAscii, decide_eq_true_eq]; omega
    rw [lowerChar, if_pos hascii', lowerChar, if_pos hascii, hsmall]

theorem lowerEach_toLower (cs : List Char) : lowerEach (cs.map Char.toLower) = lowerEach cs := by
  simp only [lowerEach, List.flatMap_map, lowerChar_toLower]

/-- Trimming takes nothing away from what a filter keeps of the text, if the filter keeps no blank. -/
theorem filter_trimChars {p : Char → Bool} {cs : List Char}
    (h : ∀ c ∈ cs, isBlank c = true → p c = false) : (trimChars cs).filter p = cs.filter p := by
  have hdrop : ∀ ds : List Char, (∀ c ∈ ds, isBlank c = true → p c = false) →
      (ds.dropWhile isBlank).filter p = ds.filter p := by
    intro ds hds
    induction ds with
    | nil => rfl
    | cons d ds ih =>
      rw [List.dropWhile_cons]
      split
      · next hblank =>
        rw [ih fun c hc => hds c (by simp [hc]), List.filter_cons_of_neg]
        simp [hds d (by simp) hblank]
      · rfl
  have hmid : ∀ c ∈ (cs.dropWhile isBlank).reverse, isBlank c = true → p c = false :=
    fun c hc => h c ((List.dropWhile_sublist _).subset (List.mem_reverse.mp hc))
  rw [trimChars, trimWhere, dropEndWhile, List.filter_reverse, hdrop _ hmid, List.filter_reverse,
    List.reverse_reverse, hdrop cs h]

end Text

namespace Registry

/-! ## Names -/

/-- Whether the character only sets the parts of a name apart. -/
def isGap (c : Char) : Bool := c == ' ' || c == '-' || c == '_'

/-- What is left of a name without the gaps. -/
def nameChars (name : String) : List Char := name.toList.filter fun c => !isGap c

/-- Letters and digits, with spaces, dashes and underscores between them; a letter at least. -/
structure IsName (name : String) : Prop where
  chars : ∀ c ∈ name.toList, Text.isAlphanumeric c = true ∨ isGap c = true
  letter : ∃ c ∈ name.toList, Text.isAlphabetic c = true

/-- Whether a text is a name can be computed. -/
theorem isName_of_all {name : String}
    (hchars : (name.toList.all fun c => Text.isAlphanumeric c || isGap c) = true)
    (hletter : name.toList.any Text.isAlphabetic = true) : IsName name :=
  ⟨by simpa using hchars, by simpa using hletter⟩

/-- The two texts differ at most in the case of ASCII letters and in spaces, dashes and
underscores. -/
def SameName (a b : String) : Prop :=
  (nameChars a).map Char.toLower = (nameChars b).map Char.toLower

theorem friendlyKey_eq (name : String) :
    friendlyKey name = String.ofList (Text.lowerEach (nameChars name)) := by
  simp only [friendlyKey, nameChars, isGap, Bool.not_or]
  rfl

theorem SameName.friendlyKey {a b : String} (h : SameName a b) : friendlyKey a = friendlyKey b := by
  rw [friendlyKey_eq, friendlyKey_eq, ← Text.lowerEach_toLower, h, Text.lowerEach_toLower]

variable {name spelling : String}

/-- A spelling of a name has no blanks but spaces, and no brackets. -/
theorem SameName.char (h : SameName spelling name) (hname : IsName name) {c : Char}
    (hc : c ∈ spelling.toList) : (Text.isBlank c = true → isGap c = true) ∧ c ≠ '[' := by
  cases hgap : isGap c with
  | true =>
    refine ⟨fun _ => rfl, ?_⟩
    rintro rfl
    exact absurd hgap (by decide)
  | false =>
    have hmem : c.toLower ∈ (nameChars name).map Char.toLower := by
      rw [← h]
      exact List.mem_map_of_mem (List.mem_filter.mpr ⟨hc, by simp [hgap]⟩)
    obtain ⟨d, hd, hsame⟩ := List.mem_map.mp hmem
    obtain ⟨hd, hkept⟩ := List.mem_filter.mp hd
    have halnum : Text.isAlphanumeric d = true :=
      (hname.chars d hd).resolve_right (by simpa using hkept)
    refine ⟨fun hblank => ?_, ?_⟩
    · rw [← Text.isBlank_toLower, ← hsame, Text.isBlank_toLower] at hblank
      rw [Text.isAlphanumeric_of_isBlank hblank] at halnum
      cases halnum
    · rintro rfl
      have hbracket : d = '[' := by
        have hcode : d.toLower.toNat = 91 := by rw [hsame]; rfl
        rcases Text.toLower_cases d with heq | ⟨hlow, _, hlower⟩
        · rw [← heq, hsame]
          rfl
        · omega
      subst hbracket
      exact absurd halnum (by decide)

theorem SameName.unbracketed (h : SameName spelling name) (hname : IsName name) :
    unbracketed (Text.trimChars spelling.toList) = Text.trimChars spelling.toList := by
  unfold Registry.unbracketed
  split
  · next rest heq =>
    have hmem : '[' ∈ spelling.toList := Text.mem_trimChars (by rw [heq]; simp)
    exact absurd rfl (h.char hname hmem).2
  · rfl

theorem SameName.friendlyKey_trim (h : SameName spelling name) (hname : IsName name) :
    Registry.friendlyKey (Text.trim spelling) = Registry.friendlyKey name := by
  rw [← h.friendlyKey, friendlyKey_eq, friendlyKey_eq, nameChars, Text.trim, String.toList_ofList,
    Text.filter_trimChars, nameChars]
  intro c hc hblank
  simp [(h.char hname hc).1 hblank]

/-! ## A field under its name -/

theorem extended_concat (added : List (String × FieldDef)) (name : String) (f : FieldDef) :
    extended (added ++ [(name, f)]) = (extended added).withField name f := by
  rw [extended, List.foldl_append]
  rfl

theorem keyed_concat (added : List (String × FieldDef)) (name : String) (f : FieldDef) :
    keyed (added ++ [(name, f)]) = keyed added ++ [(friendlyKey name, f)] := by
  rw [keyed, List.map_append, ← List.append_assoc]
  rfl

theorem given_concat (added : List (String × FieldDef)) (name : String) (f : FieldDef) :
    given (added ++ [(name, f)]) = given added ++ [f] := by
  rw [given, keyed_concat, List.map_append]
  rfl

/-- No alias stands for an alias. -/
theorem alias_target_ne {key target : String}
    (h : Entries.find? key Standard.aliases = some target) : target ≠ key := by
  have hlast : ∀ t ∈ Standard.aliases.map Prod.snd, Entries.find? t Standard.aliases = none := by
    decide +kernel
  rintro rfl
  have hnone := hlast target (Entries.mem_of_find? h)
  rw [h] at hnone
  cases hnone

/-- What any spelling of a new field's name leads to: a field of that reference, the latest one; or
else, for an alias, what the alias stands for; or else the new field. -/
theorem resolve?_spelling (added : List (String × FieldDef)) (hname : IsName name)
    (hsame : SameName spelling name) (f : FieldDef) :
    ((extended added).withField name f).resolve? spelling =
      ((f :: (given added).reverse).find? fun g =>
          Text.lower g.reference == Text.lower (Text.trim spelling)).or
        (match Entries.find? (friendlyKey name) Standard.aliases with
          | some target => (extended added).byKey.find? target
          | none => some f) := by
  rw [← extended_concat, resolve?_extended, given_concat, keyed_concat, hsame.unbracketed hname]
  simp only [List.reverse_append, List.reverse_singleton, List.singleton_append]
  rw [← Text.trim, hsame.friendlyKey_trim hname]
  cases halias : Entries.find? (friendlyKey name) Standard.aliases with
  | none => simp
  | some target =>
    have hne : (friendlyKey name == target) = false := by
      simpa using (alias_target_ne halias).symm
    simp only [Option.getD_some, List.find?_cons, hne, extended_byKey]

/-- A field added under a name is found under every spelling of it exactly if the spelling is the
field's own reference, or if it is the reference of no field given before and the name is not an
alias, save one for the very same field. -/
theorem resolve?_withField (added : List (String × FieldDef)) (hname : IsName name)
    (hsame : SameName spelling name) (f : FieldDef) :
    ((extended added).withField name f).resolve? spelling = some f ↔
      Text.lower f.reference = Text.lower (Text.trim spelling) ∨
        (∀ g ∈ given added, Text.lower g.reference ≠ Text.lower (Text.trim spelling)) ∧
          ∀ target, Entries.find? (friendlyKey name) Standard.aliases = some target →
            (extended added).byKey.find? target = some f := by
  rw [resolve?_spelling added hname hsame]
  by_cases hown : Text.lower f.reference = Text.lower (Text.trim spelling)
  · simp [hown]
  · rw [List.find?_cons_of_neg (by simpa using hown)]
    cases hfound : (given added).reverse.find? fun g =>
        Text.lower g.reference == Text.lower (Text.trim spelling) with
    | some g =>
      -- a field given before has the reference, so it is found, and it is not the new one
      have hg : Text.lower g.reference = Text.lower (Text.trim spelling) := by
        simpa using List.find?_some hfound
      have hmem : g ∈ given added := List.mem_reverse.mp (List.mem_of_find?_eq_some hfound)
      have hne : g ≠ f := by
        rintro rfl
        exact hown hg
      simp only [Option.some_or, Option.some.injEq, hne, hown, false_or, false_iff]
      exact fun hnone => hnone.1 g hmem hg
    | none =>
      have hnone : ∀ g ∈ given added, Text.lower g.reference ≠ Text.lower (Text.trim spelling) := by
        intro g hg
        simpa using List.find?_eq_none.mp hfound g (List.mem_reverse.mpr hg)
      simp only [Option.none_or, hown, false_or, and_iff_right hnone]
      cases Entries.find? (friendlyKey name) Standard.aliases with
      | none => simp
      | some target => simp

/-- A field under a name of two words, found with other case and gaps beside a field of a similar
name. -/
theorem resolve?_withField_tier :
    let added := [("Customer", (⟨"Contoso.Customer", .identity⟩ : FieldDef))]
    let tier : FieldDef := ⟨"Contoso.Tier", .integer⟩
    IsName "Customer Tier" ∧ SameName "customer_TIER" "Customer Tier" ∧
      ((extended added).withField "Customer Tier" tier).resolve? "customer_TIER" = some tier := by
  intro added tier
  have hname : IsName "Customer Tier" := isName_of_all (by decide +kernel) (by decide +kernel)
  have hsame : SameName "customer_TIER" "Customer Tier" := by
    unfold SameName
    decide
  refine ⟨hname, hsame, (resolve?_withField added hname hsame tier).mpr (.inr ⟨?_, ?_⟩)⟩
  · decide +kernel
  · have hnone : Entries.find? (friendlyKey "Customer Tier") Standard.aliases = none := by
      decide +kernel
    rw [hnone]
    exact nofun

/-- A field added under the name Sprint is not found under it: that name still leads to the path of
the iteration. -/
theorem resolve?_sprint :
    IsName "Sprint" ∧ SameName "Sprint" "Sprint" ∧ IsPlain "Contoso.Sprint" ∧
      (standard.withField "Sprint" ⟨"Contoso.Sprint", .string⟩).resolve? "Sprint"
        = some ⟨Reference.iterationPath, .treePath⟩ := by
  have hname : IsName "Sprint" := isName_of_all (by decide +kernel) (by decide +kernel)
  have hplain : IsPlain "Contoso.Sprint" := by
    unfold IsPlain BracketFree
    decide
  refine ⟨hname, rfl, hplain, ?_⟩
  have hstandard : standard = extended [] := by rw [extended, List.foldl_nil]
  rw [hstandard, resolve?_spelling [] hname rfl]
  simp only [extended_byKey]
  decide +kernel

end Registry
end WorkQuery
