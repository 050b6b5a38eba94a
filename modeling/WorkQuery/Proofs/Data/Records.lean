import WorkQuery.Data.Decode
import WorkQuery.Proofs.Outcome
import Mathlib.Data.List.Nodup

/-!
# WorkQuery.Proofs.Data.Records

The fields of a record.

* `fields?_record`, `fields?_list`: what `fields?` takes from a record and from a list of fields.
* `field?`: one field by its name.
* `present`: the members of a record that has these fields, in order, and leaves out the absent ones;
  `fields?_present` reads them back.
-/

namespace WorkQuery
namespace Data

variable {names : List String} {members : List (String × Data)} {items : List Data}
  {given : List (Option Data)}

theorem fields?_record : fields? true names (.record members) = some given ↔
    (∀ m ∈ members, m.1 ∈ names) ∧ (members.map Prod.fst).Nodup ∧
      names.map (fun name => (members.find? fun m => m.1 == name).map Prod.snd) = given := by
  simp only [fields?]
  by_cases hall : ∀ m ∈ members, m.1 ∈ names
  · have hknown : members.filter (fun m => names.contains m.1) = members := by
      simpa [List.filter_eq_self] using hall
    rw [hknown, and_iff_right hall]
    by_cases hnodup : (members.map Prod.fst).Nodup
    · simp [hnodup]
    · simp [hnodup]
  · have hfewer : (members.filter fun m => names.contains m.1).length ≠ members.length := by
      simpa [List.length_filter_eq_length_iff] using hall
    rw [if_pos (by simpa using hfewer)]
    simp only [eq_false hall, false_and, reduceCtorEq]

theorem fields?_list {closed : Bool} : fields? closed names (.list items) = some given ↔
    items.length ≤ names.length ∧
      items.map some ++ List.replicate (names.length - items.length) none = given := by
  simp [fields?]

/-- What stands in a record under a name that is not repeated. -/
theorem find?_member {before after : List (String × Data)} {name : String} {d : Data}
    (h : ((before ++ (name, d) :: after).map Prod.fst).Nodup) :
    (before ++ (name, d) :: after).find? (fun m => m.1 == name) = some (name, d) := by
  rw [List.map_append, List.map_cons, List.nodup_middle, List.nodup_cons] at h
  have hbefore : before.find? (fun m => m.1 == name) = none := by
    rw [List.find?_eq_none]
    intro m hm hname
    rw [beq_iff_eq] at hname
    exact h.1 (List.mem_append.mpr (.inl (List.mem_map.mpr ⟨m, hm, hname⟩)))
  rw [List.find?_append, hbefore]
  simp

/-! ## One field -/

/-- The field of that name: in a record the member, in a list of the fields the item in its place. -/
def field? (names : List String) (name : String) : Data → Option Data
  | .record members => (members.find? fun m => m.1 == name).map Prod.snd
  | .list items => items[names.idxOf name]?
  | _ => none

theorem field?_of_fields? {d : Data} {name : String} (h : d.fields? true names = some given)
    (hname : name ∈ names) : given[names.idxOf name]? = some (d.field? names name) := by
  have hplace : names.idxOf name < names.length := List.idxOf_lt_length_iff.mpr hname
  cases d with
  | record members =>
    obtain ⟨-, -, rfl⟩ := fields?_record.mp h
    simp [field?, hplace]
  | list items =>
    obtain ⟨hshort, rfl⟩ := fields?_list.mp h
    rw [field?]
    by_cases hitem : names.idxOf name < items.length
    · rw [List.getElem?_append_left (by simpa using hitem), List.getElem?_map,
        List.getElem?_eq_getElem hitem]
      rfl
    · rw [List.getElem?_append_right (by simpa using hitem), List.getElem?_replicate,
        List.getElem?_eq_none (by simpa using hitem), if_pos (by simp only [List.length_map]; omega)]
  | _ => cases h

/-! ## Scalars, and fields that have to be there -/

theorem required?_some {α : Type} (decode : Data → Option α) (d : Data) :
    required? decode (some d) = decode d := rfl

theorem string?_string (s : String) : (Data.string s).string? = some s := rfl

theorem uint64?_ofNat {n : Nat} (h : n ≤ Numeral.maxUInt64) : (ofNat n).uint64? = some n :=
  if_pos h

theorem uint64?_le {d : Data} {n : Nat} (h : d.uint64? = some n) : n ≤ Numeral.maxUInt64 := by
  unfold uint64? natUpTo? at h
  split at h
  · split at h
    · next hle =>
      cases h
      exact hle
    · cases h
  · cases h

theorem int64?_integer {n : Int} (h : Numeral.isInt64 n = true) : (integer n).int64? = some n :=
  if_pos h

theorem isInt64_of_int64? {d : Data} {n : Int} (h : d.int64? = some n) : Numeral.isInt64 n = true := by
  unfold int64? at h
  split at h
  · split at h
    · next hfits =>
      cases h
      exact hfits
    · cases h
  · cases h

/-! ## Fields that may be absent -/

section Options

variable {α : Type} {decode : Data → Option α} {encode : α → Data}

theorem optional?_of_ne_null {d : Data} (h : d ≠ .null) :
    d.optional? decode = (decode d).map some := by
  unfold Data.optional?
  split
  · exact absurd rfl h
  · rfl

/-- A value of an option is the value of its field. -/
theorem maybe?_some {field : Option Data} {a : α} (h : maybe? decode field = some (some a)) :
    field.bind decode = some a := by
  cases field with
  | none => cases h
  | some d =>
    by_cases hd : d = .null
    · rw [hd] at h
      cases h
    · rw [maybe?, optional?_of_ne_null hd] at h
      obtain ⟨_, hvalue, hsame⟩ := Option.map_eq_some_iff.mp h
      cases hsame
      exact hvalue

theorem maybe?_map {o : Option α} (hnull : ∀ a, encode a ≠ .null)
    (h : ∀ a ∈ o, decode (encode a) = some a) : maybe? decode (o.map encode) = some o := by
  cases o with
  | none => rfl
  | some a => simp [maybe?, optional?_of_ne_null (hnull a), h a rfl]

theorem list?_map {as : List α} (h : ∀ a ∈ as, decode (encode a) = some a) :
    list? decode (.list (as.map encode)) = some as := by
  rw [list?, mapM_some_iff, List.forall₂_map_left_iff, List.forall₂_same]
  exact h

/-- Every value of a list that is read has been read from something. -/
theorem exists_of_list? {d : Data} {as : List α} (h : list? decode d = some as) {a : α} (ha : a ∈ as) :
    ∃ item, decode item = some a := by
  cases d with
  | list items =>
    obtain ⟨item, -, hitem⟩ := exists_left_of_mem (mapM_some_iff.mp h) ha
    exact ⟨item, hitem⟩
  | _ => cases h

theorem exists_of_withDefault?_list {field : Option Data} {as : List α}
    (h : withDefault? [] (list? decode) field = some as) {a : α} (ha : a ∈ as) :
    ∃ item, decode item = some a := by
  cases field with
  | none =>
    cases h
    cases ha
  | some d => exact exists_of_list? h ha

/-- The field of a list, which is left out where the list is empty. -/
def listField (encode : α → Data) : List α → Option Data
  | [] => none
  | as => some (.list (as.map encode))

theorem withDefault?_listField {as : List α} (h : ∀ a ∈ as, decode (encode a) = some a) :
    withDefault? [] (list? decode) (listField encode as) = some as := by
  cases as with
  | nil => rfl
  | cons a as => exact list?_map h

end Options

/-- The members of the fields that are there. -/
def present : List String → List (Option Data) → List (String × Data)
  | name :: names, field :: fields => member? name id field ++ present names fields
  | _, _ => []

theorem member?_map {α : Type} (name : String) (encode : α → Data) (o : Option α) :
    member? name encode o = member? name id (o.map encode) := by
  cases o <;> rfl

theorem listMember?_eq {α : Type} (name : String) (encode : α → Data) (as : List α) :
    listMember? name encode as = member? name id (listField encode as) := by
  cases as <;> rfl

theorem mem_present {fields : List (Option Data)} {m : String × Data}
    (h : m ∈ present names fields) : m.1 ∈ names ∧ some m.2 ∈ fields := by
  induction names generalizing fields with
  | nil => cases h
  | cons name names ih =>
    cases fields with
    | nil => cases h
    | cons field fields =>
      rcases List.mem_append.mp h with h | h
      · cases field with
        | none => cases h
        | some d =>
          rw [List.mem_singleton.mp h]
          exact ⟨List.mem_cons_self, List.mem_cons_self⟩
      · exact ⟨List.mem_cons_of_mem _ (ih h).1, List.mem_cons_of_mem _ (ih h).2⟩

theorem nodup_present {fields : List (Option Data)} (h : names.Nodup) :
    ((present names fields).map Prod.fst).Nodup := by
  induction names generalizing fields with
  | nil => exact List.nodup_nil
  | cons name names ih =>
    obtain ⟨hname, hnames⟩ := List.nodup_cons.mp h
    cases fields with
    | nil => exact List.nodup_nil
    | cons field fields =>
      cases field with
      | none => exact ih hnames
      | some d =>
        refine List.nodup_cons.mpr ⟨fun hmem => hname ?_, ih hnames⟩
        obtain ⟨m, hm, hsame⟩ := List.mem_map.mp hmem
        rw [show name = m.1 from hsame.symm]
        exact (mem_present hm).1

theorem find?_present {fields : List (Option Data)} (h : names.Nodup)
    (hlength : fields.length = names.length) :
    names.map (fun name => ((present names fields).find? fun m => m.1 == name).map Prod.snd) =
      fields := by
  induction names generalizing fields with
  | nil => exact (List.length_eq_zero_iff.mp hlength).symm
  | cons name names ih =>
    obtain ⟨hname, hnames⟩ := List.nodup_cons.mp h
    cases fields with
    | nil => cases hlength
    | cons field fields =>
      have hlater : (present names fields).find? (fun m => m.1 == name) = none := by
        rw [List.find?_eq_none]
        intro m hm hsame
        rw [beq_iff_eq] at hsame
        exact hname (hsame ▸ (mem_present hm).1)
      have hfirst : ∀ other ∈ names, (member? name id field).find? (fun m => m.1 == other) = none := by
        intro other hother
        cases field with
        | none => rfl
        | some d =>
          have hne : name ≠ other := by
            rintro rfl
            exact hname hother
          simp [member?, hne]
      rw [List.map_cons, present, List.find?_append, hlater]
      congr 1
      · cases field with
        | none => rfl
        | some d => simp [member?]
      · rw [← ih hnames (Nat.succ.inj hlength)]
        refine List.map_congr_left fun other hother => ?_
        rw [List.find?_append, hfirst other hother, Option.none_or,
          ih hnames (Nat.succ.inj hlength)]

/-- The fields that are there are read back, and so are those that are not. -/
theorem fields?_present {fields : List (Option Data)} (h : names.Nodup)
    (hlength : fields.length = names.length) :
    fields? true names (.record (present names fields)) = some fields :=
  fields?_record.mpr ⟨fun _ hm => (mem_present hm).1, nodup_present h, find?_present h hlength⟩

end Data
end WorkQuery
