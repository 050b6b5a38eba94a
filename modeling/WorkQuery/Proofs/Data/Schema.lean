import WorkQuery.Proofs.Data.Records

/-!
# WorkQuery.Proofs.Data.Schema

Decoders that refuse what their schema does not declare.

* `Schema`: the names that are declared at the places of a value.
* `Adds`: a value with one member more, of a name that is not declared at its place.
* `Strict`: a value that is accepted is no longer accepted with such a member. It is so of scalars and
  names (`strict_scalar`, `strict_name`), of lists (`Strict.list`), of options (`Strict.maybe`), and
  of records whose fields it is so of (`Strict.record`).
-/

namespace WorkQuery

/-- The names that are declared at the places of a value. -/
inductive Schema where
  /-- Nothing is declared. -/
  | leaf
  | list (item : Schema)
  | record (fields : List (String × Schema))

namespace Schema

/-- The names of the members that may stand in a record here. -/
def names : Schema → List String
  | .record fields => fields.map Prod.fst
  | .leaf | .list _ => []

/-- What is declared of a member. -/
def member (s : Schema) (name : String) : Schema :=
  match s with
  | .record fields => ((fields.find? fun field => field.1 == name).map Prod.snd).getD .leaf
  | .leaf | .list _ => .leaf

/-- What is declared of an item; the fields of a record may be given as a list, in order. -/
def item (s : Schema) (index : Nat) : Schema :=
  match s with
  | .list s => s
  | .record fields => ((fields[index]?).map Prod.snd).getD .leaf
  | .leaf => .leaf

/-- The second value is the first with one member more, anywhere, of a name that is not declared
there. -/
inductive Adds : Schema → Data → Data → Prop where
  | key {s : Schema} {before after : List (String × Data)} {name : String} (value : Data) :
      name ∉ s.names → Adds s (.record (before ++ after)) (.record (before ++ (name, value) :: after))
  | member {s : Schema} {before after : List (String × Data)} {name : String} {d d' : Data} :
      Adds (s.member name) d d' →
      Adds s (.record (before ++ (name, d) :: after)) (.record (before ++ (name, d') :: after))
  | item {s : Schema} {before after : List Data} {d d' : Data} :
      Adds (s.item before.length) d d' →
      Adds s (.list (before ++ d :: after)) (.list (before ++ d' :: after))

/-- What is accepted is not accepted with a member more that is not declared. -/
def Strict (s : Schema) (accepts : Data → Bool) : Prop :=
  ∀ d d', s.Adds d d' → accepts d = true → accepts d' = false

variable {s : Schema} {d d' : Data} {accepts : Data → Bool}

theorem Adds.shape (h : s.Adds d d') :
    (∃ members members', d = .record members ∧ d' = .record members') ∨
      ∃ items items', d = .list items ∧ d' = .list items' := by
  cases h with
  | key => exact .inl ⟨_, _, rfl, rfl⟩
  | member => exact .inl ⟨_, _, rfl, rfl⟩
  | item => exact .inr ⟨_, _, rfl, rfl⟩

theorem Strict.mono {accepts' : Data → Bool} (h : s.Strict accepts)
    (himp : ∀ d, accepts' d = true → accepts d = true) : s.Strict accepts' := by
  intro d d' hadds hd
  have hrefused := h d d' hadds (himp d hd)
  cases hd' : accepts' d' with
  | false => rfl
  | true => cases (himp d' hd').symm.trans hrefused

/-! ## Scalars, names, lists and options -/

theorem strict_scalar (s : Schema) (hrecord : ∀ members, accepts (.record members) = false)
    (hlist : ∀ items, accepts (.list items) = false) : s.Strict accepts := by
  intro d d' hadds hd
  rcases hadds.shape with ⟨members, _, rfl, -⟩ | ⟨items, _, rfl, -⟩
  · cases (hrecord members).symm.trans hd
  · cases (hlist items).symm.trans hd

/-- A record that stands for a name has just one member, and null in it. -/
theorem strict_name (s : Schema) : s.Strict fun d => d.name?.isSome := by
  have hmembers : ∀ members : List (String × Data), (Data.record members).name?.isSome = true →
      ∃ name, members = [(name, .null)] := by
    intro members h
    unfold Data.name? at h
    split at h
    · next hd => cases hd
    · next name hd =>
      cases hd
      exact ⟨name, rfl⟩
    · cases h
  intro d d' hadds hd
  cases hadds with
  | @key _ before after name value _ =>
    obtain ⟨only, honly⟩ := hmembers _ hd
    rw [Bool.eq_false_iff]
    intro hd'
    obtain ⟨only', honly'⟩ := hmembers _ hd'
    -- there would be two members where there was one
    have hlength := congrArg List.length honly
    have hlength' := congrArg List.length honly'
    simp only [List.length_append, List.length_cons, List.length_nil] at hlength hlength'
    omega
  | @member _ before after name x x' hx =>
    obtain ⟨only, honly⟩ := hmembers _ hd
    -- the only member holds null, to which nothing can be added
    have hnull : (name, x) ∈ [(only, Data.null)] := by simp [← honly]
    simp only [List.mem_singleton, Prod.mk.injEq] at hnull
    rw [hnull.2] at hx
    cases hx
  | item => cases hd

theorem Strict.list {α : Type} {decode : Data → Option α}
    (h : s.Strict fun d => (decode d).isSome) :
    (Schema.list s).Strict fun d => (Data.list? decode d).isSome := by
  have hitem : ∀ {items : List Data} {x : Data}, x ∈ items →
      (Data.list? decode (.list items)).isSome = true → (decode x).isSome = true := by
    intro items x hx hitems
    obtain ⟨values, hvalues⟩ := Option.isSome_iff_exists.mp hitems
    obtain ⟨value, -, hvalue⟩ := exists_right_of_mem (mapM_some_iff.mp hvalues) hx
    simp [hvalue]
  intro d d' hadds hd
  cases hadds with
  | key => cases hd
  | member => cases hd
  | @item _ before after x x' hx =>
    rw [Bool.eq_false_iff]
    intro hd'
    have hrefused := h x x' hx (hitem (by simp) hd)
    cases (hitem (by simp) hd').symm.trans hrefused

theorem Strict.optional {α : Type} {decode : Data → Option α}
    (h : s.Strict fun d => (decode d).isSome) :
    s.Strict fun d => (Data.optional? decode d).isSome := by
  intro d d' hadds hd
  have hnull : d ≠ .null ∧ d' ≠ .null := by
    rcases hadds.shape with ⟨_, _, rfl, rfl⟩ | ⟨_, _, rfl, rfl⟩ <;> exact ⟨nofun, nofun⟩
  simp only [Data.optional?_of_ne_null hnull.1, Data.optional?_of_ne_null hnull.2,
    Option.isSome_map] at hd ⊢
  exact h d d' hadds hd

/-! ## Records -/

section Records

variable {fields : List (String × Schema)} {d d' : Data} {given given' : List (Option Data)}

/-- Where a record is accepted with and without the member more, it is one of its fields that has the
member more. -/
theorem Adds.field (h : (Schema.record fields).Adds d d')
    (hd : d.fields? true (fields.map Prod.fst) = some given)
    (hd' : d'.fields? true (fields.map Prod.fst) = some given') :
    ∃ (i : Nat) (field : String × Schema) (x x' : Data), fields[i]? = some field ∧ given[i]? = some (some x) ∧
      given'[i]? = some (some x') ∧ field.2.Adds x x' := by
  cases h with
  | @key _ before after name value hname =>
    obtain ⟨hall, -⟩ := Data.fields?_record.mp hd'
    exact absurd (hall (name, value) (by simp)) hname
  | @member _ before after name x x' hx =>
    obtain ⟨hall, hnodup, rfl⟩ := Data.fields?_record.mp hd
    obtain ⟨-, hnodup', rfl⟩ := Data.fields?_record.mp hd'
    have hname : name ∈ fields.map Prod.fst := hall (name, x) (by simp)
    obtain ⟨⟨name', field⟩, hfield⟩ : ∃ field, fields.find? (fun field => field.1 == name) = some field := by
      obtain ⟨field, hmem, hsame⟩ := List.mem_map.mp hname
      exact Option.isSome_iff_exists.mp (List.find?_isSome.mpr ⟨field, hmem, by simp [hsame]⟩)
    obtain ⟨hsame, earlier, later, rfl, -⟩ := List.find?_eq_some_iff_append.mp hfield
    obtain rfl : name' = name := beq_iff_eq.mp hsame
    have hplace : ((earlier ++ (name', field) :: later).map Prod.fst)[earlier.length]? = some name' := by
      simp
    refine ⟨earlier.length, (name', field), x, x', by simp, ?_, ?_, ?_⟩
    · rw [List.getElem?_map, hplace, Option.map_some, Data.find?_member hnodup, Option.map_some]
    · rw [List.getElem?_map, hplace, Option.map_some, Data.find?_member hnodup', Option.map_some]
    · simpa [Schema.member, hfield] using hx
  | @item _ before after x x' hx =>
    -- a list gives the fields in order, so the item's place is that of its field
    obtain ⟨hshort, rfl⟩ := Data.fields?_list.mp hd
    obtain ⟨-, rfl⟩ := Data.fields?_list.mp hd'
    have hindex : before.length < fields.length := by
      simp only [List.length_append, List.length_cons, List.length_map] at hshort
      omega
    refine ⟨before.length, fields[before.length], x, x', by simp [hindex], by simp, by simp, ?_⟩
    simpa [Schema.item, hindex] using hx

/-- A record is decoded field by field. -/
theorem Strict.record {accepts : Data → Bool} (parts : List (Option Data → Bool))
    (hparts : List.Forall₂ (fun field part => field.2.Strict fun d => part (some d)) fields parts)
    (haccepts : ∀ d, accepts d = true → ∃ given, d.fields? true (fields.map Prod.fst) = some given ∧
      List.Forall₂ (fun part value => part value = true) parts given) :
    (Schema.record fields).Strict accepts := by
  intro d d' hadds hd
  rw [Bool.eq_false_iff]
  intro hd'
  obtain ⟨given, hgiven, hvalues⟩ := haccepts d hd
  obtain ⟨given', hgiven', hvalues'⟩ := haccepts d' hd'
  obtain ⟨i, field, x, x', hfield, hx, hx', hadds⟩ := hadds.field hgiven hgiven'
  obtain ⟨part, hpart, hstrict⟩ := exists_right_of_getElem? hparts hfield
  obtain ⟨_, hvalue, haccepted⟩ := exists_right_of_getElem? hvalues hpart
  obtain ⟨_, hvalue', haccepted'⟩ := exists_right_of_getElem? hvalues' hpart
  cases hx.symm.trans hvalue
  cases hx'.symm.trans hvalue'
  cases (hstrict x x' hadds haccepted).symm.trans haccepted'

end Records

end Schema
end WorkQuery
