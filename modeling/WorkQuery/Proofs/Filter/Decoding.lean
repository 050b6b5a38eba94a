import WorkQuery.Filter.Data
import WorkQuery.Proofs.Data.Schema

/-!
# WorkQuery.Proofs.Filter.Decoding

What the data of a filter has to be for the filter to be decoded: for each of its parts, the fields
and what they decode to. Beside that the schema of the part, which its decoder is strict on.
-/

namespace WorkQuery

variable {d : Data}

theorem Operand.ofData?_list {items : List Data} :
    Operand.ofData? (.list items) = (items.mapM Literal.ofData?).map .list := by
  unfold Operand.ofData?
  cases h : items.mapM Literal.ofData? <;> simp [Data.list?, h, Literal.ofData?, Data.int64?, Data.string?]

namespace Predicate

theorem ofData?_iff {p : Predicate} : ofData? d = some p ↔ ∃ field operator value,
    d.fields? true ["field", "operator", "value"] = some [field, operator, value] ∧
    Data.required? Data.string? field = some p.field ∧
    Data.required? Operator.ofData? operator = some p.operator ∧
    Data.required? Operand.ofData? value = some p.value := by
  unfold ofData?
  constructor
  · intro h
    split at h
    · next field operator value hgiven =>
      simp only [Option.bind_eq_bind, Option.bind_eq_some_iff, Option.pure_def, Option.some.injEq] at h
      obtain ⟨_, hfield, _, hoperator, _, hvalue, rfl⟩ := h
      exact ⟨_, _, _, hgiven, hfield, hoperator, hvalue⟩
    · cases h
  · rintro ⟨field, operator, value, hgiven, hfield, hoperator, hvalue⟩
    obtain ⟨name, rfl, hname⟩ := Option.bind_eq_some_iff.mp hfield
    obtain ⟨token, rfl, htoken⟩ := Option.bind_eq_some_iff.mp hoperator
    obtain ⟨operand, rfl, hoperand⟩ := Option.bind_eq_some_iff.mp hvalue
    simp [hgiven, hname, htoken, hoperand]

def schema : Schema := .record [("field", .leaf), ("operator", .leaf), ("value", .list .leaf)]

end Predicate

namespace DateWindow

theorem ofData?_iff {w : DateWindow} : ofData? d = some w ↔ ∃ field relative start finish,
    d.fields? true ["field", "relative", "start", "end"] = some [field, relative, start, finish] ∧
    Data.withDefault? Reference.changedDate Data.string? field = some w.field ∧
    Data.maybe? RelativePeriod.ofData? relative = some w.relative ∧
    Data.maybe? Date.ofData? start = some w.start ∧
    Data.maybe? Date.ofData? finish = some w.finish := by
  unfold ofData?
  constructor
  · intro h
    split at h
    · next hgiven =>
      simp only [Option.bind_eq_bind, Option.bind_eq_some_iff, Option.pure_def, Option.some.injEq] at h
      obtain ⟨_, hfield, _, hrelative, _, hstart, _, hfinish, rfl⟩ := h
      exact ⟨_, _, _, _, hgiven, hfield, hrelative, hstart, hfinish⟩
    · cases h
  · rintro ⟨field, relative, start, finish, hgiven, hfield, hrelative, hstart, hfinish⟩
    simp [hgiven, hfield, hrelative, hstart, hfinish]

def schema : Schema :=
  .record [("field", .leaf), ("relative", .leaf), ("start", .leaf), ("end", .leaf)]

end DateWindow

namespace Extras

theorem ofData?_iff {e : Extras} : ofData? d = some e ↔ ∃ comments history,
    d.fields? true ["comments", "history"] = some [comments, history] ∧
    Data.withDefault? false Data.bool? comments = some e.comments ∧
    Data.withDefault? false Data.bool? history = some e.history := by
  unfold ofData?
  constructor
  · intro h
    split at h
    · next hgiven =>
      simp only [Option.bind_eq_bind, Option.bind_eq_some_iff, Option.pure_def, Option.some.injEq] at h
      obtain ⟨_, hcomments, _, hhistory, rfl⟩ := h
      exact ⟨_, _, hgiven, hcomments, hhistory⟩
    · cases h
  · rintro ⟨comments, history, hgiven, hcomments, hhistory⟩
    simp [hgiven, hcomments, hhistory]

def schema : Schema := .record [("comments", .leaf), ("history", .leaf)]

end Extras

namespace SortSpec

theorem ofData?_iff {s : SortSpec} : ofData? d = some s ↔ ∃ field direction,
    d.fields? true ["field", "direction"] = some [field, direction] ∧
    Data.required? Data.string? field = some s.field ∧
    Data.withDefault? .descending SortDirection.ofData? direction = some s.direction := by
  unfold ofData?
  constructor
  · intro h
    split at h
    · next field direction hgiven =>
      simp only [Option.bind_eq_bind, Option.bind_eq_some_iff, Option.pure_def, Option.some.injEq] at h
      obtain ⟨_, hfield, _, hdirection, rfl⟩ := h
      exact ⟨_, _, hgiven, hfield, hdirection⟩
    · cases h
  · rintro ⟨field, direction, hgiven, hfield, hdirection⟩
    obtain ⟨name, rfl, hname⟩ := Option.bind_eq_some_iff.mp hfield
    simp [hgiven, hname, hdirection]

def schema : Schema := .record [("field", .leaf), ("direction", .leaf)]

end SortSpec

namespace ItemFilter

theorem ofData?_iff {f : ItemFilter} : ofData? d = some f ↔
    ∃ ids predicates window terms extras sort cap,
    d.fields? true fieldNames = some [ids, predicates, window, terms, extras, sort, cap] ∧
    Data.withDefault? [] (Data.list? Data.uint64?) ids = some f.ids ∧
    Data.withDefault? [] (Data.list? Predicate.ofData?) predicates = some f.predicates ∧
    Data.maybe? DateWindow.ofData? window = some f.dateWindow ∧
    Data.withDefault? [] (Data.list? Data.string?) terms = some f.freeTextTerms ∧
    Data.withDefault? {} Extras.ofData? extras = some f.extras ∧
    Data.maybe? SortSpec.ofData? sort = some f.sort ∧
    Data.maybe? Data.uint64? cap = some f.maxItems := by
  unfold ofData?
  constructor
  · intro h
    split at h
    · next hgiven =>
      simp only [Option.bind_eq_bind, Option.bind_eq_some_iff, Option.pure_def, Option.some.injEq] at h
      obtain ⟨_, hids, _, hpredicates, _, hwindow, _, hterms, _, hextras, _, hsort, _, hcap, rfl⟩ := h
      exact ⟨_, _, _, _, _, _, _, hgiven, hids, hpredicates, hwindow, hterms, hextras, hsort, hcap⟩
    · cases h
  · rintro ⟨ids, predicates, window, terms, extras, sort, cap, hgiven, hids, hpredicates, hwindow,
      hterms, hextras, hsort, hcap⟩
    simp [hgiven, hids, hpredicates, hwindow, hterms, hextras, hsort, hcap]

def schema : Schema :=
  .record [("ids", .list .leaf), ("predicates", .list Predicate.schema),
    ("date_window", DateWindow.schema), ("free_text_terms", .list .leaf),
    ("include", Extras.schema), ("sort", SortSpec.schema), ("max_items", .leaf)]

end ItemFilter

/-! ## No member beyond the fields -/

theorem strict_string? (s : Schema) : s.Strict fun d => d.string?.isSome :=
  Schema.strict_scalar s (fun _ => rfl) fun _ => rfl

theorem strict_bool? (s : Schema) : s.Strict fun d => d.bool?.isSome :=
  Schema.strict_scalar s (fun _ => rfl) fun _ => rfl

theorem strict_uint64? (s : Schema) : s.Strict fun d => d.uint64?.isSome :=
  Schema.strict_scalar s (fun _ => rfl) fun _ => rfl

/-- What is decoded from a text is not decoded from anything but a text. -/
theorem strict_ofString {α : Type} (s : Schema) (decode : String → Option α) :
    s.Strict fun d => (d.string?.bind decode).isSome :=
  Schema.strict_scalar s (fun _ => rfl) fun _ => rfl

theorem strict_ofName {α : Type} (s : Schema) (decode : String → Option α) :
    s.Strict fun d => (d.name?.bind decode).isSome :=
  (Schema.strict_name s).mono fun d h => by
    obtain ⟨a, ha⟩ := Option.isSome_iff_exists.mp h
    obtain ⟨name, hname, -⟩ := Option.bind_eq_some_iff.mp ha
    simp [hname]

theorem Literal.ofData?_strict (s : Schema) : s.Strict fun d => (Literal.ofData? d).isSome :=
  Schema.strict_scalar s (fun _ => rfl) fun _ => rfl

theorem Operand.ofData?_strict : (Schema.list .leaf).Strict fun d => (Operand.ofData? d).isSome := by
  intro d d' hadds hd
  rcases hadds.shape with ⟨members, _, rfl, -⟩ | ⟨items, items', rfl, rfl⟩
  · cases hd
  · -- no literal is a list, so only as a list of literals can this be accepted
    have hstrict := (Literal.ofData?_strict .leaf).list _ _ hadds
    simp only [Operand.ofData?_list, Option.isSome_map] at hd ⊢
    exact hstrict hd

theorem SortDirection.ofData?_strict (s : Schema) :
    s.Strict fun d => (SortDirection.ofData? d).isSome :=
  (Schema.strict_name s).mono fun d h => by
    unfold SortDirection.ofData? at h
    cases hname : d.name? with
    | none =>
      rw [hname] at h
      cases h
    | some name => rfl

theorem Predicate.ofData?_strict : Predicate.schema.Strict fun d => (Predicate.ofData? d).isSome := by
  refine Schema.Strict.record
    [fun o => (Data.required? Data.string? o).isSome,
      fun o => (Data.required? Operator.ofData? o).isSome,
      fun o => (Data.required? Operand.ofData? o).isSome] ?_ ?_
  · exact .cons (strict_string? _) (.cons (strict_ofString _ _) (.cons Operand.ofData?_strict .nil))
  · intro d hd
    obtain ⟨p, hp⟩ := Option.isSome_iff_exists.mp hd
    obtain ⟨_, _, _, hgiven, hfield, hoperator, hvalue⟩ := Predicate.ofData?_iff.mp hp
    exact ⟨_, hgiven, by simp [hfield, hoperator, hvalue]⟩

theorem DateWindow.ofData?_strict :
    DateWindow.schema.Strict fun d => (DateWindow.ofData? d).isSome := by
  refine Schema.Strict.record
    [fun o => (Data.withDefault? Reference.changedDate Data.string? o).isSome,
      fun o => (Data.maybe? RelativePeriod.ofData? o).isSome,
      fun o => (Data.maybe? Date.ofData? o).isSome, fun o => (Data.maybe? Date.ofData? o).isSome] ?_ ?_
  · exact .cons (strict_string? _) (.cons (strict_ofString _ _).optional
      (.cons (strict_ofString _ _).optional (.cons (strict_ofString _ _).optional .nil)))
  · intro d hd
    obtain ⟨w, hw⟩ := Option.isSome_iff_exists.mp hd
    obtain ⟨_, _, _, _, hgiven, hfield, hrelative, hstart, hfinish⟩ := DateWindow.ofData?_iff.mp hw
    exact ⟨_, hgiven, by simp [hfield, hrelative, hstart, hfinish]⟩

theorem Extras.ofData?_strict : Extras.schema.Strict fun d => (Extras.ofData? d).isSome := by
  refine Schema.Strict.record
    [fun o => (Data.withDefault? false Data.bool? o).isSome,
      fun o => (Data.withDefault? false Data.bool? o).isSome] ?_ ?_
  · exact .cons (strict_bool? _) (.cons (strict_bool? _) .nil)
  · intro d hd
    obtain ⟨e, he⟩ := Option.isSome_iff_exists.mp hd
    obtain ⟨_, _, hgiven, hcomments, hhistory⟩ := Extras.ofData?_iff.mp he
    exact ⟨_, hgiven, by simp [hcomments, hhistory]⟩

theorem SortSpec.ofData?_strict : SortSpec.schema.Strict fun d => (SortSpec.ofData? d).isSome := by
  refine Schema.Strict.record
    [fun o => (Data.required? Data.string? o).isSome,
      fun o => (Data.withDefault? .descending SortDirection.ofData? o).isSome] ?_ ?_
  · exact .cons (strict_string? _) (.cons (SortDirection.ofData?_strict _) .nil)
  · intro d hd
    obtain ⟨s, hs⟩ := Option.isSome_iff_exists.mp hd
    obtain ⟨_, _, hgiven, hfield, hdirection⟩ := SortSpec.ofData?_iff.mp hs
    exact ⟨_, hgiven, by simp [hfield, hdirection]⟩

theorem ItemFilter.ofData?_strict :
    ItemFilter.schema.Strict fun d => (ItemFilter.ofData? d).isSome := by
  refine Schema.Strict.record
    [fun o => (Data.withDefault? [] (Data.list? Data.uint64?) o).isSome,
      fun o => (Data.withDefault? [] (Data.list? Predicate.ofData?) o).isSome,
      fun o => (Data.maybe? DateWindow.ofData? o).isSome,
      fun o => (Data.withDefault? [] (Data.list? Data.string?) o).isSome,
      fun o => (Data.withDefault? {} Extras.ofData? o).isSome,
      fun o => (Data.maybe? SortSpec.ofData? o).isSome,
      fun o => (Data.maybe? Data.uint64? o).isSome] ?_ ?_
  · exact .cons (strict_uint64? _).list (.cons Predicate.ofData?_strict.list
      (.cons DateWindow.ofData?_strict.optional (.cons (strict_string? _).list
        (.cons Extras.ofData?_strict (.cons SortSpec.ofData?_strict.optional
          (.cons (strict_uint64? _).optional .nil))))))
  · intro d hd
    obtain ⟨f, hf⟩ := Option.isSome_iff_exists.mp hd
    obtain ⟨_, _, _, _, _, _, _, hgiven, hids, hpredicates, hwindow, hterms, hextras, hsort, hcap⟩ :=
      ItemFilter.ofData?_iff.mp hf
    exact ⟨_, hgiven, by simp [hids, hpredicates, hwindow, hterms, hextras, hsort, hcap]⟩

end WorkQuery
