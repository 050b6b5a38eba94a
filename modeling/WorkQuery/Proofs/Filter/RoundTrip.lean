import WorkQuery.Filter.Text
import WorkQuery.Proofs.Data.PlainData
import WorkQuery.Proofs.Filter.Decoding
import WorkQuery.Proofs.PeriodSpelling

/-!
# WorkQuery.Proofs.Filter.RoundTrip

Filters are written and read back.

* `ItemFilter.IsWritable`: the numbers are ones that a filter can hold; so they are in every filter
  that is read (`ItemFilter.ofText_isWritable`).
* `ItemFilter.ofData?_toData`: the data of such a filter is decoded as that filter.
* `ItemFilter.ofText_spells`: any JSON text of these data is read as that filter, the printed ones
  among them.
-/

namespace WorkQuery

/-! ## Parts -/

theorem Operator.ofText?_token (op : Operator) : ofText? op.token = some op := by
  cases op <;> decide

theorem Operator.ofData?_token (op : Operator) : ofData? (.string op.token) = some op := by
  rw [ofData?, Data.string?_string, Option.bind_some, ofText?_token]

theorem RelativePeriod.ofData?_token {p : RelativePeriod} (h : p.IsCounted) :
    ofData? (.string p.token) = some p := by
  rw [ofData?, Data.string?_string, Option.bind_some, ofText?_token h]

theorem SortDirection.ofData?_token (s : SortDirection) : ofData? (.string s.token) = some s := by
  cases s <;> rfl

theorem Date.ofData?_text (d : Date) : Date.ofData? (.string d.text) = some d := by
  rw [Date.ofData?, Data.string?_string, Option.bind_some, Date.text, String.toList_ofList]
  exact d.ofSpacedChars?_toChars

/-- Whole numbers are those that 64 bits hold with a sign. -/
def Literal.IsWritable : Literal → Prop
  | .integer n => Numeral.isInt64 n = true
  | .text _ => True

def Operand.IsWritable : Operand → Prop
  | .single value => value.IsWritable
  | .list values => ∀ value ∈ values, value.IsWritable

theorem Literal.ofData?_toData {l : Literal} (h : l.IsWritable) : ofData? l.toData = some l := by
  cases l with
  | integer n =>
    rw [ofData?, toData, Data.int64?_integer h]
  | text s => rfl

theorem Operand.ofData?_toData {v : Operand} (h : v.IsWritable) : ofData? v.toData = some v := by
  cases v with
  | list values =>
    rw [toData, ofData?, Data.list?_map fun value hvalue => Literal.ofData?_toData (h value hvalue)]
  | single value =>
    -- a list is tried first, and a literal is none
    have hlist : Data.list? Literal.ofData? value.toData = none := by cases value <;> rfl
    rw [toData, ofData?, hlist, Literal.ofData?_toData h]
    rfl

/-! ## Records -/

theorem Predicate.toData_eq (p : Predicate) : p.toData =
    .record (Data.present ["field", "operator", "value"]
      [some (.string p.field), some (.string p.operator.token), some p.value.toData]) := rfl

theorem Predicate.ofData?_toData {p : Predicate} (h : p.value.IsWritable) :
    ofData? p.toData = some p := by
  rw [ofData?_iff, toData_eq]
  refine ⟨_, _, _, Data.fields?_present (by decide) rfl, ?_, ?_, ?_⟩
  · rw [Data.required?_some, Data.string?_string]
  · rw [Data.required?_some, Operator.ofData?_token]
  · rw [Data.required?_some, Operand.ofData?_toData h]

theorem DateWindow.toData_eq (w : DateWindow) : w.toData =
    .record (Data.present ["field", "relative", "start", "end"]
      [some (.string w.field), w.relative.map fun p => .string p.token,
        w.start.map fun d => .string d.text, w.finish.map fun d => .string d.text]) := by
  rw [toData, Data.member?_map "relative", Data.member?_map "start", Data.member?_map "end"]
  simp only [Data.present, List.append_assoc, List.append_nil]
  rfl

theorem DateWindow.ofData?_toData {w : DateWindow} (h : ∀ p ∈ w.relative, p.IsCounted) :
    ofData? w.toData = some w := by
  rw [ofData?_iff, toData_eq]
  refine ⟨_, _, _, _, Data.fields?_present (by decide) rfl, ?_, ?_, ?_, ?_⟩
  · rw [Data.withDefault?, Data.string?_string]
  · exact Data.maybe?_map (fun _ => nofun) fun p hp => RelativePeriod.ofData?_token (h p hp)
  · exact Data.maybe?_map (fun _ => nofun) fun d _ => d.ofData?_text
  · exact Data.maybe?_map (fun _ => nofun) fun d _ => d.ofData?_text

theorem Extras.toData_eq (e : Extras) : e.toData =
    .record (Data.present ["comments", "history"]
      [some (.bool e.comments), some (.bool e.history)]) := rfl

theorem Extras.ofData?_toData (e : Extras) : ofData? e.toData = some e := by
  rw [ofData?_iff, toData_eq]
  exact ⟨_, _, Data.fields?_present (by decide) rfl, rfl, rfl⟩

theorem SortSpec.toData_eq (s : SortSpec) : s.toData =
    .record (Data.present ["field", "direction"]
      [some (.string s.field), some (.string s.direction.token)]) := rfl

theorem SortSpec.ofData?_toData (s : SortSpec) : ofData? s.toData = some s := by
  rw [ofData?_iff, toData_eq]
  refine ⟨_, _, Data.fields?_present (by decide) rfl, ?_, ?_⟩
  · rw [Data.required?_some, Data.string?_string]
  · rw [Data.withDefault?, SortDirection.ofData?_token]

theorem ItemFilter.toData_eq (f : ItemFilter) : f.toData =
    .record (Data.present fieldNames
      [Data.listField .ofNat f.ids, Data.listField Predicate.toData f.predicates,
        f.dateWindow.map DateWindow.toData, Data.listField .string f.freeTextTerms,
        some f.extras.toData, f.sort.map SortSpec.toData, f.maxItems.map .ofNat]) := by
  rw [toData, Data.listMember?_eq "ids", Data.listMember?_eq "predicates",
    Data.member?_map "date_window", Data.listMember?_eq "free_text_terms", Data.member?_map "sort",
    Data.member?_map "max_items"]
  simp only [fieldNames, Data.present, List.append_assoc, List.append_nil]
  rfl

/-- The numbers are ones that a filter can hold. -/
structure ItemFilter.IsWritable (f : ItemFilter) : Prop where
  ids : ∀ id ∈ f.ids, id ≤ Numeral.maxUInt64
  operands : ∀ p ∈ f.predicates, p.value.IsWritable
  period : ∀ w ∈ f.dateWindow, ∀ p ∈ w.relative, p.IsCounted
  maxItems : ∀ n ∈ f.maxItems, n ≤ Numeral.maxUInt64

namespace ItemFilter

variable {f : ItemFilter}

theorem ofData?_toData (h : f.IsWritable) : ofData? f.toData = some f := by
  rw [ofData?_iff, toData_eq]
  refine ⟨_, _, _, _, _, _, _, Data.fields?_present (by decide) rfl, ?_, ?_, ?_, ?_, ?_, ?_, ?_⟩
  · exact Data.withDefault?_listField fun id hid => Data.uint64?_ofNat (h.ids id hid)
  · exact Data.withDefault?_listField fun p hp => Predicate.ofData?_toData (h.operands p hp)
  · exact Data.maybe?_map (fun _ => nofun) fun w hw => DateWindow.ofData?_toData (h.period w hw)
  · exact Data.withDefault?_listField fun s _ => Data.string?_string s
  · rw [Data.withDefault?, Extras.ofData?_toData]
  · exact Data.maybe?_map (fun _ => nofun) fun s _ => s.ofData?_toData
  · exact Data.maybe?_map (fun _ => nofun) fun n hn => Data.uint64?_ofNat (h.maxItems n hn)

end ItemFilter

/-! ## Text -/

theorem Literal.isPlain_toData {l : Literal} (h : l.IsWritable) : l.toData.isPlain = true := by
  cases l with
  | integer n => exact Data.isPlain_integer h
  | text s => rfl

theorem Operand.isPlain_toData {v : Operand} (h : v.IsWritable) : v.toData.isPlain = true := by
  cases v with
  | list values =>
    rw [toData, Data.isPlain_list, List.all_map, List.all_eq_true]
    exact fun l hl => Literal.isPlain_toData (h l hl)
  | single value => exact Literal.isPlain_toData h

theorem Predicate.isPlain_toData {p : Predicate} (h : p.value.IsWritable) :
    p.toData.isPlain = true := by
  rw [toData_eq]
  apply Data.isPlain_present
  simp only [List.mem_cons, Option.some.injEq, List.not_mem_nil, or_false, forall_eq_or_imp, forall_eq]
  exact ⟨rfl, rfl, Operand.isPlain_toData h⟩

theorem DateWindow.isPlain_toData (w : DateWindow) : w.toData.isPlain = true := by
  rw [toData_eq]
  apply Data.isPlain_present
  simp only [List.mem_cons, List.not_mem_nil, or_false]
  rintro d (hd | hd | hd | hd)
  · cases hd
    rfl
  · exact Data.isPlain_map (fun _ _ => rfl) d hd
  · exact Data.isPlain_map (fun _ _ => rfl) d hd
  · exact Data.isPlain_map (fun _ _ => rfl) d hd

namespace ItemFilter

variable {f : ItemFilter}

theorem isPlain_toData (h : f.IsWritable) : f.toData.isPlain = true := by
  rw [toData_eq]
  apply Data.isPlain_present
  simp only [List.mem_cons, List.not_mem_nil, or_false]
  rintro d (hd | hd | hd | hd | hd | hd | hd)
  · exact Data.isPlain_listField (fun id hid => Data.isPlain_ofNat (h.ids id hid)) d hd
  · exact Data.isPlain_listField (fun p hp => Predicate.isPlain_toData (h.operands p hp)) d hd
  · exact Data.isPlain_map (fun w _ => w.isPlain_toData) d hd
  · exact Data.isPlain_listField (fun _ _ => rfl) d hd
  · cases hd
    rfl
  · exact Data.isPlain_map (fun _ _ => rfl) d hd
  · exact Data.isPlain_map (fun n hn => Data.isPlain_ofNat (h.maxItems n hn)) d hd

/-- Any JSON text of the filter's data is read as the filter. -/
theorem ofText_spells (h : f.IsWritable) {cs : List Char} (hcs : Data.Json.Spells f.toData cs) :
    ofText (String.ofList cs) = .ok f := by
  have hblank : Text.isBlankText (String.ofList cs) = false := by
    obtain ⟨more, rfl⟩ := hcs.brace
    rw [Text.isBlankText, String.toList_ofList, List.all_cons]
    rfl
  have hdata : Data.ofJsonText? (String.ofList cs) = some f.toData := by
    rw [Data.ofJsonText?, String.toList_ofList]
    exact Data.Json.ofChars?_spells hcs
  rw [ofText, hblank, hdata, Option.bind_some, ofData?_toData h]
  rfl

end ItemFilter

/-! ## Filters that are read -/

theorem Literal.ofData?_isWritable {d : Data} {l : Literal} (h : ofData? d = some l) :
    l.IsWritable := by
  unfold ofData? at h
  split at h
  · next n hn =>
    cases h
    exact Data.isInt64_of_int64? hn
  · obtain ⟨_, -, rfl⟩ := Option.map_eq_some_iff.mp h
    trivial

theorem Operand.ofData?_isWritable {d : Data} {v : Operand} (h : ofData? d = some v) :
    v.IsWritable := by
  unfold ofData? at h
  split at h
  · next values hvalues =>
    cases h
    intro value hvalue
    obtain ⟨item, hitem⟩ := Data.exists_of_list? hvalues hvalue
    exact Literal.ofData?_isWritable hitem
  · obtain ⟨value, hvalue, rfl⟩ := Option.map_eq_some_iff.mp h
    exact Literal.ofData?_isWritable hvalue

theorem Predicate.ofData?_isWritable {d : Data} {p : Predicate} (h : ofData? d = some p) :
    p.value.IsWritable := by
  obtain ⟨_, _, value, -, -, -, hvalue⟩ := ofData?_iff.mp h
  obtain ⟨_, -, hoperand⟩ := Option.bind_eq_some_iff.mp hvalue
  exact Operand.ofData?_isWritable hoperand

theorem DateWindow.ofData?_isCounted {d : Data} {w : DateWindow} (h : ofData? d = some w) :
    ∀ p ∈ w.relative, p.IsCounted := by
  intro p hp
  obtain ⟨_, relative, _, _, -, -, hrelative, -, -⟩ := ofData?_iff.mp h
  rw [Option.mem_def.mp hp] at hrelative
  obtain ⟨token, -, htoken⟩ := Option.bind_eq_some_iff.mp (Data.maybe?_some hrelative)
  obtain ⟨_, -, hperiod⟩ := Option.bind_eq_some_iff.mp htoken
  exact RelativePeriod.ofText?_isCounted hperiod

namespace ItemFilter

variable {f : ItemFilter}

theorem ofData?_isWritable {d : Data} (h : ofData? d = some f) : f.IsWritable := by
  obtain ⟨_, _, _, _, _, _, _, -, hids, hpredicates, hwindow, -, -, -, hcap⟩ := ofData?_iff.mp h
  refine ⟨fun id hid => ?_, fun p hp => ?_, fun w hw => ?_, fun n hn => ?_⟩
  · obtain ⟨_, hd⟩ := Data.exists_of_withDefault?_list hids hid
    exact Data.uint64?_le hd
  · obtain ⟨_, hd⟩ := Data.exists_of_withDefault?_list hpredicates hp
    exact Predicate.ofData?_isWritable hd
  · rw [Option.mem_def.mp hw] at hwindow
    obtain ⟨_, -, hd⟩ := Option.bind_eq_some_iff.mp (Data.maybe?_some hwindow)
    exact DateWindow.ofData?_isCounted hd
  · rw [Option.mem_def.mp hn] at hcap
    obtain ⟨_, -, hd⟩ := Option.bind_eq_some_iff.mp (Data.maybe?_some hcap)
    exact Data.uint64?_le hd

/-! ## There and back -/

theorem ofText_isWritable {text : String} (h : ofText text = .ok f) : f.IsWritable := by
  unfold ofText at h
  split at h
  · cases h
  · split at h
    · next read hread =>
      cases h
      obtain ⟨_, -, hd⟩ := Option.bind_eq_some_iff.mp hread
      exact ofData?_isWritable hd
    · cases h

/-- A filter whose numbers are ones that it can hold is read back from its text, be that on one line
or on several. Every filter that is read is of this kind, whatever text it has been read from, and so
it is read again from its own. -/
theorem text_roundTrip :
    (∀ f : ItemFilter, f.IsWritable →
      ofText f.text = .ok f ∧ ofText f.toData.prettyJsonText = .ok f) ∧
    ∀ text (f : ItemFilter), ofText text = .ok f →
      f.IsWritable ∧ ofText f.text = .ok f ∧ ofText f.toData.prettyJsonText = .ok f := by
  have hback : ∀ f : ItemFilter, f.IsWritable →
      ofText f.text = .ok f ∧ ofText f.toData.prettyJsonText = .ok f := fun f hf =>
    ⟨ofText_spells hf (Data.Json.spells_chars (isPlain_toData hf)),
      ofText_spells hf (Data.Json.spells_prettyChars 0 (isPlain_toData hf))⟩
  exact ⟨hback, fun text f h => ⟨ofText_isWritable h, hback f (ofText_isWritable h)⟩⟩

/-- The largest number of an item, a text that has to be escaped, and a day before the year zero. -/
theorem text_roundTrip_ides :
    let f : ItemFilter := {
      ids := [18446744073709551615]
      predicates := [⟨"title", .contains, .list [.text "\"\\\n", .integer (-9223372036854775808)]⟩]
      dateWindow := some { start := some ⟨-44, 3, 15, by decide⟩ } }
    f.IsWritable ∧ ofText f.text = .ok f ∧ ofText f.toData.prettyJsonText = .ok f := by
  intro f
  have hf : f.IsWritable := by
    refine ⟨by decide, ?_, ?_, nofun⟩
    · intro p hp
      obtain rfl := List.mem_singleton.mp hp
      simp only [Operand.IsWritable, List.forall_mem_cons, Literal.IsWritable]
      exact ⟨trivial, by decide, nofun⟩
    · rintro w ⟨⟩ p ⟨⟩
  exact ⟨hf, text_roundTrip.1 f hf⟩

end ItemFilter
end WorkQuery
