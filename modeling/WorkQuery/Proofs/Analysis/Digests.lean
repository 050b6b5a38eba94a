import WorkQuery.Analysis.Digest
import WorkQuery.Proofs.Filter.RoundTrip

/-!
# WorkQuery.Proofs.Analysis.Digests

What an analysis is shown of a work item.

* `ItemDigest.Shows`: which parts of an item its digest has, and how long they are. It is so of the
  digest that is made (`ItemDigest.ofItem_shows`), and an item within all limits loses none of
  them (`ItemDigest.Shows.keeps`).
* `ItemDigest.ofData?`: the digest that data write; `ItemDigest.ofData?_toData`.
-/

namespace WorkQuery

/-! ## Beginnings of texts -/

/-- The longest beginning of a text that has no more than so many characters. -/
structure IsLongestStart (count : Nat) (s start : String) : Prop where
  begins : start.toList <+: s.toList
  short : start.length ≤ count
  longest : ∀ other : String, other.toList <+: s.toList → other.length ≤ count →
    other.length ≤ start.length

theorem firstChars_isLongestStart (count : Nat) (s : String) :
    IsLongestStart count s (firstChars count s) := by
  have hlength : (firstChars count s).length = min count s.length := by
    rw [firstChars, String.length_ofList, List.length_take, String.length_toList]
  refine ⟨?_, ?_, fun other hbegins hshort => ?_⟩
  · rw [firstChars, String.toList_ofList]
    exact List.take_prefix _ _
  · rw [hlength]
    exact Nat.min_le_left _ _
  · have hother := hbegins.length_le
    rw [String.length_toList, String.length_toList] at hother
    rw [hlength]
    exact Nat.le_min.mpr ⟨hshort, hother⟩

theorem IsLongestStart.eq_of_length_le {count : Nat} {s start : String}
    (h : IsLongestStart count s start) (hs : s.length ≤ count) : start = s := by
  have hlength := h.longest s (List.prefix_refl _) hs
  rw [← String.length_toList, ← String.length_toList] at hlength
  exact String.toList_injective (h.begins.eq_of_length_le hlength)

/-! ## Parts of an item -/

/-- The digest has the comment's author, day, and the beginning of its text. -/
structure CommentDigest.Shows (limits : AnalysisLimits) (c : Comment) (d : CommentDigest) : Prop where
  author : d.author = c.author
  date : d.date = c.createdDate.map Timestamp.date
  text : IsLongestStart limits.commentChars c.text d.text

/-- The digest has the first tags of the item, its last comments in their order, and the beginning of
its title, as much of each as the limits allow. -/
structure ItemDigest.Shows (limits : AnalysisLimits) (item : WorkItem) (d : ItemDigest) : Prop where
  id : d.id = item.id
  type : d.type = item.type
  title : IsLongestStart limits.titleChars item.title d.title
  state : d.state = item.state
  assignedTo : d.assignedTo = item.assignedTo
  priority : d.priority = item.priority
  tags : d.tags <+: item.tags ∧ d.tags.length = min limits.tags item.tags.length
  commentCount : d.commentCount = item.comments.length
  comments : ∃ recent, recent <:+ item.comments ∧
    recent.length = min limits.comments item.comments.length ∧
    List.Forall₂ (CommentDigest.Shows limits) recent d.comments
  stateChanges : d.stateChanges = item.stateChanges.map StateChange.text
  createdDate : d.createdDate = item.createdDate.map Timestamp.date
  changedDate : d.changedDate = item.changedDate.map Timestamp.date

/-- No part of the item is longer than the limits. -/
structure WorkItem.IsWithin (limits : AnalysisLimits) (item : WorkItem) : Prop where
  title : item.title.length ≤ limits.titleChars
  tags : item.tags.length ≤ limits.tags
  comments : item.comments.length ≤ limits.comments
  texts : ∀ c ∈ item.comments, c.text.length ≤ limits.commentChars

/-- The title, the tags, the comments and the changes of state are whole, but for the times of day. -/
structure ItemDigest.Keeps (item : WorkItem) (d : ItemDigest) : Prop where
  title : d.title = item.title
  tags : d.tags = item.tags
  comments : d.comments = item.comments.map fun c =>
    ⟨c.author, c.createdDate.map Timestamp.date, c.text⟩
  stateChanges : d.stateChanges = item.stateChanges.map StateChange.text

theorem CommentDigest.ofComment_shows (limits : AnalysisLimits) (c : Comment) :
    CommentDigest.Shows limits c (ofComment limits c) :=
  ⟨rfl, rfl, firstChars_isLongestStart _ _⟩

theorem CommentDigest.Shows.whole {limits : AnalysisLimits} {c : Comment} {d : CommentDigest}
    (h : d.Shows limits c) (hc : c.text.length ≤ limits.commentChars) :
    d = ⟨c.author, c.createdDate.map Timestamp.date, c.text⟩ := by
  have htext : d.text = c.text := h.text.eq_of_length_le hc
  rw [← h.author, ← h.date, ← htext]

namespace ItemDigest

variable {limits : AnalysisLimits} {item : WorkItem} {d : ItemDigest}

theorem ofItem_shows (limits : AnalysisLimits) (item : WorkItem) :
    (ofItem limits item).Shows limits item where
  id := rfl
  type := rfl
  title := firstChars_isLongestStart _ _
  state := rfl
  assignedTo := rfl
  priority := rfl
  tags := ⟨List.take_prefix _ _, List.length_take⟩
  commentCount := rfl
  comments := by
    refine ⟨item.comments.drop (item.comments.length - limits.comments), List.drop_suffix _ _, ?_, ?_⟩
    · rw [List.length_drop]
      omega
    · rw [ofItem, List.forall₂_map_right_iff, List.forall₂_same]
      exact fun c _ => CommentDigest.ofComment_shows limits c
  stateChanges := rfl
  createdDate := rfl
  changedDate := rfl

theorem Shows.keeps (h : d.Shows limits item) (hitem : item.IsWithin limits) : d.Keeps item := by
  obtain ⟨recent, hrecent, hcount, hcomments⟩ := h.comments
  have hall : recent = item.comments := by
    refine hrecent.eq_of_length_le ?_
    rw [hcount]
    exact Nat.le_min.mpr ⟨hitem.comments, Nat.le_refl _⟩
  subst hall
  refine ⟨h.title.eq_of_length_le hitem.title, h.tags.1.eq_of_length_le ?_, ?_, h.stateChanges⟩
  · rw [h.tags.2]
    exact Nat.le_min.mpr ⟨hitem.tags, Nat.le_refl _⟩
  · have hshort := (List.forall₂_and_left _ _).mpr ⟨hitem.texts, hcomments⟩
    rw [← List.map_id d.comments]
    exact (map_eq_of_forall₂ hshort fun c shown hc => (hc.2.whole hc.1).symm).symm

end ItemDigest

/-! ## Digests as data -/

/-- Items whose numbers have 64 bits. -/
structure WorkItem.IsWritable (item : WorkItem) : Prop where
  id : item.id ≤ Numeral.maxUInt64
  priority : ∀ n ∈ item.priority, Numeral.isInt64 n = true
  comments : item.comments.length ≤ Numeral.maxUInt64

namespace CommentDigest

def fieldNames : List String := ["author", "date", "text"]

def ofData? (d : Data) : Option CommentDigest :=
  match d.fields? true fieldNames with
  | some [author, date, text] => do
    return ⟨← Data.required? Data.string? author, ← Data.maybe? Date.ofData? date,
      ← Data.required? Data.string? text⟩
  | _ => none

theorem toData_eq (c : CommentDigest) : c.toData =
    .record (Data.present fieldNames
      [some (.string c.author), c.date.map fun d => .string d.text, some (.string c.text)]) := by
  rw [toData, Data.member?_map "date"]
  rfl

theorem ofData?_toData (c : CommentDigest) : ofData? c.toData = some c := by
  have hdate : Data.maybe? Date.ofData? (c.date.map fun d => .string d.text) = some c.date :=
    Data.maybe?_map (fun _ => nofun) fun d _ => d.ofData?_text
  rw [ofData?, toData_eq, Data.fields?_present (by decide) rfl]
  simp only [Data.required?_some, Data.string?_string, hdate]
  rfl

theorem isPlain_toData (c : CommentDigest) : c.toData.isPlain = true := by
  rw [toData_eq]
  apply Data.isPlain_present
  simp only [List.mem_cons, Option.some.injEq, List.not_mem_nil, or_false]
  rintro d (rfl | hd | rfl)
  · rfl
  · exact Data.isPlain_map (fun _ _ => rfl) d hd
  · rfl

end CommentDigest

namespace ItemDigest

def fieldNames : List String :=
  ["id", "type", "title", "state", "assigned", "priority", "tags", "comment_count",
    "recent_comments", "state_changes", "created_date", "changed_date"]

def ofData? (d : Data) : Option ItemDigest :=
  match d.fields? true fieldNames with
  | some [id, type, title, state, assigned, priority, tags, commentCount, comments, stateChanges,
      createdDate, changedDate] => do
    return {
      id := ← Data.required? Data.uint64? id
      type := ← Data.required? Data.string? type
      title := ← Data.required? Data.string? title
      state := ← Data.required? Data.string? state
      assignedTo := ← Data.maybe? Data.string? assigned
      priority := ← Data.maybe? Data.int64? priority
      tags := ← Data.required? (Data.list? Data.string?) tags
      commentCount := ← Data.required? Data.uint64? commentCount
      comments := ← Data.withDefault? [] (Data.list? CommentDigest.ofData?) comments
      stateChanges := ← Data.withDefault? [] (Data.list? Data.string?) stateChanges
      createdDate := ← Data.maybe? Date.ofData? createdDate
      changedDate := ← Data.maybe? Date.ofData? changedDate }
  | _ => none

theorem toData_eq (d : ItemDigest) : d.toData =
    .record (Data.present fieldNames
      [some (.ofNat d.id), some (.string d.type), some (.string d.title), some (.string d.state),
        d.assignedTo.map .string, d.priority.map .integer, some (.ofStrings d.tags),
        some (.ofNat d.commentCount), Data.listField CommentDigest.toData d.comments,
        Data.listField .string d.stateChanges, d.createdDate.map fun day => .string day.text,
        d.changedDate.map fun day => .string day.text]) := by
  rw [toData, Data.member?_map "assigned", Data.member?_map "priority",
    Data.listMember?_eq "recent_comments", Data.listMember?_eq "state_changes",
    Data.member?_map "created_date", Data.member?_map "changed_date"]
  simp only [fieldNames, Data.present, List.append_assoc, List.append_nil]
  rfl

/-- The numbers have 64 bits. -/
structure IsWritable (d : ItemDigest) : Prop where
  id : d.id ≤ Numeral.maxUInt64
  priority : ∀ n ∈ d.priority, Numeral.isInt64 n = true
  commentCount : d.commentCount ≤ Numeral.maxUInt64

theorem ofData?_toData {d : ItemDigest} (h : d.IsWritable) : ofData? d.toData = some d := by
  have hday : ∀ o : Option Date,
      Data.maybe? Date.ofData? (o.map fun day => .string day.text) = some o :=
    fun _ => Data.maybe?_map (fun _ => nofun) fun day _ => day.ofData?_text
  have hassigned : Data.maybe? Data.string? (d.assignedTo.map .string) = some d.assignedTo :=
    Data.maybe?_map (fun _ => nofun) fun s _ => Data.string?_string s
  have hpriority : Data.maybe? Data.int64? (d.priority.map .integer) = some d.priority :=
    Data.maybe?_map (fun _ => nofun) fun n hn => Data.int64?_integer (h.priority n hn)
  have htags : Data.list? Data.string? (.ofStrings d.tags) = some d.tags :=
    Data.list?_map fun s _ => Data.string?_string s
  have hcomments := Data.withDefault?_listField fun c (_ : c ∈ d.comments) => c.ofData?_toData
  have hchanges := Data.withDefault?_listField fun s (_ : s ∈ d.stateChanges) =>
    Data.string?_string s
  rw [ofData?, toData_eq, Data.fields?_present (by decide) rfl]
  simp only [Data.required?_some, Data.string?_string, Data.uint64?_ofNat h.id,
    Data.uint64?_ofNat h.commentCount, hday, hassigned, hpriority, htags, hcomments, hchanges]
  rfl

theorem isPlain_toData {d : ItemDigest} (h : d.IsWritable) : d.toData.isPlain = true := by
  have hday : ∀ (o : Option Date) (e : Data), some e = o.map (fun day => .string day.text) →
      e.isPlain = true := fun _ => Data.isPlain_map fun _ _ => rfl
  rw [toData_eq]
  apply Data.isPlain_present
  simp only [List.mem_cons, Option.some.injEq, List.not_mem_nil, or_false]
  rintro e (rfl | rfl | rfl | rfl | he | he | rfl | rfl | he | he | he | he)
  · exact Data.isPlain_ofNat h.id
  · rfl
  · rfl
  · rfl
  · exact Data.isPlain_map (fun _ _ => rfl) e he
  · exact Data.isPlain_map (fun n hn => Data.isPlain_integer (h.priority n hn)) e he
  · simp [Data.ofStrings, Data.isPlain_list, Data.isPlain]
  · exact Data.isPlain_ofNat h.commentCount
  · exact Data.isPlain_listField (fun c _ => c.isPlain_toData) e he
  · exact Data.isPlain_listField (fun _ _ => rfl) e he
  · exact hday _ e he
  · exact hday _ e he

theorem ofItem_isWritable {item : WorkItem} (h : item.IsWritable) (limits : AnalysisLimits) :
    (ofItem limits item).IsWritable := ⟨h.id, h.priority, h.comments⟩

end ItemDigest
end WorkQuery
