import WorkQuery.Data.Decode
import WorkQuery.Item.Basic

/-!
# WorkQuery.Item.Data

Work items as structured data. Absent options and empty lists are left out when an item is written;
members that are no fields are read over.
-/

namespace WorkQuery

def Timestamp.ofData? (d : Data) : Option Timestamp :=
  d.string?.bind fun s => Timestamp.ofChars? s.toList

def Timestamp.toData (t : Timestamp) : Data := .string t.text

namespace Comment

def toData (c : Comment) : Data :=
  .record ([("author", .string c.author)]
    ++ Data.member? "created_date" Timestamp.toData c.createdDate ++ [("text", .string c.text)])

def ofData? (d : Data) : Option Comment :=
  match d.fields? false ["author", "created_date", "text"] with
  | some [some author, created, some text] => do
    return ⟨← author.string?, ← Data.maybe? Timestamp.ofData? created, ← text.string?⟩
  | _ => none

end Comment

namespace StateChange

def toData (c : StateChange) : Data :=
  .record (Data.member? "from" .string c.before ++ [("to", .string c.after)]
    ++ Data.member? "date" Timestamp.toData c.date)

def ofData? (d : Data) : Option StateChange :=
  match d.fields? false ["from", "to", "date"] with
  | some [before, some after, date] => do
    return ⟨← Data.maybe? Data.string? before, ← after.string?,
      ← Data.maybe? Timestamp.ofData? date⟩
  | _ => none

end StateChange

namespace WorkItem

def fieldNames : List String :=
  ["id", "work_item_type", "title", "state", "assigned_to", "priority", "tags", "area_path",
    "iteration_path", "created_date", "changed_date", "comments", "state_transitions", "url"]

def toData (w : WorkItem) : Data :=
  .record ([("id", .ofNat w.id), ("work_item_type", .string w.type), ("title", .string w.title),
      ("state", .string w.state)]
    ++ Data.member? "assigned_to" .string w.assignedTo
    ++ Data.member? "priority" .integer w.priority
    ++ Data.listMember? "tags" .string w.tags
    ++ Data.member? "area_path" .string w.areaPath
    ++ Data.member? "iteration_path" .string w.iterationPath
    ++ Data.member? "created_date" Timestamp.toData w.createdDate
    ++ Data.member? "changed_date" Timestamp.toData w.changedDate
    ++ Data.listMember? "comments" Comment.toData w.comments
    ++ Data.listMember? "state_transitions" StateChange.toData w.stateChanges
    ++ Data.member? "url" .string w.url)

def ofData? (d : Data) : Option WorkItem :=
  match d.fields? false fieldNames with
  | some [some id, some type, some title, some state, assignedTo, priority, tags, areaPath,
      iterationPath, createdDate, changedDate, comments, stateChanges, url] => do
    return {
      id := ← id.uint64?
      type := ← type.string?
      title := ← title.string?
      state := ← state.string?
      assignedTo := ← Data.maybe? Data.string? assignedTo
      priority := ← Data.maybe? Data.int64? priority
      tags := ← Data.withDefault? [] (Data.list? Data.string?) tags
      areaPath := ← Data.maybe? Data.string? areaPath
      iterationPath := ← Data.maybe? Data.string? iterationPath
      createdDate := ← Data.maybe? Timestamp.ofData? createdDate
      changedDate := ← Data.maybe? Timestamp.ofData? changedDate
      comments := ← Data.withDefault? [] (Data.list? Comment.ofData?) comments
      stateChanges := ← Data.withDefault? [] (Data.list? StateChange.ofData?) stateChanges
      url := ← Data.maybe? Data.string? url }
  | _ => none

end WorkItem
end WorkQuery
