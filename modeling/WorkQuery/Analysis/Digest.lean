import WorkQuery.Analysis.Limits
import WorkQuery.Calendar.Timestamp
import WorkQuery.Item.Basic

/-!
# WorkQuery.Analysis.Digest

Work items cut down to what an analysis is shown: the beginning of long texts, the first tags, and
the last comments.
-/

namespace WorkQuery

structure CommentDigest where
  author : String
  date : Option Date
  text : String
  deriving DecidableEq

structure ItemDigest where
  id : Nat
  type : String
  title : String
  state : String
  assignedTo : Option String
  priority : Option Int
  tags : List String
  commentCount : Nat
  comments : List CommentDigest
  stateChanges : List String
  createdDate : Option Date
  changedDate : Option Date
  deriving DecidableEq

/-- The first characters of a text. -/
def firstChars (count : Nat) (s : String) : String := String.ofList (s.toList.take count)

namespace CommentDigest

def ofComment (limits : AnalysisLimits) (c : Comment) : CommentDigest :=
  ⟨c.author, c.createdDate.map Timestamp.date, firstChars limits.commentChars c.text⟩

def toData (c : CommentDigest) : Data :=
  .record ([("author", .string c.author)]
    ++ Data.member? "date" (fun d => .string d.text) c.date ++ [("text", .string c.text)])

end CommentDigest

/-- A change of state in words. -/
def StateChange.text (c : StateChange) : String :=
  let change := c.before.getD "(new)" ++ " -> " ++ c.after
  match c.date with
  | some moment => change ++ " (" ++ moment.date.text ++ ")"
  | none => change

namespace ItemDigest

def ofItem (limits : AnalysisLimits) (item : WorkItem) : ItemDigest where
  id := item.id
  type := item.type
  title := firstChars limits.titleChars item.title
  state := item.state
  assignedTo := item.assignedTo
  priority := item.priority
  tags := item.tags.take limits.tags
  commentCount := item.comments.length
  comments := (item.comments.drop (item.comments.length - limits.comments)).map
    (CommentDigest.ofComment limits)
  stateChanges := item.stateChanges.map StateChange.text
  createdDate := item.createdDate.map Timestamp.date
  changedDate := item.changedDate.map Timestamp.date

def toData (d : ItemDigest) : Data :=
  .record ([("id", .ofNat d.id), ("type", .string d.type), ("title", .string d.title),
      ("state", .string d.state)]
    ++ Data.member? "assigned" .string d.assignedTo
    ++ Data.member? "priority" .integer d.priority
    ++ [("tags", .ofStrings d.tags), ("comment_count", .ofNat d.commentCount)]
    ++ Data.listMember? "recent_comments" CommentDigest.toData d.comments
    ++ Data.listMember? "state_changes" .string d.stateChanges
    ++ Data.member? "created_date" (fun day => .string day.text) d.createdDate
    ++ Data.member? "changed_date" (fun day => .string day.text) d.changedDate)

end ItemDigest
end WorkQuery
