import WorkQuery.Data.Decode

/-!
# WorkQuery.Analysis.Limits

How much of the items goes into the prompt of an analysis.
-/

namespace WorkQuery

structure AnalysisLimits where
  items : Nat := 250
  titleChars : Nat := 160
  tags : Nat := 3
  comments : Nat := 5
  commentChars : Nat := 300
  /-- Tokens for the answer. -/
  tokens : Nat := 10000
  deriving DecidableEq, Repr

namespace AnalysisLimits

inductive Fault where
  | noItems
  | noTitle
  | noTokens
  deriving DecidableEq, Repr

def Fault.message : Fault → String
  | .noItems => "max_items_analyzed must be greater than 0"
  | .noTitle => "title_max_chars must be greater than 0"
  | .noTokens => "analysis_max_tokens must be greater than 0"

def fault? (l : AnalysisLimits) : Option Fault :=
  if l.items = 0 then some .noItems
  else if l.titleChars = 0 then some .noTitle
  else if l.tokens = 0 then some .noTokens
  else none

def toData (l : AnalysisLimits) : Data :=
  .record [("max_items_analyzed", .ofNat l.items), ("title_max_chars", .ofNat l.titleChars),
    ("max_tags", .ofNat l.tags), ("max_comments", .ofNat l.comments),
    ("comment_max_chars", .ofNat l.commentChars), ("analysis_max_tokens", .ofNat l.tokens)]

def fieldNames : List String :=
  ["max_items_analyzed", "title_max_chars", "max_tags", "max_comments", "comment_max_chars",
    "analysis_max_tokens"]

def ofData? (d : Data) : Option AnalysisLimits :=
  let missing : AnalysisLimits := {}
  match d.settings? fieldNames with
  | some [items, titleChars, tags, comments, commentChars, tokens] => do
    return {
      items := ← Data.withDefault? missing.items Data.uint64? items
      titleChars := ← Data.withDefault? missing.titleChars Data.uint64? titleChars
      tags := ← Data.withDefault? missing.tags Data.uint64? tags
      comments := ← Data.withDefault? missing.comments Data.uint64? comments
      commentChars := ← Data.withDefault? missing.commentChars Data.uint64? commentChars
      tokens := ← Data.withDefault? missing.tokens Data.uint32? tokens }
  | _ => none

end AnalysisLimits
end WorkQuery
