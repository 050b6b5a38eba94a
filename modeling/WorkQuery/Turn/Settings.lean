import WorkQuery.Analysis.Limits

/-!
# WorkQuery.Turn.Settings

How long each stage of a turn may take, and what an analysis is shown.
-/

namespace WorkQuery

/-- Deadlines are in seconds. -/
structure TurnSettings where
  classification : Nat := 60
  fetch : Nat := 120
  analysis : Nat := 180
  limits : AnalysisLimits := {}
  deriving DecidableEq, Repr

namespace TurnSettings

/-- Short deadlines and small prompts. -/
def aggressive : TurnSettings where
  classification := 20
  fetch := 45
  analysis := 60
  limits := { items := 50, comments := 3, tokens := 4000 }

/-- Long deadlines and more of each item. -/
def lenient : TurnSettings where
  classification := 120
  fetch := 300
  analysis := 600
  limits := { items := 500, tags := 10, comments := 10 }

inductive Fault where
  | noClassificationTime
  | noFetchTime
  | noAnalysisTime
  | limits (fault : AnalysisLimits.Fault)
  deriving DecidableEq, Repr

def Fault.message : Fault → String
  | .noClassificationTime => "classification_timeout_secs must be greater than 0"
  | .noFetchTime => "fetch_timeout_secs must be greater than 0"
  | .noAnalysisTime => "analysis_timeout_secs must be greater than 0"
  | .limits fault => fault.message

def fault? (s : TurnSettings) : Option Fault :=
  if s.classification = 0 then some .noClassificationTime
  else if s.fetch = 0 then some .noFetchTime
  else if s.analysis = 0 then some .noAnalysisTime
  else s.limits.fault?.map .limits

def toData (s : TurnSettings) : Data :=
  .record [("classification_timeout_secs", .ofNat s.classification),
    ("fetch_timeout_secs", .ofNat s.fetch), ("analysis_timeout_secs", .ofNat s.analysis),
    ("analyzer", s.limits.toData)]

def fieldNames : List String :=
  ["classification_timeout_secs", "fetch_timeout_secs", "analysis_timeout_secs", "analyzer"]

def ofData? (d : Data) : Option TurnSettings :=
  let missing : TurnSettings := {}
  match d.settings? fieldNames with
  | some [classification, fetch, analysis, limits] => do
    return {
      classification := ← Data.withDefault? missing.classification Data.uint64? classification
      fetch := ← Data.withDefault? missing.fetch Data.uint64? fetch
      analysis := ← Data.withDefault? missing.analysis Data.uint64? analysis
      limits := ← Data.withDefault? missing.limits AnalysisLimits.ofData? limits }
  | _ => none

end TurnSettings
end WorkQuery
