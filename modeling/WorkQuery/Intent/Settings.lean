import WorkQuery.Intent.Cues
import WorkQuery.Intent.Reply

/-!
# WorkQuery.Intent.Settings

How utterances are classified, and when a decision is sure enough to act on.
-/

namespace WorkQuery

inductive Strategy where
  /-- The oracle decides. -/
  | oracle
  /-- Cues and criteria decide. -/
  | heuristic
  deriving DecidableEq, Repr

namespace Strategy

def all : List Strategy := [.oracle, .heuristic]

def name : Strategy → String
  | .oracle => "oracle"
  | .heuristic => "heuristic"

def ofData? (d : Data) : Option Strategy :=
  d.choice?.bind fun name => all.find? fun strategy => strategy.name == name

end Strategy

structure ClassifierSettings where
  strategy : Strategy := .oracle
  /-- Decisions that are less sure are refused. -/
  threshold : Binary64 := Binary64.ofDecimal false 6 (-1)
  /-- Whether to fetch again where an analysis finds no fresh items. -/
  fetchAgain : Bool := false
  /-- Whether cues and criteria decide when the oracle fails. -/
  fallback : Bool := false
  /-- Tokens for a decision without a filter. -/
  decisionTokens : Nat := 500
  /-- Tokens for a decision with a filter. -/
  filterTokens : Nat := 2000
  /-- How many earlier turns the oracle is shown. -/
  historyTurns : Nat := 5
  cues : Cues := Cues.standard
  deriving DecidableEq

namespace ClassifierSettings

/-- Acts on weaker signals, and fetches again. -/
def aggressive : ClassifierSettings :=
  { threshold := Binary64.ofDecimal false 4 (-1), fetchAgain := true, fallback := true }

/-- Refuses what is uncertain, and shows the oracle more. -/
def lenient : ClassifierSettings :=
  { threshold := Binary64.ofDecimal false 8 (-1), historyTurns := 10, filterTokens := 4000 }

inductive Fault where
  | threshold
  | noDecisionTokens
  | filterTokens
  | cues (fault : Cues.Fault)
  deriving DecidableEq, Repr

def Fault.message : Fault → String
  | .threshold => "confidence_threshold must be between 0.0 and 1.0"
  | .noDecisionTokens => "classification_max_tokens must be greater than 0"
  | .filterTokens => "extraction_max_tokens cannot be less than classification_max_tokens"
  | .cues fault => fault.message

def fault? (s : ClassifierSettings) : Option Fault :=
  if !isConfidence s.threshold then some .threshold
  else if s.decisionTokens = 0 then some .noDecisionTokens
  else if s.filterTokens < s.decisionTokens then some .filterTokens
  else s.cues.fault?.map .cues

def toData (s : ClassifierSettings) : Data :=
  .record [("strategy", .string s.strategy.name), ("confidence_threshold", .float s.threshold),
    ("downgrade_without_cache", .bool s.fetchAgain), ("heuristic_fallback", .bool s.fallback),
    ("classification_max_tokens", .ofNat s.decisionTokens),
    ("extraction_max_tokens", .ofNat s.filterTokens), ("history_turns", .ofNat s.historyTurns),
    ("cues", s.cues.toData)]

def fieldNames : List String :=
  ["strategy", "confidence_threshold", "downgrade_without_cache", "heuristic_fallback",
    "classification_max_tokens", "extraction_max_tokens", "history_turns", "cues"]

def ofData? (d : Data) : Option ClassifierSettings :=
  let missing : ClassifierSettings := {}
  match d.settings? fieldNames with
  | some [strategy, threshold, fetchAgain, fallback, decision, filter, turns, cues] => do
    return {
      strategy := ← Data.withDefault? missing.strategy Strategy.ofData? strategy
      threshold := ← Data.withDefault? missing.threshold Data.float? threshold
      fetchAgain := ← Data.withDefault? missing.fetchAgain Data.bool? fetchAgain
      fallback := ← Data.withDefault? missing.fallback Data.bool? fallback
      decisionTokens := ← Data.withDefault? missing.decisionTokens Data.uint32? decision
      filterTokens := ← Data.withDefault? missing.filterTokens Data.uint32? filter
      historyTurns := ← Data.withDefault? missing.historyTurns Data.uint64? turns
      cues := ← Data.withDefault? missing.cues Cues.ofData? cues }
  | _ => none

end ClassifierSettings
end WorkQuery
