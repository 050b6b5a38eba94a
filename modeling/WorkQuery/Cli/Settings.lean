import WorkQuery.Cli.Format
import WorkQuery.Data.TomlPrinter
import WorkQuery.Data.TomlReader
import WorkQuery.Intent.Settings
import WorkQuery.Oracle.Endpoint
import WorkQuery.Session.Freshness
import WorkQuery.Turn.Settings

/-!
# WorkQuery.Cli.Settings

The settings file: one TOML file with a section for each part of the program.
-/

namespace WorkQuery

structure Settings where
  /-- The project that queries are asked in. -/
  project : Option String := none
  format : OutputFormat := .table
  caps : ResultCaps := {}
  freshness : Freshness := {}
  classifier : ClassifierSettings := {}
  turn : TurnSettings := {}
  /-- Where the oracle is; without an address there is none. -/
  endpoint : Endpoint := {}
  deriving DecidableEq

namespace Settings

/-- A fault, with the section that has it. -/
structure Fault where
  part : String
  detail : String
  deriving DecidableEq, Repr

def Fault.message (f : Fault) : String := "[" ++ f.part ++ "] " ++ f.detail

/-- The first fault, if there is one. The endpoint counts only if it has an address. -/
def fault? (s : Settings) : Option Fault :=
  (s.caps.fault?.map fun f => ⟨"compiler", f.message⟩)
    <|> (s.freshness.fault?.map fun f => ⟨"cache", f.message⟩)
    <|> (s.classifier.fault?.map fun f => ⟨"classifier", f.message⟩)
    <|> (s.turn.fault?.map fun f => ⟨"pipeline", f.message⟩)
    <|> (if s.endpoint.isGiven then s.endpoint.fault?.map fun f => ⟨"llm", f.message⟩ else none)

def toData (s : Settings) : Data :=
  .record (Data.member? "project" .string s.project
    ++ [("format", .string s.format.name), ("compiler", s.caps.toData),
      ("cache", s.freshness.toData), ("classifier", s.classifier.toData),
      ("pipeline", s.turn.toData), ("llm", s.endpoint.toData)])

def fieldNames : List String :=
  ["project", "format", "compiler", "cache", "classifier", "pipeline", "llm"]

def ofData? (d : Data) : Option Settings :=
  match d.settings? fieldNames with
  | some [project, format, caps, freshness, classifier, turn, endpoint] => do
    return {
      project := ← Data.maybe? Data.string? project
      format := ← Data.withDefault? .table OutputFormat.ofData? format
      caps := ← Data.withDefault? {} ResultCaps.ofData? caps
      freshness := ← Data.withDefault? {} Freshness.ofData? freshness
      classifier := ← Data.withDefault? {} ClassifierSettings.ofData? classifier
      turn := ← Data.withDefault? {} TurnSettings.ofData? turn
      endpoint := ← Data.withDefault? {} Endpoint.ofData? endpoint }
  | _ => none

def text (s : Settings) : String := s.toData.tomlText

def ofText? (text : String) : Option Settings := (Data.ofTomlText? text).bind ofData?

end Settings
end WorkQuery
