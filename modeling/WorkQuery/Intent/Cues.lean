import WorkQuery.Intent.Decision
import WorkQuery.Text.Alphabetic
import WorkQuery.Text.Lowercase
import WorkQuery.Text.Numeric

/-!
# WorkQuery.Intent.Cues

Words and phrases that ask for an analysis or point back at earlier items. A cue is found if its
words stand in the utterance one after another; case and punctuation do not count.
-/

namespace WorkQuery

/-- The words and phrases to look for. -/
structure Cues where
  /-- Cues that ask for an analysis. -/
  analysis : List String
  /-- Cues that point back at earlier items. -/
  references : List String
  /-- Cues of the types of analysis; the first one found decides. -/
  types : List (String × AnalysisType)
  deriving DecidableEq, Repr

/-- The cues found in an utterance. -/
structure CueHits where
  analysis : List String
  references : List String
  type : Option AnalysisType
  deriving DecidableEq, Repr

namespace CueHits

def wantsAnalysis (h : CueHits) : Bool := !h.analysis.isEmpty || h.type.isSome

def refersBack (h : CueHits) : Bool := !h.references.isEmpty

end CueHits

namespace Cues

def standard : Cues where
  analysis := ["summarize", "summarise", "summary", "analyze", "analyse", "analysis", "newsletter",
    "insights", "insight", "report", "trends", "patterns", "tell me about", "overview", "digest",
    "highlights", "recap", "timeline", "write up"]
  references := ["cache", "cached", "those", "these", "them", "above", "that data",
    "these results", "the results", "last results", "same items"]
  types := [("newsletter", .newsletter), ("insight", .insights), ("insights", .insights),
    ("trends", .insights), ("patterns", .insights), ("timeline", .timeline),
    ("history", .timeline), ("comments", .comments), ("discussion", .comments),
    ("report", .report), ("full analysis", .full), ("everything", .full)]

/-- A letter, a digit or an apostrophe. -/
def isWordPart (c : Char) : Bool := Text.isAlphanumeric c || c == '\''

/-- The words of a text in lowercase, without apostrophes at their ends. -/
def words (text : String) : List (List Char) :=
  let runs := Text.splitNonempty (fun c => !isWordPart c) text.toList
  let bare := runs.map fun run => Text.lowerChars (Text.trimWhere (· == '\'') run)
  bare.filter fun word => !word.isEmpty

/-- The words of a text with a space before each of them and one after the last. -/
def padded (text : String) : List Char := ' ' :: Text.joinChars [' '] (words text) ++ [' ']

/-- Whether the words of a cue stand in a padded text. -/
def occursIn (cue : String) (text : List Char) : Bool :=
  let part := padded cue
  !part.all Text.isBlank && Text.containsBlock part text

/-- Types that are no more than a word of the items' own; they count only beside a cue that asks for
an analysis. -/
def needsAnalysisCue : AnalysisType → Bool
  | .timeline | .comments | .full => true
  | .newsletter | .summary | .insights | .report => false

/-- The cues in an utterance, in the order of the lists. -/
def scan (c : Cues) (utterance : String) : CueHits :=
  let text := padded utterance
  let found (cues : List String) : List String := cues.filter fun cue => occursIn cue text
  let analysis := found c.analysis
  let named := (c.types.find? fun entry => occursIn entry.1 text).map (·.2)
  let type := named.filter fun t => !(analysis.isEmpty && needsAnalysisCue t)
  let implied := if analysis.isEmpty then none else some AnalysisType.summary
  ⟨analysis, found c.references, type.or implied⟩

inductive Fault where
  | noAnalysisCue
  | blankCue
  deriving DecidableEq, Repr

def Fault.message : Fault → String
  | .noAnalysisCue => "at least one analysis cue is required"
  | .blankCue => "cues must not be blank"

def fault? (c : Cues) : Option Fault :=
  if c.analysis.all Text.isBlankText then some .noAnalysisCue
  else if (c.analysis ++ c.references ++ c.types.map (·.1)).any Text.isBlankText then
    some .blankCue
  else none

def typeEntryData (entry : String × AnalysisType) : Data :=
  .list [.string entry.1, .string entry.2.name]

def toData (c : Cues) : Data :=
  .record [("analysis", .ofStrings c.analysis), ("cache_references", .ofStrings c.references),
    ("analysis_types", .list (c.types.map typeEntryData))]

/-- A cue and the name of its type; items after these two are read over. -/
def typeEntryOfData? : Data → Option (String × AnalysisType)
  | .list (cue :: type :: _) => do
    let name ← type.choice?
    return (← cue.string?, ← AnalysisType.all.find? fun t => t.name == name)
  | _ => none

/-- Cues in a settings file; a list that is left out is the standard one. -/
def ofData? (d : Data) : Option Cues :=
  match d.settings? ["analysis", "cache_references", "analysis_types"] with
  | some [analysis, references, types] => do
    return {
      analysis := ← Data.withDefault? standard.analysis (Data.list? Data.string?) analysis
      references := ← Data.withDefault? standard.references (Data.list? Data.string?) references
      types := ← Data.withDefault? standard.types (Data.list? typeEntryOfData?) types }
  | _ => none

end Cues
end WorkQuery
