import WorkQuery.Field.Registry
import WorkQuery.Intent.Decision
import WorkQuery.Session.Cache

/-!
# WorkQuery.Intent.Prompt

The prompt that asks the oracle what a turn needs: instructions, the state of the cached items, the
last turns of the conversation, the fields, the types of analysis, and the utterance.
-/

namespace WorkQuery

structure ClassificationPrompt where
  utterance : String
  registry : Registry
  cache : Option CacheStatus := none
  /-- Earlier turns of the user, oldest first. -/
  history : List String := []
  /-- How many of the earlier turns to show. -/
  turns : Nat := 0

namespace ClassificationPrompt

/-- What the oracle is asked to do. -/
def instructions : String := Text.join "\n" [
  "Classify a request about Azure DevOps work items.",
  "",
  "Intent types:",
  "- NEW_QUERY: the user wants work items fetched. Provide \"filter\", set \"analysis\" "
    ++ "to null.",
  "- CACHED_ANALYSIS: the user wants the cached results analyzed. Provide \"analysis\", "
    ++ "set \"filter\" to null.",
  "- COMBINED: the user wants new items fetched and then analyzed. Provide both.",
  "",
  "Rules:",
  "- Use only the known fields listed below, by reference name",
  "- Operators: =, <>, >, <, >=, <=, IN, NOT IN, CONTAINS, NOT CONTAINS, CONTAINS WORDS, "
    ++ "NOT CONTAINS WORDS, UNDER, NOT UNDER",
  "- Relative periods: today, yesterday, this_week, this_month, this_year, this_quarter, "
    ++ "last_quarter, last_year, last_N_days, last_N_weeks, last_N_months",
  "- Absolute dates use YYYY-MM-DD in \"start\" and \"end\"",
  "- \"me\" means the current user",
  "- Never invent IDs, names or paths the user did not mention",
  "- If there are no cached results, do not answer CACHED_ANALYSIS"]

/-- The form of a decision. -/
def schema : String := Text.join "\n" [
  "\x7b",
  "  \"intent_type\": \"NEW_QUERY | CACHED_ANALYSIS | COMBINED\",",
  "  \"confidence\": 0.0-1.0,",
  "  \"filter\": \x7b",
  "    \"ids\": [123],",
  "    \"predicates\": [\x7b\"field\": \"System.State\", \"operator\": \"=\", \"value\": "
    ++ "\"Active\"\x7d],",
  "    \"date_window\": \x7b\"field\": \"System.ChangedDate\", \"relative\": "
    ++ "\"last_7_days\"\x7d,",
  "    \"free_text_terms\": [\"login\"],",
  "    \"include\": \x7b\"comments\": false, \"history\": false\x7d,",
  "    \"sort\": \x7b\"field\": \"System.ChangedDate\", \"direction\": \"DESC\"\x7d,",
  "    \"max_items\": 100",
  "  \x7d | null,",
  "  \"analysis\": \x7b",
  "    \"analysis_type\": \"summary\",",
  "    \"format_requirements\": \"optional\",",
  "    \"prompt\": \"what to produce\"",
  "  \x7d | null,",
  "  \"reasoning\": \"one sentence\"",
  "\x7d"]

def reminder : String := Text.join "\n" [
  "Output format (one JSON object, no additional text):",
  "\x7b\"intent_type\": \"...\", \"confidence\": 0.0, \"filter\": null, \"analysis\": "
    ++ "null, \"reasoning\": \"...\"\x7d",
  "",
  "Remember: Return ONLY valid JSON, no markdown code blocks, no explanations."]

/-- What is said of the cached items. -/
def cacheText : Option CacheStatus → String
  | some status =>
    if status.expired then "Cached results: expired; a new query is required."
    else
      "Cached results: " ++ Numeral.natText status.count ++ " work items from \""
        ++ status.description ++ "\", fetched " ++ Numeral.natText (status.age / Freshness.perSecond) ++ "s ago."
  | none => "Cached results: none."

/-- The last turns. -/
def recent (p : ClassificationPrompt) : List String :=
  p.history.drop (p.history.length - p.turns)

/-- One line for each item, with a dash. -/
def listText (items : List String) : String :=
  Text.join "" (items.map fun item => "- " ++ item ++ "\n")

def text (p : ClassificationPrompt) : String :=
  let recentText :=
    if p.recent.isEmpty then ""
    else "Recent conversation (oldest first):\n" ++ listText p.recent ++ "\n"
  let fields := p.registry.fields.map fun f => f.reference ++ ": " ++ f.valueType.name
  instructions ++ "\n\n" ++ cacheText p.cache ++ "\n\n" ++ recentText
    ++ "Known fields (reference: type):\n" ++ listText fields ++ "\n"
    ++ "Analysis types: " ++ Text.join ", " (AnalysisType.all.map AnalysisType.name) ++ "\n\n"
    ++ "User request:\n---\n" ++ p.utterance ++ "\n---\n\n" ++ reminder

end ClassificationPrompt
end WorkQuery
