import WorkQuery.Data.JsonReader
import WorkQuery.Intent.Error
import WorkQuery.Query.Compile

/-!
# WorkQuery.Intent.Reply

Decisions that the oracle writes as JSON, perhaps inside a code block. A reply is not trusted: it has
to have the form of a decision exactly, and its filter has to compile.
-/

namespace WorkQuery

/-- A decision as a reply gives it, its parts not yet compared with its kind. -/
structure DecisionDraft where
  kind : IntentKind
  confidence : Binary64
  filter : Option ItemFilter
  analysis : Option (AnalysisType × Option String × Option String)
  reasoning : String

/-- The kind of exactly that name. -/
def IntentKind.ofData? (d : Data) : Option IntentKind :=
  d.name?.bind fun s => IntentKind.all.find? fun kind => kind.name == s

namespace DecisionDraft

/-- Type, format and prompt of an analysis. -/
def analysisOfData? (d : Data) : Option (AnalysisType × Option String × Option String) :=
  match d.fields? true ["analysis_type", "format_requirements", "prompt"] with
  | some [some type, format, prompt] => do
    return (← AnalysisRequest.typeOfData? type, ← Data.maybe? Data.string? format,
      ← Data.maybe? Data.string? prompt)
  | _ => none

def ofData? (d : Data) : Option DecisionDraft :=
  match d.fields? true ["intent_type", "confidence", "filter", "analysis", "reasoning"] with
  | some [some kind, some confidence, filter, analysis, reasoning] => do
    return {
      kind := ← IntentKind.ofData? kind
      confidence := ← confidence.float?
      filter := ← Data.maybe? ItemFilter.ofData? filter
      analysis := ← Data.maybe? analysisOfData? analysis
      reasoning := ← Data.withDefault? "" Data.string? reasoning }
  | _ => none

end DecisionDraft

namespace Reply

/-- What encloses a code block. -/
def fence : List Char := ['\x60', '\x60', '\x60']

/-- The text without a fence at its end. -/
def dropClosingFence (cs : List Char) : List Char :=
  match Text.dropPrefix? fence cs.reverse with
  | some rest => rest.reverse
  | none => cs

/-- The JSON text of a reply: what the code block holds, if the reply is one. -/
def jsonChars (reply : List Char) : Except CriteriaFault (List Char) :=
  let trimmed := Text.trimChars reply
  if (Text.dropPrefix? fence trimmed).isSome then
    match trimmed.dropWhile (· != '\n') with
    | [] => .error .emptyCodeBlock
    | _ :: body =>
      .ok (Text.trimChars (dropClosingFence (Text.dropEndWhile Text.isBlank body)))
  else .ok trimmed

def unlessBlank (s : Option String) : Option String := s.filter fun text => !Text.isBlankText text

end Reply

/-- A text literal as the name of a type. -/
def Literal.asTypeName (r : Registry) : Literal → Literal
  | .text name => .text (r.normalizeWorkItemType name).name
  | other => other

/-- The predicate with the store's names of types, if it is about the type. -/
def Predicate.withTypeNames (r : Registry) (p : Predicate) : Predicate :=
  match r.resolve? p.field with
  | some field =>
    if field.reference = Reference.workItemType then
      { p with
        value := match p.value with
          | .single literal => .single (literal.asTypeName r)
          | .list literals => .list (literals.map (Literal.asTypeName r)) }
    else p
  | none => p

/-- The filter with the store's names of types. -/
def ItemFilter.withTypeNames (r : Registry) (f : ItemFilter) : ItemFilter :=
  { f with predicates := f.predicates.map (Predicate.withTypeNames r) }

/-- The action of a kind, if just its parts are there. -/
def Action.ofParts : IntentKind → Option ItemFilter → Option AnalysisRequest →
    Except CriteriaFault Action
  | .newQuery, some f, none => .ok (.newQuery f)
  | .cachedAnalysis, none, some r => .ok (.cachedAnalysis r)
  | .combined, some f, some r => .ok (.combined f r)
  | kind, f, r => .error (.payload kind f.isSome r.isSome)

def isConfidence (x : Binary64) : Bool :=
  Binary64.le (Binary64.zero false) x && Binary64.le x (Binary64.ofNat 1)

namespace Decision

/-- A filter of a decision: with the store's names of types, and one that compiles. -/
def checkFilter (c : Compiler) (f : ItemFilter) : Except CriteriaFault ItemFilter :=
  let named := f.withTypeNames c.registry
  match c.check named with
  | .ok () => .ok named
  | .error e => .error (.doesNotCompile e)

/-- The decision that a draft makes. The utterance stands for a prompt that is blank or missing. -/
def ofDraft (c : Compiler) (utterance : String) (draft : DecisionDraft) :
    Except CriteriaFault Decision := do
  if !isConfidence draft.confidence then throw (.confidenceOutside draft.confidence)
  let request := draft.analysis.map fun (type, format, prompt) =>
    (⟨type, Reply.unlessBlank format, (Reply.unlessBlank prompt).getD utterance⟩ : AnalysisRequest)
  let filter ← match draft.filter with
    | some f => (checkFilter c f).map some
    | none => .ok none
  let action ← Action.ofParts draft.kind filter request
  return Decision.make action draft.confidence draft.reasoning

/-- The decision that a reply of the oracle writes. -/
def ofReply (c : Compiler) (utterance reply : String) : Except CriteriaFault Decision := do
  let json ← Reply.jsonChars reply.toList
  match (Data.Json.ofChars? json).bind DecisionDraft.ofData? with
  | some draft => ofDraft c utterance draft
  | none => throw .notADecision

end Decision
end WorkQuery
