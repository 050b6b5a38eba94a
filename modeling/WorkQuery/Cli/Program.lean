import WorkQuery.Cli.Arguments
import WorkQuery.Cli.Error
import WorkQuery.Cli.Output
import WorkQuery.Cli.Settings
import WorkQuery.Intent.Classifier
import WorkQuery.Query.Reader

/-!
# WorkQuery.Cli.Program

The commands. What surrounds the program, files and the clock, is reached through a `Host`; apart
from that a command is a function of its arguments and settings.
-/

namespace WorkQuery

/-- What reading a file gave. -/
inductive FileContent where
  | text (content : String)
  /-- There is no such file. -/
  | missing (reason : String)
  | unreadable (reason : String)
  deriving DecidableEq, Repr

/-- Whether there is something under the name of the file. -/
def FileContent.isThere : FileContent → Bool
  | .missing _ => false
  | .text _ | .unreadable _ => true

/-- What surrounds the program. -/
structure Host (m : Type → Type) where
  environment : String → m (Option String)
  read : String → m FileContent
  /-- Writes a file and the directories above it; the result is the reason if that failed. -/
  write : String → String → m (Option String)
  standardInput : m String
  today : m Date

/-- How the program ends. -/
structure ExitReport where
  code : Nat := 0
  output : String := ""
  /-- The line that tells of an error. -/
  error : Option String := none
  deriving DecidableEq, Repr

namespace Settings

/-- The classifier that the settings ask for, and the oracle that it asks. Without an address or a
credential there is no oracle; then the heuristic decides, whatever the strategy. -/
def buildClassifier (s : Settings) (compiler : Compiler) (heuristic : Bool)
    (credential : Option String) : Classifier × Option OracleClient :=
  if heuristic then
    (⟨compiler, { s.classifier with strategy := .heuristic }, false⟩, none)
  else if !s.endpoint.isGiven then (⟨compiler, s.classifier, false⟩, none)
  else
    match OracleClient.ofVariable s.endpoint credential with
    | .ok client => (⟨compiler, s.classifier, true⟩, some client)
    | .error _ => (⟨compiler, s.classifier, false⟩, none)

/-- The decision on an utterance in a session without cached items. -/
def firstDecision (s : Settings) (compiler : Compiler) (heuristic : Bool) (credential : Option String)
    (utterance : String) (history : List String) : Except ClassifyError Decision :=
  let (classifier, client) := s.buildClassifier compiler heuristic credential
  let situation : Situation := ⟨{ freshness := s.freshness }, ⟨0⟩, history⟩
  let answer := match classifier.question? situation utterance, client with
    | some call, some client => client.ask call
    | _, _ => .ok ""
  classifier.classify situation utterance answer

end Settings

namespace Program

/-- The compiler of the standard fields with the caps of the settings. -/
def compiler (s : Settings) : Compiler := ⟨Registry.standard, s.caps⟩

def line (s : String) : String := s ++ "\n"

/-- The fields whose reference has the text in it, in any case. -/
def matchingFields (search : Option String) : List FieldDef :=
  let part := Text.lowerChars (Text.trimChars ((search.getD "").toList))
  Registry.standard.fields.filter fun f =>
    Text.containsBlock part (Text.lowerChars f.reference.toList)

def filterFault : FilterTextFault → CommandError
  | .blank => .invalidInput "Filter is empty"
  | .notAFilter => .notAFilter

/-- The text of a file or, for a hyphen, of standard input. -/
def readSource {m : Type → Type} [Monad m] (host : Host m) (path : String) :
    m (Except CommandError String) := do
  if path == "-" then return .ok (← host.standardInput)
  match ← host.read path with
  | .text content => return .ok content
  | .missing reason | .unreadable reason => return .error (.file reason)

/-- What `compile` compiles, as an input of the compiler. -/
def compileInput {m : Type → Type} [Monad m] (host : Host m) :
    CompileSource → m (Except CommandError QueryInput)
  | .condition text => return .ok (.condition text)
  | .filterFile path => do
    match ← readSource host path with
    | .error e => return .error e
    | .ok text =>
      match ItemFilter.ofText text with
      | .error fault => return .error (filterFault fault)
      | .ok filter => return .ok (.filter filter)

def compileOutput (s : Settings) (format : OutputFormat) (ctx : QueryContext)
    (input : QueryInput) : Except CommandError String :=
  match (compiler s).compileInput ctx input with
  | .ok query => .ok (line (Output.query format query))
  | .error e => .error (.compile e)

def classifyOutput (s : Settings) (format : OutputFormat) (ctx : QueryContext) (heuristic : Bool)
    (credential : Option String) (utterance : String) : Except CommandError String :=
  if Text.isBlankText utterance then .error (.invalidInput "Utterance is empty")
  else
    match s.firstDecision (compiler s) heuristic credential utterance [] with
    | .error e => .error (.classify e)
    | .ok decision =>
      match decision.action.filter? with
      | none => .ok (line (Output.decision format decision none))
      | some filter =>
        match (compiler s).compile ctx filter with
        | .ok query => .ok (line (Output.decision format decision (some query)))
        | .error e => .error (.compile e)

/-- Writes a settings file with the standard settings. One that is there is kept, unless `force`. -/
def createSettings {m : Type → Type} [Monad m] (host : Host m) (path : String) (force : Bool) :
    m (Except CommandError String) := do
  if (← host.read path).isThere && !force then
    return .error (.settings (path ++ " already exists; pass --force to overwrite it"))
  match ← host.write path ({} : Settings).text with
  | some reason => return .error (.file reason)
  | none => return .ok (line (Output.success ("Wrote " ++ path)))

/-- The settings in a file, or the standard ones if it is not there. -/
def loadSettings {m : Type → Type} [Monad m] (host : Host m) (path : String) :
    m (Except CommandError Settings) := do
  match ← host.read path with
  | .missing _ => return .ok {}
  | .unreadable reason => return .error (.file reason)
  | .text content =>
    match Settings.ofText? content with
    | some s => return .ok s
    | none => return .error .notSettings

def output {m : Type → Type} [Monad m] (host : Host m) (s : Settings) (path : String)
    (format : OutputFormat) : Command → m (Except CommandError String)
  | .fields search => return .ok (line (Output.fields format (matchingFields search)))
  | .compile source project today => do
    let ctx := QueryContext.ofProject (project.or s.project) (today.getD (← host.today))
    match ← compileInput host source with
    | .error e => return .error e
    | .ok input => return compileOutput s format ctx input
  | .classify words heuristic project => do
    let ctx := QueryContext.ofProject (project.or s.project) (← host.today)
    let credential ← host.environment s.endpoint.credentialVariable
    return classifyOutput s format ctx heuristic credential (Text.join " " words)
  | .settings .print => return .ok s.text
  | .settings .path => return .ok (line path)
  | .settings (.create force) => createSettings host path force

/-- Whether a command needs settings without fault. -/
def needsValidSettings : Command → Bool
  | .settings _ => false
  | _ => true

/-- Path of the settings file in the user's own directory. -/
def standardPath (home : String) : String :=
  (if home.endsWith "/" then home else home ++ "/") ++ ".adoq/config.toml"

def invoke {m : Type → Type} [Monad m] (host : Host m) (i : Invocation) :
    m (Except CommandError String) := do
  let path ← match i.settings with
    | some path => pure (some path)
    | none => do
      let home ← host.environment "HOME"
      pure (home.map standardPath)
  match path with
  | none => return .error (.settings "Could not find home directory")
  | some path =>
    match ← loadSettings host path with
    | .error e => return .error e
    | .ok s =>
      match if needsValidSettings i.command then s.fault? else none with
      | some fault => return .error (.settings fault.message)
      | none => output host s path (i.format.getD s.format) i.command

def version : String := "adoq 0.1.0"

def run {m : Type → Type} [Monad m] (host : Host m) (arguments : List String) : m ExitReport := do
  let settings ← host.environment "ADOQ_CONFIG"
  let project ← host.environment "ADOQ_PROJECT"
  let environment (name : String) : Option String :=
    if name == "ADOQ_CONFIG" then settings else if name == "ADOQ_PROJECT" then project else none
  match Invocation.ofArguments environment arguments with
  | .error .mistaken => return { code := 2 }
  | .error .help => return {}
  | .error .version => return { output := line version }
  | .ok invocation =>
    match ← invoke host invocation with
    | .ok output => return { output }
    | .error e => return { code := 1, error := some e.line }

end Program
end WorkQuery
