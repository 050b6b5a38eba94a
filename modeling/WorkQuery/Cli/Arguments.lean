import WorkQuery.Calendar.DateText
import WorkQuery.Cli.Format

/-!
# WorkQuery.Cli.Arguments

The command line. Options stand before or after the words of a command, as `--name value`,
`--name=value`, `-n value`, `-nvalue` or `-n=value`; after `--` everything is a word. No option may
be given twice to one command. `--format` and `--config` may be given at any level; the innermost
one counts.
-/

namespace WorkQuery

inductive CompileSource where
  /-- A filter in a file, or from standard input if the name is a hyphen. -/
  | filterFile (path : String)
  | condition (text : String)
  deriving DecidableEq, Repr

inductive SettingsAction where
  | print
  | create (force : Bool)
  | path
  deriving DecidableEq, Repr

inductive Command where
  | fields (search : Option String)
  | compile (source : CompileSource) (project : Option String) (today : Option Date)
  | classify (utterance : List String) (heuristic : Bool) (project : Option String)
  | settings (action : SettingsAction)
  deriving DecidableEq

/-- A command with what is common to all commands. -/
structure Invocation where
  format : Option OutputFormat
  /-- Path of the settings file. -/
  settings : Option String
  command : Command
  deriving DecidableEq

/-- Command lines that run no command. -/
inductive Refusal where
  | help
  | version
  /-- Not a command line of this program. -/
  | mistaken
  deriving DecidableEq, Repr

namespace Arguments

/-- An option. Its name is also its long form. -/
structure OptionSpec where
  name : String
  short : Option Char := none
  takesValue : Bool := true
  deriving DecidableEq, Repr

/-- Options and words found at one level, and the arguments that are left. -/
structure Level where
  options : List (String × String) := []
  words : List String := []
  rest : List String := []
  deriving DecidableEq, Repr

def Level.value? (l : Level) (name : String) : Option String :=
  (l.options.find? fun o => o.1 == name).map (·.2)

def Level.has (l : Level) (name : String) : Bool := (l.value? name).isSome

/-- What may stand among the options of a level. -/
inductive Words where
  | none
  | many
  /-- One word, which ends the level. -/
  | subcommand
  deriving DecidableEq, Repr

/-- Options of every level. -/
def globalOptions : List OptionSpec := [⟨"format", some 'f', true⟩, ⟨"config", some 'c', true⟩]

/-- Whether an argument can be the value of the option before it. -/
def isValue (argument : String) : Bool :=
  match argument.toList with
  | '-' :: _ :: _ => false
  | _ => true

/-- The level with one more option, unless it has the option already. -/
def Level.add (l : Level) (name value : String) : Except Refusal Level :=
  if l.has name then .error .mistaken
  else .ok { l with options := l.options ++ [(name, value)] }

/-- An option as an argument gives it: its specification, and its value if that is attached. -/
def option? (specs : List OptionSpec) (argument : List Char) :
    Option (OptionSpec × Option String) :=
  match argument with
  | '-' :: '-' :: body =>
    let name := String.ofList (body.takeWhile (· != '='))
    let attached := match body.dropWhile (· != '=') with
      | _ :: value => some (String.ofList value)
      | [] => none
    (specs.find? fun spec => spec.name == name).map fun spec => (spec, attached)
  | '-' :: letter :: body =>
    let attached := match body with
      | [] => none
      | '=' :: value => some (String.ofList value)
      | value => some (String.ofList value)
    (specs.find? fun spec => spec.short == some letter).map fun spec => (spec, attached)
  | _ => none

/-- What an argument that is no option of the level asks for. -/
def refusal (hasVersion : Bool) (argument : String) : Refusal :=
  if argument == "--help" || argument == "-h" then .help
  else if hasVersion && (argument == "--version" || argument == "-V") then .version
  else .mistaken

/-- Reads the arguments of one level; `pending` is the option whose value comes next. -/
def scan (specs : List OptionSpec) (words : Words) (hasVersion : Bool) (pending : Option String)
    (level : Level) : List String → Except Refusal Level
  | [] => if pending.isSome then .error .mistaken else .ok level
  | argument :: rest => do
    match pending with
    | some name =>
      if !isValue argument then throw .mistaken
      scan specs words hasVersion none (← level.add name argument) rest
    | none =>
      if argument == "--" then
        match words with
        | .many => return { level with words := level.words ++ rest }
        | _ => if rest.isEmpty then return level else throw .mistaken
      else if isValue argument then
        match words with
        | .none => throw .mistaken
        | .many =>
          scan specs words hasVersion none { level with words := level.words ++ [argument] } rest
        | .subcommand => return { level with words := [argument], rest }
      else
        match option? specs argument.toList with
        | none => throw (refusal hasVersion argument)
        | some (spec, attached) =>
          match spec.takesValue, attached with
          | true, some value =>
            scan specs words hasVersion none (← level.add spec.name value) rest
          | true, none => scan specs words hasVersion (some spec.name) level rest
          | false, some _ => throw .mistaken
          | false, none => scan specs words hasVersion none (← level.add spec.name "") rest

/-- The options and words of one level. -/
def level (specs : List OptionSpec) (words : Words) (arguments : List String) :
    Except Refusal Level :=
  scan specs words false none {} arguments

/-- The value of an option that is of some kind, if the option is there. -/
def parsed? {α : Type} (parse : String → Option α) (value : Option String) :
    Except Refusal (Option α) :=
  match value with
  | none => .ok none
  | some text =>
    match parse text with
    | some a => .ok (some a)
    | none => .error .mistaken

def projectOption : OptionSpec := ⟨"project", some 'p', true⟩

/-- The command of a word, and the levels that it reads. -/
def command (project : Option String) (word : String) (arguments : List String) :
    Except Refusal (Command × List Level) := do
  match word with
  | "fields" =>
    let found ← level (⟨"search", some 's', true⟩ :: globalOptions) .none arguments
    return (.fields (found.value? "search"), [found])
  | "compile" =>
    let specs := [⟨"spec", some 's', true⟩, ⟨"fragment", none, true⟩, projectOption,
      ⟨"today", none, true⟩] ++ globalOptions
    let found ← level specs .none arguments
    let today ← parsed? (fun s => Date.ofSpacedChars? s.toList) (found.value? "today")
    let source ← match found.value? "spec", found.value? "fragment" with
      | some path, none => .ok (CompileSource.filterFile path)
      | none, some text => .ok (.condition text)
      | _, _ => .error .mistaken
    return (.compile source ((found.value? "project").or project) today, [found])
  | "classify" =>
    let specs := [⟨"heuristic", none, false⟩, projectOption] ++ globalOptions
    let found ← level specs .many arguments
    if found.words.isEmpty then throw .mistaken
    return (.classify found.words (found.has "heuristic") ((found.value? "project").or project),
      [found])
  | "config" =>
    let outer ← level globalOptions .subcommand arguments
    let specs := if outer.words == ["init"] then [⟨"force", none, false⟩] else []
    let inner ← level (specs ++ globalOptions) .none outer.rest
    let action ← match outer.words with
      | ["show"] => .ok SettingsAction.print
      | ["init"] => .ok (.create (inner.has "force"))
      | ["path"] => .ok .path
      | ["help"] => .error .help
      | _ => .error .mistaken
    return (.settings action, [outer, inner])
  | "help" => throw .help
  | _ => throw .mistaken

/-- The innermost value of an option. -/
def innermost? (name : String) (levels : List Level) : Option String :=
  levels.foldl (fun found level => (level.value? name).or found) none

end Arguments

/-- The invocation that a command line asks for. The variables `ADOQ_CONFIG` and `ADOQ_PROJECT` stand
for options that are missing. -/
def Invocation.ofArguments (environment : String → Option String) (arguments : List String) :
    Except Refusal Invocation := do
  let outer ← Arguments.scan Arguments.globalOptions .subcommand true none {} arguments
  let word ← match outer.words with
    | [word] => .ok word
    | _ => .error .mistaken
  let (command, inner) ← Arguments.command (environment "ADOQ_PROJECT") word outer.rest
  let levels := outer :: inner
  for level in levels do
    discard (Arguments.parsed? OutputFormat.ofName? (level.value? "format"))
    if ((level.value? "config").or (environment "ADOQ_CONFIG")) == some "" then throw .mistaken
  let format ← Arguments.parsed? OutputFormat.ofName? (Arguments.innermost? "format" levels)
  return {
    format
    settings := (Arguments.innermost? "config" levels).or (environment "ADOQ_CONFIG")
    command }

end WorkQuery
