import WorkQuery.Data.Decode
import WorkQuery.Oracle.Call
import WorkQuery.Text.Quoted

/-!
# WorkQuery.Oracle.Endpoint

Where the oracle is reached, and how.
-/

namespace WorkQuery

/-- How the credential is presented. -/
inductive AuthScheme where
  /-- In a header of its own. -/
  | apiKey
  /-- As a bearer token. -/
  | bearer
  deriving DecidableEq, Repr

namespace AuthScheme

def all : List AuthScheme := [.apiKey, .bearer]

def name : AuthScheme → String
  | .apiKey => "api_key"
  | .bearer => "bearer"

/-- The name that people see. -/
def title : AuthScheme → String
  | .apiKey => "ApiKey"
  | .bearer => "Bearer"

end AuthScheme

structure Endpoint where
  /-- Address of the service. -/
  address : String := ""
  deployment : String := ""
  apiVersion : String := "2024-12-01-preview"
  auth : AuthScheme := .apiKey
  /-- The environment variable that holds the credential. -/
  credentialVariable : String := "AZURE_OPENAI_API_KEY"
  timeoutSeconds : Nat := 60
  /-- Attempts for each call, the first one included. -/
  attempts : Nat := 3
  /-- The most tokens to allow after an answer that was cut short. -/
  mostTokens : Nat := 8000
  /-- A message that goes before every prompt. -/
  systemPrompt : Option String := none
  deriving DecidableEq, Repr

namespace Endpoint

inductive Fault where
  | notAUrl
  | noDeployment
  | noAttempts
  | noTime
  deriving DecidableEq, Repr

def Fault.message : Fault → String
  | .notAUrl => "endpoint must be an http(s) URL"
  | .noDeployment => "deployment must not be empty"
  | .noAttempts => "max_retries must be greater than 0"
  | .noTime => "timeout_secs must be greater than 0"

def fault? (e : Endpoint) : Option Fault :=
  let startsWith (scheme : String) := (Text.dropPrefix? scheme.toList e.address.toList).isSome
  if !(startsWith "https://" || startsWith "http://") then some .notAUrl
  else if Text.isBlankText e.deployment then some .noDeployment
  else if e.attempts = 0 then some .noAttempts
  else if e.timeoutSeconds = 0 then some .noTime
  else none

def isGiven (e : Endpoint) : Bool := !Text.isBlankText e.address

def completionsUrl (e : Endpoint) : String :=
  String.ofList (Text.dropEndWhile (· == '/') e.address.toList) ++ "/openai/deployments/"
    ++ e.deployment ++ "/chat/completions?api-version=" ++ e.apiVersion

def toData (e : Endpoint) : Data :=
  .record ([("endpoint", .string e.address), ("deployment", .string e.deployment),
    ("api_version", .string e.apiVersion), ("auth", .string e.auth.name),
    ("credential_env", .string e.credentialVariable), ("timeout_secs", .ofNat e.timeoutSeconds),
    ("max_retries", .ofNat e.attempts), ("truncation_cap", .ofNat e.mostTokens)]
    ++ [("system_prompt", Data.ofOption .string e.systemPrompt)])

def authOfData? (d : Data) : Option AuthScheme :=
  d.choice?.bind fun name => AuthScheme.all.find? fun scheme => scheme.name == name

def fieldNames : List String :=
  ["endpoint", "deployment", "api_version", "auth", "credential_env", "timeout_secs",
    "max_retries", "truncation_cap", "system_prompt"]

def ofData? (d : Data) : Option Endpoint :=
  let missing : Endpoint := {}
  match d.settings? fieldNames with
  | some [address, deployment, version, auth, holder, timeout, attempts, most, system] => do
    return {
      address := ← Data.withDefault? missing.address Data.string? address
      deployment := ← Data.withDefault? missing.deployment Data.string? deployment
      apiVersion := ← Data.withDefault? missing.apiVersion Data.string? version
      auth := ← Data.withDefault? missing.auth authOfData? auth
      credentialVariable := ← Data.withDefault? missing.credentialVariable Data.string? holder
      timeoutSeconds := ← Data.withDefault? missing.timeoutSeconds Data.uint64? timeout
      attempts := ← Data.withDefault? missing.attempts Data.uint32? attempts
      mostTokens := ← Data.withDefault? missing.mostTokens Data.uint32? most
      systemPrompt := ← Data.maybe? Data.string? system }
  | _ => none

/-- The endpoint for people to read. -/
def describe (e : Endpoint) : String :=
  let system := match e.systemPrompt with
    | some text => "Some(" ++ Text.quoted text ++ ")"
    | none => "None"
  "AzureOpenAiConfig \x7b endpoint: " ++ Text.quoted e.address
    ++ ", deployment: " ++ Text.quoted e.deployment
    ++ ", api_version: " ++ Text.quoted e.apiVersion
    ++ ", auth: " ++ e.auth.title
    ++ ", credential_env: " ++ Text.quoted e.credentialVariable
    ++ ", timeout_secs: " ++ Numeral.natText e.timeoutSeconds
    ++ ", max_retries: " ++ Numeral.natText e.attempts
    ++ ", truncation_cap: " ++ Numeral.natText e.mostTokens
    ++ ", system_prompt: " ++ system ++ " \x7d"

end Endpoint

/-- An endpoint with the credential for it. -/
structure OracleClient where
  endpoint : Endpoint
  credential : String
  deriving DecidableEq

namespace OracleClient

/-- A client for an endpoint without fault. -/
def make (endpoint : Endpoint) (credential : String) : Except OracleError OracleClient :=
  match endpoint.fault? with
  | some fault => .error (.misconfigured fault.message)
  | none => .ok ⟨endpoint, credential⟩

/-- A client whose credential is the value of the endpoint's variable, if that is set; whether it is
comes first. -/
def ofVariable (endpoint : Endpoint) (credential : Option String) :
    Except OracleError OracleClient :=
  match credential with
  | some value => make endpoint value
  | none =>
    .error (.misconfigured
      ("environment variable " ++ endpoint.credentialVariable ++ " is not set"))

/-- The client for people to read; the credential stays hidden. -/
def describe (c : OracleClient) : String :=
  "AzureOpenAiProvider \x7b config: " ++ c.endpoint.describe
    ++ ", credential: \"<redacted>\" \x7d"

/-- The answer to every call while there is no connection. -/
def ask (_ : OracleClient) (_ : OracleCall) : Except OracleError String :=
  .error (.communication "Request failed")

end OracleClient
end WorkQuery
