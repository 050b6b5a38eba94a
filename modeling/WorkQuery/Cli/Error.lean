import WorkQuery.Intent.Error

/-!
# WorkQuery.Cli.Error

Why a command failed.
-/

namespace WorkQuery

inductive CommandError where
  | settings (detail : String)
  | compile (error : CompileError)
  | classify (error : ClassifyError)
  /-- A file could not be read or written. -/
  | file (detail : String)
  /-- A filter that is not one in JSON. -/
  | notAFilter
  /-- A settings file that is not one in TOML. -/
  | notSettings
  | invalidInput (detail : String)

namespace CommandError

def message : CommandError → String
  | .settings detail => "Configuration error: " ++ detail
  | .compile error => "Compile error: " ++ error.message
  | .classify error => "Classification failed: " ++ error.message
  | .file detail => "I/O error: " ++ detail
  | .notAFilter => "Serialization error"
  | .notSettings => "TOML parsing error"
  | .invalidInput detail => "Invalid input: " ++ detail

/-- What lies behind the error, if it is an error of another part of the program. -/
def cause? : CommandError → Option String
  | .compile error => some error.message
  | .classify error => some error.message
  | .file detail => some detail
  | .settings _ | .notAFilter | .notSettings | .invalidInput _ => none

/-- The line that tells of the error, with what lies behind it. -/
def line (e : CommandError) : String :=
  "Error: " ++ Text.join ": " (e.message :: e.cause?.toList)

end CommandError
end WorkQuery
