import Std.Time.DateTime
import WorkQuery.Cli.Program

/-!
# WorkQuery.Main

The program: the commands with the files, the environment and the clock of the machine.
-/

namespace WorkQuery

/-- The number of a system error; some come with the sign turned round. -/
def errorNumber (code : UInt32) : UInt32 := if code < 2147483648 then code else 0 - code

/-- An error of the system, with its number. -/
def systemReason (detail : String) (code : UInt32) : String :=
  detail.capitalize ++ " (os error " ++ Numeral.natText (errorNumber code).toNat ++ ")"

/-- Why the system could not do something. -/
def failureReason : IO.Error → String
  | .alreadyExists _ code detail | .otherError code detail | .resourceBusy code detail
  | .resourceVanished code detail | .unsupportedOperation code detail
  | .hardwareFault code detail | .unsatisfiedConstraints code detail
  | .illegalOperation code detail | .protocolError code detail | .timeExpired code detail
  | .interrupted _ code detail | .noFileOrDirectory _ code detail
  | .invalidArgument _ code detail | .permissionDenied _ code detail
  | .resourceExhausted _ code detail | .inappropriateType _ code detail
  | .noSuchThing _ code detail => systemReason detail code
  | .unexpectedEof => "unexpected end of file"
  | .userError _ => "stream did not contain valid UTF-8"

/-- Numbers of the errors that tell of a name with no file under it. -/
def missingFileCodes : List UInt32 := [2, 20]

/-- Whether the error tells of a name with no file under it. -/
def tellsOfNoFile : IO.Error → Bool
  | .noFileOrDirectory _ _ _ => true
  | .inappropriateType _ code _ | .noSuchThing _ code _ | .otherError code _ =>
    missingFileCodes.contains (errorNumber code)
  | _ => false

def readFile (path : String) : IO FileContent := do
  try
    return .text (← IO.FS.readFile path)
  catch e =>
    return if tellsOfNoFile e then .missing (failureReason e) else .unreadable (failureReason e)

/-- Path of the directory that a file is in. -/
def directoryOf (path : String) : String :=
  String.ofList ((path.toList.reverse.dropWhile (· != '/')).dropWhile (· == '/')).reverse

def writeFile (path content : String) : IO (Option String) := do
  try
    let directory := directoryOf path
    if !directory.isEmpty then IO.FS.createDirAll directory
    IO.FS.writeFile path content
    return none
  catch e => return some (failureReason e)

def currentDay : IO Date := do
  let now ← Std.Time.Timestamp.now
  let day := Std.Time.PlainDate.ofEpochDay now.toDaysSinceUnixEpoch
  return (Date.ofParts? day.year.toInt day.month.toNat day.day.toNat).getD Date.epoch

/-- The machine that the program runs on. -/
def machine : Host IO where
  environment name := IO.getEnv name
  read := readFile
  write := writeFile
  standardInput := do (← IO.getStdin).readToEnd
  today := currentDay

end WorkQuery

def main (arguments : List String) : IO UInt32 := do
  let report ← WorkQuery.Program.run WorkQuery.machine arguments
  IO.print report.output
  if let some line := report.error then IO.eprintln line
  return report.code.toUInt32
