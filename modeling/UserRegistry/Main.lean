import Std.Time.DateTime.Timestamp
import UserRegistry.Program

/-!
# Command line

Runs the program on real files, with random identifiers and the clock.  The
users go to standard output, events and the report of a failure to standard
error.
-/

namespace UserRegistry.CommandLine

/-- Whether a code that the system gives, with either sign, is `number`. -/
def isCode (code : UInt32) (number : UInt32) : Bool :=
  code = number || code = -number

def fileFault (error : IO.Error) : FileFault :=
  match error with
  | .noFileOrDirectory _ _ _ => .notFound
  | .inappropriateType _ code _ => if isCode code 21 then .isDirectory else .notDirectory
  | .invalidArgument _ code _ =>
    if isCode code 36 then .nameTooLong else .other (toString error)
  | _ => .other (toString error)

/-- The bytes of a file, or why there are none. -/
def readFile (path : String) : IO (Except FileFault ByteArray) := do
  try
    return .ok (← IO.FS.readBinFile path)
  catch error =>
    return .error (fileFault error)

def randomBits : IO (BitVec 128) := do
  let bytes ← IO.getRandomBytes 16
  return .ofNat 128 (Numeral.ofDigits 256 (bytes.data.toList.map UInt8.toNat))

def clock : IO Instant := do
  let nanoseconds := (← Std.Time.Timestamp.now).toNanosecondsSinceUnixEpoch.val
  return ⟨nanoseconds / 1000000000, (nanoseconds % 1000000000).toNat⟩

/-- An identifier and a time for each user that a configuration seeds. -/
def draw (path : String) (found : Except FileFault ByteArray) : IO Source := do
  let users :=
    match Config.load path found with
    | .ok config => config.users.length
    | .error _ => 0
  let bits ← (List.range users).mapM fun _ => randomBits
  let times ← (List.range users).mapM fun _ => clock
  return .ofLists bits times

def eventLine (style : LogStyle) (event : Log.Event) : String :=
  match style with
  | .json =>
    (Json.object
      [ ("level", .string event.severity.name),
        ("fields", event.fieldsJson),
        ("target", .string event.target) ]).compact
  | .console => event.severity.name ++ " " ++ event.target ++ ": " ++ event.line

end UserRegistry.CommandLine

open UserRegistry in
/-- Runs the program; the exit code tells whether it succeeded. -/
def main (arguments : List String) : IO UInt32 := do
  let path := Program.configPath arguments
  let found ← CommandLine.readFile path
  let source ← CommandLine.draw path found
  let run := Program.run source (← IO.getEnv "RUST_LOG") arguments fun _ => found
  for event in run.events do
    IO.eprintln (CommandLine.eventLine run.style event)
  IO.print run.output
  for line in (run.report.map Report.lines).getD [] do
    IO.eprintln line
  return .ofNat run.exitCode
