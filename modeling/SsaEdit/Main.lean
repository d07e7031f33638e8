/-
The program: reads files, carries out one command, writes the two streams.
-/
import SsaEdit.CommandLine.Run

open SsaEdit SsaEdit.CommandLine

/-- How the program is used. -/
def usageText : String :=
  "usage: ssakit [-h] [-v] check [--forward-refs POLICY] [--json] FILE...\n" ++
  "       ssakit [-h] [-v] fmt FILE\n"

/-- Read one file. -/
def readContents (path : String) : IO Contents := do
  try
    let text ← IO.FS.readFile path
    return .ok text.toList
  catch error =>
    match error with
    | .noFileOrDirectory .. => return .error .missing
    | .inappropriateType _ _ reason =>
      return .error (if reason.toLower = "not a directory" then .notDirectory else .isDirectory)
    | .permissionDenied _ _ reason => return .error (.other reason)
    | _ => return .error (.other (toString error))

def main (args : List String) : IO UInt32 := do
  match CommandLine.parse args with
  | .error refusal =>
    (if refusal = .help then IO.print else IO.eprint) usageText
    return refusal.exitCode.toUInt32
  | .ok invocation =>
    let setting ← IO.getEnv policyVariable
    let read ← invocation.files.mapM fun path => return (path, ← readContents path)
    let contents (path : String) : Contents := (read.lookup path).getD (.error .missing)
    match invocation.run setting contents with
    | .ok outcome =>
      IO.print (Text.toString outcome.output)
      IO.eprint (Text.toString outcome.errors)
      return outcome.exitCode.toUInt32
    | .error fault =>
      IO.eprintln (Text.toString ((fault.message?).getD "unreadable literal"))
      return 1
