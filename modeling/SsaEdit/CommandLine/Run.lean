/-
Carrying out a command.

Files are read before this module is asked, so everything here is a function of
the invocation, the setting of the environment, and the contents of the files.
-/
import SsaEdit.CommandLine.Arguments
import SsaEdit.CommandLine.Diagnostics
import SsaEdit.Listing.Printer

namespace SsaEdit
namespace CommandLine

/-- The environment variable that names the default policy. -/
def policyVariable : String := "SSAKIT_FORWARD_REFS"

/-- The policy by default: the one that the environment names.  An unknown name
is reported and ignored. -/
def defaultPolicy (setting : Option String) : ForwardPolicy × List LogRecord :=
  match setting with
  | none => (.phiReachable, [])
  | some name =>
    if name.isEmpty then (.phiReachable, [])
    else
      match ForwardPolicy.ofName? name with
      | some policy => (policy, [])
      | none =>
        (.phiReachable, [⟨.warning, .commandLine,
          Text.ofString ("ignoring unknown " ++ policyVariable ++ "=" ++ Text.display name)⟩])

/-- What a finished command leaves: its exit code and the two output streams. -/
structure Outcome where
  exitCode : Nat
  output : Text
  errors : Text

/-- The records that are shown, one to a line. -/
def shownLog (verbose : Bool) (log : List LogRecord) : Text :=
  (log.filter fun r => verbose || r.level = .warning).flatMap fun r => r.line ++ Text.ofString "\n"

/-- Check some files. -/
def runCheck (verbose : Bool) (policy : ForwardPolicy) (log : List LogRecord) (json : Bool)
    (files : List (String × Contents)) : Except Fault Outcome := do
  let (laterLog, found) ← examineAll policy files
  let logged := shownLog verbose (log ++ laterLog)
  let code := exitCodeOf found
  return if json then ⟨code, Text.ofChars (jsonReport found), logged⟩
    else ⟨code, [], logged ++ found.flatMap Diagnostic.display⟩

/-- Print the listing of a file in its normal form. -/
def runFmt (file : String) (contents : Contents) : Except Fault Outcome :=
  let failed (place : String) (message : Text) : Except Fault Outcome :=
    .ok ⟨1, [], Text.ofString (file ++ place ++ ": error: ") ++ message ++ Text.ofString "\n"⟩
  match contents with
  | .error fault => failed "" fault.message
  | .ok text =>
    match bodyOf text with
    | .error (.listing line column cause) =>
      failed (":" ++ decimal line) (((Fault.listing line column cause).message?).getD [])
    | .error fault => .error fault
    | .ok ir => .ok ⟨0, Text.ofChars (Listing.print ir), []⟩

namespace Invocation

/-- The files that have to be read, under the paths they show. -/
def files (i : Invocation) : List String :=
  match i.order with
  | .check files _ _ => files.map plainPath
  | .fmt file => [plainPath file]

/-- Carry out a command, given the contents of its files. -/
def run (i : Invocation) (setting : Option String) (contents : String → Contents) :
    Except Fault Outcome :=
  match i.order with
  | .check files forwardRefs json =>
    let (policy, log) :=
      match forwardRefs with
      | some policy => (policy, [])
      | none => defaultPolicy setting
    runCheck i.verbose policy log json
      (files.map fun file => (plainPath file, contents (plainPath file)))
  | .fmt file => runFmt (plainPath file) (contents (plainPath file))

end Invocation

/-- What is left of a refused command line: help was given, or it was misused. -/
def Refusal.exitCode : Refusal → Nat
  | .help => 0
  | .misuse => 2

end CommandLine
end SsaEdit
