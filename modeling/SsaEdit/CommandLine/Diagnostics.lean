/-
What `check` finds in files.

A file that cannot be read gives one diagnostic, a text that is no listing gives
one with the line, and a body gives one for each defect of its validation.
Diagnostics are written one to a line, or all together as JSON.
-/
import SsaEdit.CommandLine.Path
import SsaEdit.Listing.Reader
import SsaEdit.Validation

namespace SsaEdit
namespace CommandLine

/-- One finding in a file, at a statement, at a line of the text, or neither. -/
structure Diagnostic where
  file : String
  code : String
  message : Text
  statement : Option Nat := none
  line : Option Nat := none

namespace Diagnostic

/-- The severity of every finding. -/
def severity : String := "error"

/-- Where a finding is. -/
def place (d : Diagnostic) : String :=
  match d.statement, d.line with
  | some k, _ => (Variable.mk k).display
  | none, some line => decimal line
  | none, none => "?"

/-- A finding on a line of its own. -/
def display (d : Diagnostic) : Text :=
  Text.ofString (d.file ++ ":" ++ d.place ++ ": " ++ severity ++ ": ") ++ d.message ++
    Text.ofString (" [" ++ d.code ++ "]\n")

/-- A number, or `null`. -/
def jsonNumber (n : Option Nat) : List Char :=
  match n with
  | some n => Nat.toDigits 10 n
  | none => "null".toList

/-- A finding as a JSON object. -/
def json (d : Diagnostic) : List Char :=
  "\x7b\"file\": ".toList ++ Text.encode d.file ++ ", \"code\": ".toList ++ Text.encode d.code ++
    ", \"message\": ".toList ++ Text.encode d.message ++ ", \"severity\": ".toList ++
    Text.encode severity ++ ", \"statement\": ".toList ++ jsonNumber d.statement ++
    ", \"line\": ".toList ++ jsonNumber d.line ++ ['\x7d']

end Diagnostic

/-- The result of reading a file: why it failed, or its characters. -/
abbrev Contents := Except ReadFault (List Char)

/-- The namespace for the names of a file that is only looked at. -/
def fileNamespace : Namespace := .anonymous 0

/-- The body in a file, if its text is a listing. -/
def bodyOf (text : List Char) : Except Fault IR := Listing.read fileNamespace (unifyLineEnds text)

def defectDiagnostic (file : String) (d : Defect) : Except Fault Diagnostic :=
  d.number.map fun number => ⟨file, d.code, d.message, number, none⟩

/-- What is found in one file, with what is logged.  A fault of a single literal
is not a finding and stops the whole check. -/
def examine (policy : ForwardPolicy) (file : String) (contents : Contents) :
    Except Fault (List LogRecord × List Diagnostic) :=
  match contents with
  | .error fault => .ok ([], [⟨file, "io-error", fault.message, none, none⟩])
  | .ok text =>
    match bodyOf text with
    | .error (.listing line column cause) =>
      .ok ([], [⟨file, "syntax-error", ((Fault.listing line column cause).message?).getD [],
        none, some line⟩])
    | .error fault => .error fault
    | .ok ir => do
      let report ← validate ir policy
      let found ← report.defects.mapM (defectDiagnostic file)
      return (report.log ir.name, found)

/-- What is found in several files, in their order. -/
def examineAll (policy : ForwardPolicy) :
    List (String × Contents) → Except Fault (List LogRecord × List Diagnostic)
  | [] => .ok ([], [])
  | (file, contents) :: rest => do
    let (log, found) ← examine policy file contents
    let (laterLog, laterFound) ← examineAll policy rest
    return (log ++ laterLog, found ++ laterFound)

/-- The exit code that goes with some findings. -/
def exitCodeOf (found : List Diagnostic) : Nat := if found.isEmpty then 0 else 1

/-- All findings as one JSON object on a line. -/
def jsonReport (found : List Diagnostic) : List Char :=
  "\x7b\"exit_code\": ".toList ++ Nat.toDigits 10 (exitCodeOf found) ++
    ", \"diagnostics\": [".toList ++
    List.intercalate [',', ' '] (found.map Diagnostic.json) ++ [']', '\x7d', '\n']

end CommandLine
end SsaEdit
