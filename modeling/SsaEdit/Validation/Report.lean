/-
The outcome of a validation: every defect found, in order.
-/
import SsaEdit.Value.Display

namespace SsaEdit

/-- One structural problem; the statement is the offending one, if there is one.
It is given by its variable, though a host rule may put any value there. -/
structure Defect where
  code : String
  message : Text
  statement : Option Value := none
  severity : String := "error"

namespace Defect

/-- A defect on one line: the statement, the severity, the message, the code. -/
def display (d : Defect) : Text :=
  let place : String :=
    match d.statement with
    | some v => v.display ++ ": "
    | none => ""
  Text.ofString (place ++ d.severity ++ ": ") ++ d.message ++
    Text.ofString (" [" ++ d.code ++ "]")

end Defect

/-- All defects of one body. -/
structure Report where
  defects : List Defect

namespace Report

def ok (r : Report) : Bool := r.defects.isEmpty

def codes (r : Report) : List String := r.defects.map Defect.code

end Report

end SsaEdit
