/-
What can go wrong.

A fault is a cause with the facts of the case.  `Fault.message?` is the one place that
holds the wording and `Fault.kind` the one that holds the class.  Some faults have no
wording of their own, because they arise in a single comparison or in the reading of a
single literal and say nothing beyond their class.
-/
import SsaEdit.IR
import SsaEdit.Environment
import SsaEdit.Validation.Report
import SsaEdit.Value.Display

namespace SsaEdit

/-- Why a text is no listing of a body. -/
inductive ListingFault
  /-- Something that cannot stand here; the excerpt shows where. -/
  | unexpected (excerpt : String)
  /-- A statement with the wrong number. -/
  | misnumbered (expected : Nat) (found : String)
  /-- A branch whose condition is the absent value. -/
  | absentCondition

/-- A failed operation. -/
inductive Fault
  -- Building values.
  | idNotInteger (v : Value)
  | idNegative (n : Int)
  | targetNotLabel (v : Value)
  | edgeNotLabel (v : Value)
  | argumentNotInteger (v : Value)
  | notANode (v : Value)
  | notAStatement (v : Value)
  | notAGlobal (v : Value)
  | typeCount (types statements : Nat)
  /-- A key that contains a list. -/
  | unhashableKey
  -- Addressing statements.
  | irAddress (v : Value)
  | outsideIR (v : Variable) (size : Nat)
  | canvasAddress (v : Value)
  | notOnCanvas (v : Variable)
  | deleted (v : Variable)
  | notReserved (v : Variable)
  | alreadyPlaced (v : Variable)
  | negativeReserve
  -- Building bodies.
  | unbound (name : String) (inModule : Option String)
  /-- A module that hands missing names to something that cannot be called. -/
  | noFallback (v : Value)
  /-- A module that cannot be shown, because what it binds as the record of its
  origin has no name and no place. -/
  | noOrigin (v : Value)
  | dangling (records : List Dangling)
  | emptyLineTable (function : Text)
  | alreadyIterating (function : Text)
  | alreadyFinished (function : Text)
  /-- A source with fewer locations than statements. -/
  | missingLocation
  | invalid (report : Report) (ir : Option IR)
  /-- An argument count that is not a number. -/
  | uncountableArguments
  /-- The statement of a defect, when it is not given by a reference. -/
  | unnumbered (v : Value)
  -- Lowering.
  | noService
  | notABody (v : Value)
  -- Reading listings.
  | listing (line column : Nat) (cause : ListingFault)
  /-- A text literal with an escape that means nothing. -/
  | badEscape
  /-- A text literal that holds U+0000 itself and not an escape for it. -/
  | bareNull
  /-- A spelling of no number, or of an integer with too many digits. -/
  | unreadableNumber

/-- The class of a fault, by which callers tell faults apart without reading a wording.  The first
nine are about bodies and what is done with them, the others about an unfit value as such. -/
inductive FaultKind
  | indexOutOfRange
  | unboundGlobal
  | danglingReference
  | emptyLocationTable
  | reentrantIteration
  | useAfterFinish
  | invalidIR
  | loweringUnavailable
  | malformedListing
  /-- A value of the wrong type. -/
  | wrongType
  /-- A value of the right type that will not do. -/
  | badValue
  | missingItem
  | missingField
  | malformedLiteral
  deriving DecidableEq, Repr

def ListingFault.message : ListingFault → String
  | .unexpected excerpt => "unexpected input: " ++ excerpt
  | .misnumbered expected found => "expected %" ++ decimal expected ++ ", found " ++ found
  | .absentCondition => "branch condition cannot be \x60none\x60"

namespace Fault

/-- The wording of a fault about a function, which is named in front. -/
def about (function : Text) (wording : String) : Text :=
  function ++ Text.ofString (": " ++ wording)

/-- The wording of an invalid body: one indented line for each defect. -/
def defectLines (report : Report) : Text :=
  (report.defects.map fun d => Text.ofString "\n  " ++ d.display).flatten

/-- The wording of a fault, if it has one. -/
def message? : Fault → Option Text
  | .idNotInteger v => some ("statement ids must be int, got " ++ v.kindName : String)
  | .idNegative n => some ("statement ids must be non-negative, got " ++ decimalInt n : String)
  | .targetNotLabel v => some ("branch target must be a Label, got " ++ v.display : String)
  | .edgeNotLabel v => some ("phi edges must be Labels, got " ++ v.display : String)
  | .argumentNotInteger v => some ("argument index must be int, got " ++ v.display : String)
  | .notANode v => some ("not an IR node: " ++ v.display : String)
  | .notAStatement v => some ("expected an IR node or Statement, got " ++ v.kindName : String)
  | .typeCount types statements =>
    some ("types has " ++ decimal types ++ " entries for " ++ decimal statements ++
      " statements" : String)
  | .irAddress v => some ("IR positions are addressed by Variable, got " ++ v.display : String)
  | .outsideIR v size => some (v.display ++ " is outside 1.." ++ decimal size : String)
  | .canvasAddress v =>
    some ("canvas positions are addressed by Variable, got " ++ v.display : String)
  | .notOnCanvas v => some (v.display ++ " is not on the canvas" : String)
  | .deleted v => some (v.display ++ " was deleted" : String)
  | .notReserved v => some (v.display ++ " is not a reserved id" : String)
  | .alreadyPlaced v => some (v.display ++ " was already placed" : String)
  | .negativeReserve => some ("reserved must be non-negative" : String)
  | .unbound name none => some ("global " ++ Text.display name ++ " is not bound" : String)
  | .unbound name (some shown) =>
    some ("global " ++ Text.display name ++ " is not bound in " ++ shown : String)
  | .dangling records =>
    some (decimal records.length ++ " dangling reference(s): " ++
      commaSeparated (records.map Dangling.display) : String)
  | .emptyLineTable function => some (about function "line table is empty")
  | .alreadyIterating function => some (about function "iteration already in progress")
  | .alreadyFinished function => some (about function "builder was already finished")
  | .invalid report _ => some (Text.ofString "invalid IR:" ++ defectLines report)
  | .noService => some ("no lowering service supplied or registered" : String)
  | .notABody v =>
    some ("lowering service returned " ++ v.kindName ++ ", expected FunctionIR" : String)
  | .listing line column cause =>
    some (decimal line ++ ":" ++ decimal column ++ ": " ++ cause.message : String)
  | .unhashableKey | .notAGlobal _ | .noFallback _ | .noOrigin _ | .missingLocation
  | .uncountableArguments | .unnumbered _ | .badEscape | .bareNull | .unreadableNumber => none

/-- The class of a fault. -/
def kind : Fault → FaultKind
  | .outsideIR .. | .notOnCanvas _ | .deleted _ | .notReserved _ | .alreadyPlaced _ =>
    .indexOutOfRange
  | .unbound .. => .unboundGlobal
  | .dangling _ => .danglingReference
  | .emptyLineTable _ => .emptyLocationTable
  | .alreadyIterating _ => .reentrantIteration
  | .alreadyFinished _ => .useAfterFinish
  | .invalid .. => .invalidIR
  | .noService => .loweringUnavailable
  | .listing .. => .malformedListing
  | .idNotInteger _ | .targetNotLabel _ | .edgeNotLabel _ | .argumentNotInteger _ | .notANode _
  | .notAStatement _ | .unhashableKey | .irAddress _ | .canvasAddress _ | .noFallback _
  | .uncountableArguments | .notABody _ => .wrongType
  | .idNegative _ | .typeCount .. | .negativeReserve | .bareNull | .unreadableNumber => .badValue
  | .missingLocation => .missingItem
  | .notAGlobal _ | .noOrigin _ | .unnumbered _ => .missingField
  | .badEscape => .malformedLiteral

end Fault

end SsaEdit
