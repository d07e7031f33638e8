/-
Structural validation of a body.

A validation never stops at the first problem.  It reports, in this order, what
is wrong with the locations, with the references and argument numbers statement
by statement, and with the shape that the host asks for by its rules.  Whether a
value may be used before the statement that computes it is a matter of policy.

An argument count that is no number can be compared with nothing; then the
validation fails as a whole as soon as one argument number has to be compared
with it.
-/
import SsaEdit.Fault
import SsaEdit.Flow
import SsaEdit.Log

namespace SsaEdit

/-- Which values may be used in a statement that does not follow the one that
computes them. -/
inductive ForwardPolicy
  /-- None. -/
  | reject
  /-- Values of a phi whose statement is reachable from the phi. -/
  | phiReachable
  /-- All. -/
  | allow
  deriving DecidableEq

namespace ForwardPolicy

def name : ForwardPolicy → String
  | .reject => "reject"
  | .phiReachable => "phi-reachable"
  | .allow => "allow"

def all : List ForwardPolicy := [.reject, .phiReachable, .allow]

def ofName? (s : String) : Option ForwardPolicy := all.find? fun p => p.name == s

end ForwardPolicy

/-- A check of the shape of a body that the host asks for. -/
abbrev HostRule := IR → List Defect

/-! ## Host rules -/

/-- The body has to end in a terminator. -/
def terminatorRule : HostRule := fun ir =>
  match ir.code.getLast? with
  | none => [⟨"missing-terminator", Text.ofString "function body is empty", none, "error"⟩]
  | some last =>
    if last.isTerminator then []
    else [⟨"missing-terminator", Text.ofString ("last statement is " ++ last.kindName ++
      ", expected Return or unconditional Branch"), some (.variable ⟨ir.size⟩), "error"⟩]

def misplacedPhi (i : Nat) : Defect :=
  ⟨"misplaced-phi", Text.ofString "phi is not at the start of a basic block", some (.variable ⟨i⟩), "error"⟩

/-- Go through numbered nodes, knowing whether only phis were met since the
block began. -/
def phiScan (isLeader : Nat → Bool) : Bool → List (Nat × Node) → List Defect
  | _, [] => []
  | inHead, (i, .phi _) :: rest =>
    let inHead := inHead || isLeader i
    (if inHead then [] else [misplacedPhi i]) ++ phiScan isLeader inHead rest
  | _, _ :: rest => phiScan isLeader false rest

/-- Phis have to stand at the start of a basic block. -/
def phiPlacementRule : HostRule := fun ir => phiScan ir.isLeader false ir.numbered

def defaultRules : List HostRule := [terminatorRule, phiPlacementRule]

/-! ## Locations -/

/-- Whether a location is a number of a line table entry. -/
def locationInRange (tableSize : Nat) : Value → Bool
  | .int n => 0 ≤ n && n < tableSize
  | _ => false

/-- What is wrong with location number `i`, counted from 1. -/
def locationDefect? (ir : IR) (i : Nat) (location : Value) : Option Defect :=
  if locationInRange ir.lineTable.length location then none
  else
    some ⟨"location-out-of-range",
      Text.ofString ("location " ++ location.display ++ " is outside the line table (0.." ++
        decimal (ir.lineTable.length - 1) ++ ")"),
      if i ≤ ir.size then some (.variable ⟨i⟩) else none, "error"⟩

def locationDefects (ir : IR) : List Defect :=
  (if ir.lineTable.isEmpty then
    [⟨"empty-location-table", Text.ofString "line table is empty", none, "error"⟩] else []) ++
  (if ir.locations.length = ir.size then [] else
    [⟨"location-length-mismatch", Text.ofString (decimal ir.locations.length ++
      " locations for " ++ decimal ir.size ++ " statements"), none, "error"⟩]) ++
  if ir.lineTable.isEmpty then []
  else
    ((List.range' 1 ir.locations.length).zip ir.locations).filterMap fun (i, location) =>
      locationDefect? ir i location

/-! ## References and arguments -/

/-- What is wrong with a reference held by statement `i`, when `reachable` tells
which statements can be reached from there. -/
def referenceDefect? (ir : IR) (policy : ForwardPolicy) (i : Nat) (isPhi : Bool)
    (reachable : Nat → Bool) (r : Reference) : Option Defect :=
  let defect (code wording : String) : Option Defect :=
    some ⟨code, Text.ofString wording, some (.variable ⟨i⟩), "error"⟩
  match r with
  | .label l =>
    if ir.inRange l.id then none else defect "dangling-label" (l.display ++ " is not a statement")
  | .value v =>
    if !ir.inRange v.id then defect "dangling-reference" (v.display ++ " is not defined")
    else if v.id < i || policy = .allow then none
    else if policy = .phiReachable && isPhi then
      if reachable v.id then none
      else defect "forward-reference"
        ("phi value " ++ v.display ++ " is not reachable from the phi")
    else defect "forward-reference" (v.display ++ " is used before it is defined")

def Node.isPhi : Node → Bool
  | .phi _ => true
  | _ => false

/-- Whether the number of an argument is between 1 and the argument count. -/
def argumentInRange (nargs : Value) (index : Int) : Bool :=
  1 ≤ index &&
    match nargs.number? with
    | some n => n.intLe index
    | none => false

/-- What is wrong with an argument number mentioned by statement `i`. -/
def argumentDefect? (nargs : Value) (i : Nat) (index : Int) : Option Defect :=
  if argumentInRange nargs index then none
  else
    some ⟨"argument-out-of-range",
      Text.ofString (argumentDisplay index ++ " is outside 1..") ++ nargs.plain,
      some (.variable ⟨i⟩), "error"⟩

/-- What is wrong with the references and arguments of statement `i`. -/
def nodeDefects (ir : IR) (policy : ForwardPolicy) (i : Nat) (n : Node) : List Defect :=
  let reachable := if n.isPhi && policy = .phiReachable then ir.reachableFrom i else []
  n.references.filterMap (referenceDefect? ir policy i n.isPhi reachable.contains) ++
    n.arguments.filterMap (argumentDefect? ir.nargs i)

def referenceDefects (ir : IR) (policy : ForwardPolicy) : List Defect :=
  ir.numbered.flatMap fun (i, n) => nodeDefects ir policy i n

/-- Whether some argument number has to be compared with a count that is no
number. -/
def countsWithoutNumber (ir : IR) : Bool :=
  ir.nargs.number?.isNone && ir.code.any fun n => n.arguments.any fun index => 1 ≤ index

/-- The number of the statement that a defect names, which has to be given by a
variable or a label. -/
def Defect.number (d : Defect) : Except Fault (Option Nat) :=
  match d.statement with
  | none => .ok none
  | some (.variable v) => .ok (some v.id)
  | some (.label l) => .ok (some l.id)
  | some v => .error (.unnumbered v)

/-! ## The whole validation -/

/-- Every defect of a body, in order. -/
def defects (ir : IR) (policy : ForwardPolicy) (rules : List HostRule) : List Defect :=
  locationDefects ir ++ referenceDefects ir policy ++ rules.flatMap fun rule => rule ir

/-- The report on a body. -/
def validate (ir : IR) (policy : ForwardPolicy := .phiReachable)
    (rules : List HostRule := defaultRules) : Except Fault Report :=
  if countsWithoutNumber ir then .error .uncountableArguments
  else .ok ⟨defects ir policy rules⟩

/-- What a validation logs: one record when there is a defect. -/
def Report.log (report : Report) (function : Text) : List LogRecord :=
  if report.ok then []
  else
    [⟨.debug, .validation, Fault.about function (decimal report.defects.length ++
      " defect(s): " ++ commaSeparated report.codes)⟩]

/-- Refuse a body with a defect. -/
def check (ir : IR) (policy : ForwardPolicy) (rules : List HostRule) : Except Fault Unit := do
  let report ← validate ir policy rules
  if report.ok then return () else throw (.invalid report none)

end SsaEdit
