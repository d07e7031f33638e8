/-
A lowered function body.

Statement `k`, counted from 1, computes the value that `Variable` number `k`
names.  Each statement is a node with its type; the locations are a list beside
them, because a body handed in may have too many or too few.  The line table,
the name, the argument count, the slots and the metadata are carried along
unread by everything that transforms a body.
-/
import SsaEdit.Value.Equality
import SsaEdit.Node

namespace SsaEdit

/-- One entry of the line table. -/
structure LineInfo where
  file : Option Text
  line : Int
  function : Option Text
  deriving DecidableEq

/-- A function body. -/
structure IR where
  name : Text
  nargs : Value
  slots : List Text
  lineTable : List LineInfo
  body : List Statement
  locations : List Value
  metadata : List (String × Value)

namespace IR

/-- The number of statements. -/
def size (ir : IR) : Nat := ir.body.length

def code (ir : IR) : List Node := ir.body.map Statement.node

def types (ir : IR) : List Value := ir.body.map Statement.type

/-- Statement `k`. -/
def statement? (ir : IR) (k : Nat) : Option Statement :=
  if k = 0 then none else ir.body[k - 1]?

/-- The node of statement `k`. -/
def node? (ir : IR) (k : Nat) : Option Node := (ir.statement? k).map Statement.node

/-- The nodes with their numbers. -/
def numbered (ir : IR) : List (Nat × Node) :=
  (List.range' 1 ir.size).zip ir.code

/-- Whether a statement has this number. -/
def inRange (ir : IR) (k : Nat) : Bool := 1 ≤ k && k ≤ ir.size

theorem inRange_iff {ir : IR} {k : Nat} : ir.inRange k = true ↔ 1 ≤ k ∧ k ≤ ir.size := by
  simp [inRange]

/-- The variables of all statements in order. -/
def vars (ir : IR) : List Variable := (List.range' 1 ir.size).map Variable.mk

/-- Equality of bodies: part by part, the metadata as an unordered dictionary. -/
def same (nans : Bool) (a b : IR) : Bool :=
  sameAll nans (a.code.map .node) (b.code.map .node) &&
    sameAll nans a.locations b.locations &&
    a.lineTable == b.lineTable && sameAll nans a.types b.types && a.name == b.name &&
    a.nargs.same nans b.nargs && a.slots == b.slots &&
    a.metadata.length == b.metadata.length &&
    a.metadata.all fun (key, value) =>
      match b.metadata.lookup key with
      | some other => value.same nans other
      | none => false

end IR

end SsaEdit
