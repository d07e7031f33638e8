/-
Values and nodes.

A node is one operation of the intermediate representation; its operands are
values.  A value is a variable, an argument, a global, or a literal of any kind,
also one of the host program that the library merely carries: a callable, a
foreign object, a list or a tuple.  Lists and tuples are opaque, so a variable
inside one is not a reference.  Arguments and globals are nodes that may also
stand as operands, which is why nodes are values and the two types are mutual.
-/
import SsaEdit.Reference
import SsaEdit.Number.Shortest
import SsaEdit.Text.Quoted

namespace SsaEdit

/-- A namespace, told apart by its name or, if it has none, by the order in
which it was made.  Two namespaces with equal contents are still two. -/
inductive Namespace
  | named (name : String)
  | anonymous (serial : Nat)
  deriving DecidableEq

/-- A symbol looked up in a namespace when it is needed. -/
structure GlobalRef where
  home : Namespace
  name : String
  deriving DecidableEq

mutual

/-- What an operand can be. -/
inductive Value
  /-- The absent value. -/
  | null
  | bool (b : Bool)
  | int (n : Int)
  | float (x : Binary64)
  | text (t : Text)
  | variable (v : Variable)
  | label (l : Label)
  /-- A function of the host, known by its qualified name. -/
  | callable (name : String)
  /-- Another object of the host, known by how it displays. -/
  | foreign (shown : String)
  | list (items : List Value)
  | tuple (items : List Value)
  /-- The type of a statement whose type nobody has said. -/
  | unknown
  | node (n : Node)
  /-- A node with its type. -/
  | statement (n : Node) (type : Value)

/-- One operation. -/
inductive Node
  | call (callee : Value) (args : List Value)
  /-- Jump; with a condition other than the absent value, jump when it is false. -/
  | branch (target : Label) (cond : Value)
  | ret (value : Value)
  /-- Merge the values that flow in from the labelled statements. -/
  | phi (incoming : List (Label × Value))
  | const (value : Value)
  | global (ref : GlobalRef)
  /-- The argument with this number, counted from 1. -/
  | argument (index : Int)

end

instance : Inhabited Value := ⟨.null⟩

instance : Inhabited Node := ⟨.const .null⟩

/-- A node and the type noted for it. -/
structure Statement where
  node : Node
  type : Value := .unknown

namespace Value

def isNull : Value → Bool
  | .null => true
  | _ => false

def isUnknown : Value → Bool
  | .unknown => true
  | _ => false

/-- The argument number that a value is. -/
def argument? : Value → Option Int
  | .node (.argument index) => some index
  | _ => none

/-- The statement that a value is, a bare node having no type yet. -/
def toStatement? : Value → Option Statement
  | .statement n type => some ⟨n, type⟩
  | .node n => some ⟨n, .unknown⟩
  | _ => none

end Value

/-- A statement as a value. -/
def Statement.toValue (s : Statement) : Value := .statement s.node s.type

/-! ## Numbers among the values -/

/-- A value that takes part in arithmetic comparison. -/
inductive Number
  | int (n : Int)
  | float (x : Binary64)

namespace Number

/-- Equality as numbers; `nans` tells whether two not-a-numbers are equal. -/
def eq (nans : Bool) : Number → Number → Bool
  | .int m, .int n => m == n
  | .int m, .float x => x.eqInt m
  | .float x, .int m => x.eqInt m
  | .float x, .float y => x.numericEq nans y

/-- Whether an integer is at most a number. -/
def intLe (n : Int) : Number → Bool
  | .int m => n ≤ m
  | .float x => x.intLe n

/-- Whether a number is zero. -/
def isZero (x : Number) : Bool := x.eq false (.int 0)

end Number

/-- Truth values count as 0 and 1. -/
def Value.number? : Value → Option Number
  | .bool b => some (.int (if b then 1 else 0))
  | .int n => some (.int n)
  | .float x => some (.float x)
  | _ => none

/-- Whether a value counts as true: it is there, and neither zero nor empty. -/
def Value.holds : Value → Bool
  | .null => false
  | .text t => !t.isEmpty
  | .list items | .tuple items => !items.isEmpty
  | v =>
    match v.number? with
    | some n => !n.isZero
    | none => true

end SsaEdit
