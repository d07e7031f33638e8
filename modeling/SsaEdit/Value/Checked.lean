/-
Building values and nodes from parts that may be of the wrong kind.

A variable, a label and an argument need an integer, a branch and a phi need
labels, and a statement needs a node.  Each constructor here refuses any other
part with the fault that names it.
-/
import SsaEdit.Fault

namespace SsaEdit

/-- A statement number: an integer that is not negative.  A truth value is no
integer here. -/
def Value.asId : Value → Except Fault Nat
  | .int n => if n < 0 then .error (.idNegative n) else .ok n.toNat
  | v => .error (.idNotInteger v)

def Variable.ofValue (v : Value) : Except Fault Variable := v.asId.map Variable.mk

def Label.ofValue (v : Value) : Except Fault Label := v.asId.map Label.mk

/-- A value that has to be a label. -/
def Value.asLabel (fault : Value → Fault) : Value → Except Fault Label
  | .label l => .ok l
  | v => .error (fault v)

/-- A value that has to be a node. -/
def Value.asNode : Value → Except Fault Node
  | .node n => .ok n
  | v => .error (.notANode v)

/-- A value that has to be a global. -/
def Value.asGlobal : Value → Except Fault GlobalRef
  | .node (.global g) => .ok g
  | v => .error (.notAGlobal v)

/-- A statement as it is, or a node without a type. -/
def Value.asStatement (v : Value) : Except Fault Statement :=
  match v.toStatement? with
  | some s => .ok s
  | none => .error (.notAStatement v)

/-- A statement from a node and a type. -/
def Statement.ofValues (node type : Value) : Except Fault Statement :=
  node.asNode.map fun n => ⟨n, type⟩

namespace Node

def ofArgument : Value → Except Fault Node
  | .int n => .ok (.argument n)
  | v => .error (.argumentNotInteger v)

def ofBranch (target cond : Value) : Except Fault Node :=
  (target.asLabel .targetNotLabel).map fun l => .branch l cond

/-- A phi edge, which needs a label. -/
def ofEdge (pair : Value × Value) : Except Fault (Label × Value) :=
  (pair.1.asLabel .edgeNotLabel).map fun l => (l, pair.2)

def ofPhi (pairs : List (Value × Value)) : Except Fault Node := (pairs.mapM ofEdge).map .phi

/-- A phi from an ordered dictionary given as pairs.  A repeated key keeps its
place and takes the later value. -/
def ofPhiDictionary (pairs : List (Value × Value)) : Except Fault Node :=
  if pairs.all fun pair => pair.1.hashable then ofPhi (ofPairs (Value.same false) pairs)
  else .error .unhashableKey

/-- The merged values by label, as an ordered dictionary. -/
def phiDictionary : Node → List (Label × Value)
  | .phi incoming => ofPairs (· == ·) incoming
  | _ => []

end Node

namespace IR

/-- The types of `count` statements: unknown throughout if none is given. -/
def fillTypes (types : List Value) (count : Nat) : List Value :=
  if types.isEmpty then List.replicate count .unknown else types

/-- The statements made of nodes and their types. -/
def statementsOf (code types : List Value) : Except Fault (List Statement) := do
  let nodes ← code.mapM Value.asNode
  let types := fillTypes types nodes.length
  if types.length = nodes.length then return nodes.zipWith Statement.mk types
  else throw (.typeCount types.length nodes.length)

/-- The statement that a value addresses. -/
def statement (ir : IR) : Value → Except Fault Statement
  | .variable v =>
    match ir.statement? v.id with
    | some s => .ok s
    | none => .error (.outsideIR v ir.size)
  | v => .error (.irAddress v)

end IR

/-! ## Binding callees -/

/-- What a name missing from a scope leads to.  A module first hands the name to
its fallback, but no value can be called, and then has to be shown, but no value is
the record of an origin. -/
def Scope.missing (s : Scope) (name : String) : Fault :=
  if s.isModule then
    match s.lookup Scope.fallbackKey, s.origin? with
    | some v, _ => .noFallback v
    | none, some v => .noOrigin v
    | none, none => .unbound name (some s.moduleDisplay)
  else .unbound name none

namespace Environment

/-- The current binding of a global. -/
def resolve (env : Environment) (g : GlobalRef) : Except Fault Value :=
  match env.lookup? g with
  | some v => .ok v
  | none => .error ((env.scope g.home).missing g.name)

/-- Replace a callee that is a global by what it is bound to now.  No other
operand is looked up. -/
def bindCallee (env : Environment) : Node → Except Fault Node
  | .call (.node (.global g)) args => (env.resolve g).map fun callee => .call callee args
  | n => .ok n

end Environment

/-- Whether a node calls a global. -/
def Node.callsGlobal : Node → Bool
  | .call (.node (.global _)) _ => true
  | _ => false

end SsaEdit
