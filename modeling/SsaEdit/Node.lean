/-
Where a node mentions other statements.

Only variables in operand position, branch targets and phi edges are references.
`Node.references` lists them in the order of the fields, `Node.rewriteOrder` in
the order in which a rewriting meets them (a branch's condition before its
target), and `Node.mapIds` replaces their numbers.  Everything that rewrites or
checks references goes through these three.
-/
import SsaEdit.Value

namespace SsaEdit

namespace Value

/-- The reference that an operand is: a variable and nothing else. -/
def operandReferences : Value → List Reference
  | .variable v => [.value v]
  | _ => []

/-- Replace the number of a variable in operand position. -/
def mapId (f : Reference → Nat) : Value → Value
  | .variable v => .variable ⟨f (.value v)⟩
  | v => v

end Value

namespace Node

/-- Whether a branch has a condition. -/
def isConditional : Node → Bool
  | .branch _ cond => !cond.isNull
  | _ => false

/-- The values a node computes with. -/
def operands : Node → List Value
  | .call callee args => callee :: args
  | .branch _ cond => if cond.isNull then [] else [cond]
  | .ret value => [value]
  | .phi incoming => incoming.map (·.2)
  | .const _ | .global _ | .argument _ => []

/-- Every reference in a node, field by field. -/
def references : Node → List Reference
  | .call callee args => callee.operandReferences ++ args.flatMap Value.operandReferences
  | .branch target cond => .label target :: cond.operandReferences
  | .ret value => value.operandReferences
  | .phi incoming => incoming.flatMap fun edge => .label edge.1 :: edge.2.operandReferences
  | .const _ | .global _ | .argument _ => []

/-- Every reference in a node, in the order in which a rewriting meets them. -/
def rewriteOrder : Node → List Reference
  | .branch target cond => cond.operandReferences ++ [.label target]
  | n => n.references

/-- The variables among the references. -/
def valueReferences (n : Node) : List Reference := n.references.filter Reference.isValue

/-- Replace the number of every reference, keeping its class. -/
def mapIds (f : Reference → Nat) : Node → Node
  | .call callee args => .call (callee.mapId f) (args.map (Value.mapId f))
  | .branch target cond => .branch ⟨f (.label target)⟩ (cond.mapId f)
  | .ret value => .ret (value.mapId f)
  | .phi incoming =>
    .phi (incoming.map fun edge => (⟨f (.label edge.1)⟩, edge.2.mapId f))
  | n => n

/-- Whether control never passes on to the next statement. -/
def isTerminator : Node → Bool
  | .ret _ => true
  | .branch _ cond => cond.isNull
  | _ => false

/-- The argument numbers a node mentions, as itself or as operands. -/
def arguments : Node → List Int
  | .argument index => [index]
  | n => n.operands.filterMap Value.argument?

end Node

end SsaEdit
