/-
Control flow between statements.

`IR.Flows` states which statement may follow which; `IR.successors` lists the
followers.  `IR.reachableFrom` is a work-list search over the successors.  It
keeps the statements it has not met yet, so every statement is expanded at most
once, and the search ends because either that list or the queue gets shorter.
`IR.isLeader` marks the first statements of basic blocks.
-/
import SsaEdit.IR

namespace SsaEdit
namespace IR

/-- Control may pass from one statement to another: by a jump, or to the next
one unless the statement is a terminator. -/
inductive Flows (ir : IR) : Nat → Nat → Prop
  | jump {i : Nat} {target : Label} {cond : Value}
      (here : ir.node? i = some (.branch target cond)) (there : ir.inRange target.id = true) :
      Flows ir i target.id
  | next {i : Nat} {n : Node} (here : ir.node? i = some n) (passes : n.isTerminator = false)
      (there : i < ir.size) : Flows ir i (i + 1)

/-- The statements control may pass to from statement `i`, jump first. -/
def successors (ir : IR) (i : Nat) : List Nat :=
  let following := if i < ir.size then [i + 1] else []
  match ir.node? i with
  | none => []
  | some (.branch target cond) =>
    (if ir.inRange target.id then [target.id] else []) ++ if cond.isNull then [] else following
  | some n => if n.isTerminator then [] else following

/-- What stays unmet when everything in the queue and everything that follows
from it is met. -/
def search (next : Nat → List Nat) (unmet queue : List Nat) : List Nat :=
  match queue with
  | [] => unmet
  | i :: rest =>
    if i ∈ unmet then search next (unmet.erase i) (rest ++ next i)
    else search next unmet rest
termination_by (unmet.length, queue.length)
decreasing_by
  · rename_i h
    have := List.length_pos_of_mem h
    rw [List.length_erase_of_mem h]
    exact Prod.Lex.left _ _ (by omega)
  · exact Prod.Lex.right _ (by simp)

/-- The statements reachable from `start` over at least one step, in order. -/
def reachableFrom (ir : IR) (start : Nat) : List Nat :=
  let ids := List.range' 1 ir.size
  let unmet := search ir.successors ids (ir.successors start)
  ids.filter fun i => !unmet.contains i

/-- Whether a statement is where some branch jumps to. -/
def isTarget (ir : IR) (i : Nat) : Bool :=
  ir.code.any fun n =>
    match n with
    | .branch target _ => target.id == i
    | _ => false

/-- Whether a statement ends a basic block. -/
def endsBlock (ir : IR) (i : Nat) : Bool :=
  match ir.node? i with
  | some (.branch ..) => true
  | some (.ret _) => true
  | _ => false

/-- Whether a statement is the first of a basic block: the first of all, a jump
target, or one that follows a branch or a return. -/
def isLeader (ir : IR) (i : Nat) : Bool :=
  ir.inRange i && (i == 1 || ir.isTarget i || ir.endsBlock (i - 1))

/-- The first statements of the basic blocks, in order. -/
def leaders (ir : IR) : List Nat := (List.range' 1 ir.size).filter ir.isLeader

end IR
end SsaEdit
