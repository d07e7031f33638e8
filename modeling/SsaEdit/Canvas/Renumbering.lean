/-
Renumbering: the canvas compacted into the ids `1..m`.

The statements that are not deleted get new ids in program order, and every
reference follows the statement it means.  A reference to anything else is
recorded as dangling and its number becomes 0.  The strict form refuses instead,
before anything has changed.
-/
import SsaEdit.Canvas
import SsaEdit.Log

namespace SsaEdit

/-- What a renumbering did: the new id of every kept statement, the references
that found no statement, and the number of deleted slots that were removed. -/
structure Renumbering where
  mapping : List (Nat × Nat)
  dangling : List Dangling
  dropped : Nat

namespace Renumbering

/-- The new number of a reference to `id`. -/
def target (mapping : List (Nat × Nat)) (id : Nat) : Nat := (mapping.lookup id).getD danglingId

/-- The references of one statement that have no new number. -/
def danglingIn (mapping : List (Nat × Nat)) (id : Nat) (n : Node) : List Dangling :=
  (n.rewriteOrder.filter fun r => (mapping.lookup r.id).isNone).map fun r => ⟨⟨id⟩, r⟩

def log (r : Renumbering) : List LogRecord :=
  [⟨.debug, .canvas, Text.ofString ("renumbered canvas: " ++ decimal r.mapping.length ++
    " retained, " ++ decimal r.dropped ++ " dropped, " ++ decimal r.dangling.length ++
    " dangling")⟩]

end Renumbering

/-- A slot whose references have the new numbers. -/
def Slot.renumbered (mapping : List (Nat × Nat)) (slot : Slot) : Slot :=
  { slot with
    statement :=
      { slot.statement with
        node := slot.statement.node.mapIds fun r => Renumbering.target mapping r.id } }

namespace Canvas

/-- The new id of every statement that is not deleted. -/
def newIds (c : Canvas) : List (Nat × Nat) :=
  (c.liveEntries.map (·.1)).zip (List.range' 1 c.liveEntries.length)

/-- What a renumbering would do. -/
def renumbering (c : Canvas) : Renumbering where
  mapping := c.newIds
  dangling := c.liveEntries.flatMap fun (id, slot) =>
    Renumbering.danglingIn c.newIds id slot.statement.node
  dropped := (c.entries.filter fun entry => entry.2.deleted).length

/-- The canvas after a renumbering. -/
def renumbered (c : Canvas) : Canvas :=
  let kept := c.liveEntries.map fun (_, slot) => slot.renumbered c.newIds
  let ids := List.range' 1 kept.length
  { slots := Std.TreeMap.ofList (ids.zip kept)
    order := ids
    reserved := 0
    nextId := kept.length + 1
    live := kept.length
    substitutions := c.newIds }

/-- Renumber.  With `strict`, dangling references are a fault. -/
def renumber (c : Canvas) (strict : Bool) : Except Fault (Canvas × Renumbering) :=
  let outcome := c.renumbering
  if strict && !outcome.dangling.isEmpty then .error (.dangling outcome.dangling)
  else .ok (c.renumbered, outcome)

end Canvas
end SsaEdit
