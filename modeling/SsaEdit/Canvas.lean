/-
The canvas: statements in program order under permanent ids.

A slot table holds every statement ever put on the canvas, and a separate list
holds the ids in program order.  Deleting marks a slot and moves nothing, so an
id stays valid, and keeps its place, until the canvas is renumbered.  Ids up to
`reserved` are set aside for `place`; fresh ids begin after them.

`Canvas.entries` is the list that the two parts stand for.  The operations of
this file work on variables; `SsaEdit.Canvas.Edit` gives them any value as an
address.
-/
import SsaEdit.Value.Checked
import Std.Data.TreeMap

namespace SsaEdit

/-- A statement on the canvas, with the location noted for it. -/
structure Slot where
  statement : Statement
  location : Value
  deleted : Bool := false

/-- Statements in program order. -/
structure Canvas where
  slots : Std.TreeMap Nat Slot
  order : List Nat
  reserved : Nat
  nextId : Nat
  live : Nat
  /-- Old and new ids of the last renumbering. -/
  substitutions : List (Nat × Nat)

namespace Canvas

/-- A canvas without statements that keeps the ids `1..reserved` for `place`. -/
def empty (reserved : Nat) : Canvas := ⟨∅, [], reserved, reserved + 1, 0, []⟩

/-- All slots in program order, deleted ones included. -/
def entries (c : Canvas) : List (Nat × Slot) :=
  c.order.filterMap fun id => (c.slots[id]?).map fun slot => (id, slot)

/-- The slots that are not deleted, in program order. -/
def liveEntries (c : Canvas) : List (Nat × Slot) := c.entries.filter fun entry => !entry.2.deleted

/-! ## Reading -/

/-- The slot of a variable, deleted or not. -/
def find (c : Canvas) (v : Variable) : Except Fault Slot :=
  match c.slots[v.id]? with
  | some slot => .ok slot
  | none => .error (.notOnCanvas v)

/-- The slot of a variable that is not deleted. -/
def findLive (c : Canvas) (v : Variable) : Except Fault Slot := do
  let slot ← c.find v
  if slot.deleted then throw (.deleted v) else return slot

/-- Whether a variable has a slot that is not deleted. -/
def contains (c : Canvas) (v : Variable) : Bool :=
  match c.slots[v.id]? with
  | some slot => !slot.deleted
  | none => false

def get (c : Canvas) (v : Variable) : Except Fault Statement := (c.findLive v).map Slot.statement

def location (c : Canvas) (v : Variable) : Except Fault Value := (c.findLive v).map Slot.location

def statements (c : Canvas) : List Statement := c.liveEntries.map fun entry => entry.2.statement

def locations (c : Canvas) : List Value := c.liveEntries.map fun entry => entry.2.location

/-- The location of the last statement, or 0 if there is none. -/
def lastLocation (c : Canvas) : Value :=
  match c.liveEntries.getLast? with
  | some entry => entry.2.location
  | none => .int 0

/-- The location of the first slot, deleted or not, or 0 if there is none. -/
def firstLocation (c : Canvas) : Value :=
  match c.entries.head? with
  | some entry => entry.2.location
  | none => .int 0

/-! ## Changing a slot -/

/-- Replace the statement of a slot.  A deleted slot comes back to life where it
was. -/
def set (c : Canvas) (v : Variable) (value : Value) : Except Fault Canvas := do
  let slot ← c.find v
  let statement ← value.asStatement
  return { c with
    slots := c.slots.insert v.id { slot with statement := statement, deleted := false }
    live := if slot.deleted then c.live + 1 else c.live }

/-- Mark a slot as deleted. -/
def delete (c : Canvas) (v : Variable) : Except Fault Canvas := do
  let slot ← c.findLive v
  return { c with
    slots := c.slots.insert v.id { slot with deleted := true }
    live := c.live - 1 }

def setLocation (c : Canvas) (v : Variable) (location : Value) : Except Fault Canvas := do
  let slot ← c.findLive v
  return { c with slots := c.slots.insert v.id { slot with location := location } }

/-! ## Growing -/

/-- Put an id before another one in program order. -/
def insertInOrder (id anchor : Nat) (order : List Nat) : List Nat :=
  order.takeWhile (· != anchor) ++ id :: order.dropWhile (· != anchor)

/-- Use up the next fresh id for a value, and say where it stands in program
order.  The id is used up also when the value is no statement. -/
def grow (c : Canvas) (value location : Value) (order : Nat → List Nat) :
    Canvas × Except Fault Variable :=
  match value.asStatement with
  | .ok statement =>
    ({ c with
        slots := c.slots.insert c.nextId ⟨statement, location, false⟩
        order := order c.nextId
        nextId := c.nextId + 1
        live := c.live + 1 },
      .ok ⟨c.nextId⟩)
  | .error fault => ({ c with nextId := c.nextId + 1 }, .error fault)

/-- Add a statement at the end; its location is that of the last one unless
given. -/
def append (c : Canvas) (value : Value) (location : Option Value) :
    Canvas × Except Fault Variable :=
  c.grow value (location.getD c.lastLocation) fun id => c.order ++ [id]

/-- Add a statement at the start; its location is that of the first slot unless
given. -/
def pushFirst (c : Canvas) (value : Value) (location : Option Value) :
    Canvas × Except Fault Variable :=
  c.grow value (location.getD c.firstLocation) fun id => id :: c.order

/-- Add a statement directly before the slot of `v`, deleted or not; its
location is that of `v` unless given. -/
def insertBefore (c : Canvas) (v : Variable) (value : Value) (location : Option Value) :
    Canvas × Except Fault Variable :=
  match c.find v with
  | .ok anchor =>
    c.grow value (location.getD anchor.location) fun id => insertInOrder id v.id c.order
  | .error fault => (c, .error fault)

/-- Put a statement at the end under the reserved id of `v`. -/
def place (c : Canvas) (v : Variable) (value location : Value) : Except Fault Canvas := do
  if v.id < 1 || c.reserved < v.id then throw (.notReserved v)
  if c.slots.contains v.id then throw (.alreadyPlaced v)
  let statement ← value.asStatement
  return { c with
    slots := c.slots.insert v.id ⟨statement, location, false⟩
    order := c.order ++ [v.id]
    live := c.live + 1 }

end Canvas
end SsaEdit
