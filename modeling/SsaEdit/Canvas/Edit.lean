/-
Edits of a canvas as data.

An edit is one operation with its arguments, where a statement is addressed by
any value; a value that is no variable is refused.  `Canvas.run` performs one
edit and returns the canvas after it with the answer or the fault.
-/
import SsaEdit.Canvas.Renumbering

namespace SsaEdit

/-- The variable that addresses a statement on a canvas. -/
def Value.asAddress : Value → Except Fault Variable
  | .variable v => .ok v
  | v => .error (.canvasAddress v)

namespace Canvas

/-- One operation that can change a canvas. -/
inductive Edit
  | append (value : Value) (location : Option Value)
  | pushFirst (value : Value) (location : Option Value)
  | insertBefore (anchor value : Value) (location : Option Value)
  | place (target value location : Value)
  | set (target value : Value)
  | delete (target : Value)
  | setLocation (target location : Value)
  | renumber (strict : Bool)

/-- What a successful edit answers. -/
inductive Answer
  | done
  | id (v : Variable)
  | renumbered (outcome : Renumbering)

/-- The canvas after an operation that changes nothing when it fails. -/
def settle (c : Canvas) (answer : Answer) : Except Fault Canvas → Canvas × Except Fault Answer
  | .ok after => (after, .ok answer)
  | .error fault => (c, .error fault)

/-- Perform an edit. -/
def run (c : Canvas) : Edit → Canvas × Except Fault Answer
  | .append value location =>
    let (after, outcome) := c.append value location
    (after, outcome.map .id)
  | .pushFirst value location =>
    let (after, outcome) := c.pushFirst value location
    (after, outcome.map .id)
  | .insertBefore anchor value location =>
    match anchor.asAddress with
    | .ok v =>
      let (after, outcome) := c.insertBefore v value location
      (after, outcome.map .id)
    | .error fault => (c, .error fault)
  | .place target value location =>
    match target.asAddress with
    | .ok v => c.settle (.id v) (c.place v value location)
    | .error fault => (c, .error fault)
  | .set target value => c.settle .done (target.asAddress.bind fun v => c.set v value)
  | .delete target => c.settle .done (target.asAddress.bind c.delete)
  | .setLocation target location =>
    c.settle .done (target.asAddress.bind fun v => c.setLocation v location)
  | .renumber strict =>
    match c.renumber strict with
    | .ok (after, outcome) => (after, .ok (.renumbered outcome))
    | .error fault => (c, .error fault)

/-! ## Questions under any address -/

def getAt (c : Canvas) (target : Value) : Except Fault Statement := target.asAddress.bind c.get

def locationAt (c : Canvas) (target : Value) : Except Fault Value :=
  target.asAddress.bind c.location

/-- Whether a value is a variable with a statement; no value is refused. -/
def containsAt (c : Canvas) : Value → Bool
  | .variable v => c.contains v
  | _ => false

end Canvas
end SsaEdit
