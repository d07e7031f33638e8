/-
Plans of edits, and the rewriting of a body by one.

A plan says for every source statement what to put before it, what becomes of it,
and what to put at the end of the canvas after it.  `Session.rewrite` carries a
plan out the way a user of the builder does, with a loop over the copies that edits
the canvas as it goes.  `IR.oneShot` is the result written down at once: the pieces
of the plan in order, and every reference led to where the statement that it means
stands among them.
-/
import SsaEdit.Builder.Session

namespace SsaEdit

/-! ## Plans -/

/-- What becomes of a source statement. -/
inductive Action
  | keep
  | replace (s : Statement)
  | delete

/-- What to do at one source statement. -/
structure StepPlan where
  before : List Statement
  action : Action
  after : List (Statement × Value)

namespace Action

def edits (v : Variable) : Action → List Canvas.Edit
  | .keep => []
  | .replace s => [.set (.variable v) s.toValue]
  | .delete => [.delete (.variable v)]

/-- The statement left in the place of one that was copied. -/
def outcome (copied : Statement) : Action → Option Statement
  | .keep => some copied
  | .replace s => some s
  | .delete => none

/-- The statements that an action brings in. -/
def statements : Action → List Statement
  | .replace s => [s]
  | .keep | .delete => []

end Action

namespace StepPlan

/-- The edits of a plan at the copy `v`, in the order in which they are made. -/
def edits (p : StepPlan) (v : Variable) : List Canvas.Edit :=
  p.before.map (fun s => .insertBefore (.variable v) s.toValue none) ++ p.action.edits v ++
    p.after.map fun item => .append item.1.toValue (some item.2)

/-- The statements that a plan brings in. -/
def statements (p : StepPlan) : List Statement :=
  p.before ++ p.action.statements ++ p.after.map Prod.fst

end StepPlan

/-! ## The loop over the copies -/

/-- What a step that copies a statement does to the cursor. -/
theorem Builder.cursor_of_step {env : Environment} {b after : Builder}
    {item : Variable × Statement} (h : b.step env = (after, .ok (some item))) :
    after.source = b.source ∧ after.cursor = b.cursor + 1 ∧ b.cursor < b.source.size := by
  rw [step] at h
  split at h
  · injection h with _ h
    injection h
  · split at h
    · injection h with _ h
      injection h with h
      injection h
    · rename_i hs
      have hlt : b.cursor < b.source.size := (List.getElem?_eq_some_iff.1 hs).1
      dsimp only at h
      split at h
      · injection h with _ h
        injection h
      · injection h with h
        subst h
        exact ⟨rfl, rfl, hlt⟩

namespace Session

/-- How many source statements are still to be copied. -/
def remaining (s : Session) : Nat := s.builder.source.size - s.builder.cursor

/-- Perform edits one after the other until one fails. -/
def editAll : List Canvas.Edit → Session → Session × Except Fault Unit
  | [], s => (s, .ok ())
  | e :: rest, s =>
    match s.edit e with
    | (after, .ok _) => editAll rest after
    | (after, .error fault) => (after, .error fault)

theorem remaining_of_next {env : Environment} {s after : Session} {k : Nat}
    {item : Variable × Statement} (h : s.next env k = (after, .ok (some item))) :
    after.remaining < s.remaining := by
  rw [next] at h
  split at h
  · generalize hstep : s.builder.step env = outcome at h
    obtain ⟨b, result⟩ := outcome
    dsimp only at h
    split at h
    · injection h with h hitem
      subst h
      obtain ⟨hsource, hcursor, hlt⟩ := Builder.cursor_of_step hstep
      rw [remaining, remaining, hsource, hcursor]
      omega
    · injection h with _ h
      injection h with h
      injection h
    · injection h with _ h
      injection h
  · injection h with _ h
    injection h with h
    injection h

theorem remaining_edit (s : Session) (e : Canvas.Edit) : (s.edit e).1.remaining = s.remaining := by
  rw [edit, Builder.edit]
  cases s.builder.liveCanvas <;> rfl

theorem remaining_editAll (edits : List Canvas.Edit) (s : Session) :
    (s.editAll edits).1.remaining = s.remaining := by
  induction edits generalizing s with
  | nil => rfl
  | cons e rest ih =>
    have hfirst := s.remaining_edit e
    rw [editAll]
    generalize s.edit e = outcome at hfirst
    obtain ⟨after, answer⟩ := outcome
    cases answer with
    | ok _ => exact (ih after).trans hfirst
    | error _ => exact hfirst

/-- Step the iterator `k` to its end and carry the plan out at every copy.  The
step to statement `i` looks globals up in `env i`. -/
def rewriteRest (env : Nat → Environment) (plan : Nat → StepPlan) (k : Nat) (s : Session) :
    Session × Except Fault Unit :=
  match _hnext : s.next (env (s.builder.cursor + 1)) k with
  | (copied, .ok (some (v, _))) =>
    match _hedits : copied.editAll ((plan v.id).edits v) with
    | (edited, .ok _) => rewriteRest env plan k edited
    | (edited, .error fault) => (edited, .error fault)
  | (ended, .ok none) => (ended, .ok ())
  | (failed, .error fault) => (failed, .error fault)
termination_by s.remaining
decreasing_by
  have hless := remaining_of_next _hnext
  have hsame := remaining_editAll ((plan v.id).edits v) copied
  rw [_hedits] at hsame
  exact hsame ▸ hless

/-- Copy a body, carry a plan out on the way and finish leniently: the builder
afterwards and the body. -/
def rewrite (env : Nat → Environment) (plan : Nat → StepPlan) (ir : IR) :
    Except Fault (Builder × IR) := do
  let start ← ofIR ir
  let opened ← start.iter
  let (s, copied) := opened.rewriteRest env plan start.iterators.length
  let _ ← copied
  let (after, _, result) := s.finish false
  return (after.builder, ← result)

end Session

/-! ## The result at once -/

/-- The current binding of a callee that is a global; anything else stays. -/
def Environment.bound (env : Environment) : Node → Node
  | .call (.node (.global g)) args => .call ((env.lookup? g).getD (.node (.global g))) args
  | n => n

/-- A statement of the result with its location, and the source statement in whose
place it stands, if it stands in the place of one. -/
structure Piece where
  origin : Option Nat
  statement : Statement
  location : Value

/-- A statement of its own. -/
def Piece.fresh (s : Statement) (location : Value) : Piece := ⟨none, s, location⟩

/-- What a plan makes of source statement `id`. -/
def StepPlan.pieces (p : StepPlan) (id : Nat) (copied : Statement) (location : Value) :
    List Piece :=
  p.before.map (Piece.fresh · location) ++
    (p.action.outcome copied).toList.map (⟨some id, ·, location⟩) ++
    p.after.map fun item => .fresh item.1 item.2

namespace IR

/-- What a plan makes of source statement `id` of a body, its callee bound. -/
def piecesAt (ir : IR) (env : Nat → Environment) (plan : Nat → StepPlan) (id : Nat) :
    List Piece :=
  match ir.statement? id, ir.locations[id - 1]? with
  | some s, some location => (plan id).pieces id ⟨(env id).bound s.node, s.type⟩ location
  | _, _ => []

/-- What a plan makes of a body, before any reference is rewritten. -/
def pieces (ir : IR) (env : Nat → Environment) (plan : Nat → StepPlan) : List Piece :=
  (List.range' 1 ir.size).flatMap (ir.piecesAt env plan)

end IR

/-- Where the statement in the place of source statement `id` stands, counted from
1, or the number that names no statement. -/
def placeOf (pieces : List Piece) (id : Nat) : Nat :=
  match (pieces.map Piece.origin).idxOf? (some id) with
  | some i => i + 1
  | none => danglingId

/-- Rewrite a body by a plan at once. -/
def IR.oneShot (ir : IR) (env : Nat → Environment) (plan : Nat → StepPlan) : IR :=
  let pieces := ir.pieces env plan
  { ir with
    body := pieces.map fun p =>
      ⟨p.statement.node.mapIds fun r => placeOf pieces r.id, p.statement.type⟩
    locations := pieces.map Piece.location }

end SsaEdit
