/-
Sessions: a builder with the iterators made from it.

An iterator is open from the moment it is made until it meets the end of the
source, fails, or is closed, and it never opens again.  A new one is refused
while another is open.  Iterators are known by the order in which they were
made, and the next one goes on where the last one stopped.
-/
import SsaEdit.Builder

namespace SsaEdit

/-- A builder and its iterators; an entry tells whether the iterator is open. -/
structure Session where
  builder : Builder
  iterators : List Bool

namespace Session

def ofIR (ir : IR) : Except Fault Session := (Builder.ofIR ir).map fun b => ⟨b, []⟩

def isOpen (s : Session) (k : Nat) : Bool := s.iterators[k]?.getD false

/-- Make an iterator.  Its number is the count of those made before. -/
def iter (s : Session) : Except Fault Session := do
  let _ ← s.builder.liveCanvas
  if s.builder.iterating then throw (.alreadyIterating s.builder.source.name)
  return ⟨{ s.builder with iterating := true }, s.iterators ++ [true]⟩

/-- Close an iterator; one that is closed already stays as it is. -/
def close (s : Session) (k : Nat) : Session :=
  if s.isOpen k then ⟨{ s.builder with iterating := false }, s.iterators.set k false⟩ else s

/-- Step an iterator: the statement copied, or nothing at the end. -/
def next (env : Environment) (s : Session) (k : Nat) :
    Session × Except Fault (Option (Variable × Statement)) :=
  if s.isOpen k then
    let (builder, outcome) := s.builder.step env
    let s := { s with builder := builder }
    match outcome with
    | .ok (some item) => (s, .ok (some item))
    | .ok none => (s.close k, .ok none)
    | .error fault => (s.close k, .error fault)
  else (s, .ok none)

/-- Step an iterator up to `steps` times, until it ends or fails. -/
def follow (env : Environment) (k : Nat) :
    Nat → Session → Session × Except Fault (List (Variable × Statement))
  | 0, s => (s, .ok [])
  | steps + 1, s =>
    match s.next env k with
    | (s, .ok (some item)) =>
      let (s, rest) := follow env k steps s
      (s, rest.map (item :: ·))
    | (s, .ok none) => (s, .ok [])
    | (s, .error fault) => (s, .error fault)

/-- Make an iterator and follow it to the end of the source. -/
def drain (env : Environment) (s : Session) :
    Session × Except Fault (List (Variable × Statement)) :=
  match s.iter with
  | .error fault => (s, .error fault)
  | .ok opened =>
    follow env s.iterators.length (s.builder.source.size - s.builder.cursor + 1) opened

/-- Perform an edit on the canvas of the builder. -/
def edit (s : Session) (e : Canvas.Edit) : Session × Except Fault Canvas.Answer :=
  let (builder, answer) := s.builder.edit e
  ({ s with builder := builder }, answer)

/-- Finish the builder.  Iterators stay as they are. -/
def finish (s : Session) (strict : Bool) : Session × List LogRecord × Except Fault IR :=
  let outcome := s.builder.finish strict
  ({ s with builder := outcome.builder }, outcome.log, outcome.result)

end Session

/-- Copy a whole body without edits. -/
def rebuild (env : Environment) (ir : IR) (strict : Bool) : Except Fault IR := do
  let (s, copied) := (← Session.ofIR ir).drain env
  let _ ← copied
  (s.finish strict).2.2

end SsaEdit
