/-
The builder: a source body copied onto a canvas, statement by statement.

A step copies the next source statement under the id it has in the source, with
a global callee replaced by its current binding.  Between steps the canvas may
be edited in any way.  `Builder.finish` renumbers the canvas and emits a body
with the name, the counts, the metadata and the line table of the source.

A reference to an id that the source does not have could meet a fresh id of the
canvas by accident; it is sent to 0 when its statement is copied.
-/
import SsaEdit.Canvas.Edit
import SsaEdit.Validation

namespace SsaEdit

/-- How far a builder has got. -/
inductive Phase
  | idle
  | iterating
  | exhausted
  | finished
  deriving DecidableEq

namespace Phase

def name : Phase → String
  | .idle => "idle"
  | .iterating => "iterating"
  | .exhausted => "exhausted"
  | .finished => "finished"

def all : List Phase := [.idle, .iterating, .exhausted, .finished]

end Phase

/-- A source body and what has been made of it so far. -/
structure Builder where
  source : IR
  /-- The canvas, gone once the builder has finished. -/
  canvas : Option Canvas
  /-- Every copied source statement with its place on the canvas. -/
  remap : List (Variable × Variable)
  /-- How many source statements were copied. -/
  cursor : Nat
  phase : Phase
  /-- After finishing: every kept source statement with its place in the result. -/
  renumbering : List (Variable × Variable)
  /-- Whether an iteration is in progress. -/
  iterating : Bool

namespace Builder

/-- A builder that has copied nothing.  The source needs a line table. -/
def ofIR (ir : IR) : Except Fault Builder :=
  if ir.lineTable.isEmpty then .error (.emptyLineTable ir.name)
  else .ok ⟨ir, some (.empty ir.size), [], 0, .idle, [], false⟩

def display (b : Builder) : Text :=
  Text.ofString "<Builder " ++ b.source.name ++
    Text.ofString (" " ++ b.phase.name ++ " " ++ decimal b.cursor ++ "/" ++
      decimal b.source.size ++ ">")

/-- The canvas of a builder that has not finished. -/
def liveCanvas (b : Builder) : Except Fault Canvas :=
  match b.canvas with
  | some c => .ok c
  | none => .error (.alreadyFinished b.source.name)

/-- Put a question to the canvas of a builder that has not finished. -/
def ask (b : Builder) (question : Canvas → Except Fault α) : Except Fault α :=
  b.liveCanvas.bind question

/-! ## Copying -/

/-- The canvas id that a reference of the source means.  A statement not copied
yet keeps its id, which is reserved for it. -/
def resolve (b : Builder) (r : Reference) : Nat :=
  if b.source.inRange r.id then
    match b.remap.lookup ⟨r.id⟩ with
    | some v => v.id
    | none => r.id
  else danglingId

/-- Copy statement `s`, the next of the source, onto the canvas `c`. -/
def copy (env : Environment) (b : Builder) (c : Canvas) (s : Statement) :
    Except Fault (Canvas × Statement) := do
  let v : Variable := ⟨b.cursor + 1⟩
  let node ← env.bindCallee (s.node.mapIds b.resolve)
  let copied : Statement := ⟨node, s.type⟩
  match b.source.locations[b.cursor]? with
  | some location => return (← c.place v copied.toValue location, copied)
  | none => throw .missingLocation

/-- One step: the statement copied, or nothing at the end of the source.  A step
that fails leaves everything but the phase. -/
def step (env : Environment) (b : Builder) :
    Builder × Except Fault (Option (Variable × Statement)) :=
  match b.liveCanvas with
  | .error fault => (b, .error fault)
  | .ok c =>
    match b.source.body[b.cursor]? with
    | none => ({ b with phase := .exhausted }, .ok none)
    | some s =>
      let v : Variable := ⟨b.cursor + 1⟩
      let b := { b with phase := .iterating }
      match b.copy env c s with
      | .error fault => (b, .error fault)
      | .ok (c, copied) =>
        ({ b with canvas := some c, remap := b.remap ++ [(v, v)], cursor := b.cursor + 1 },
          .ok (some (v, copied)))

/-! ## Editing -/

/-- Perform an edit on the canvas. -/
def edit (b : Builder) (e : Canvas.Edit) : Builder × Except Fault Canvas.Answer :=
  match b.liveCanvas with
  | .error fault => (b, .error fault)
  | .ok c =>
    let (c, answer) := c.run e
    ({ b with canvas := some c }, answer)

/-! ## Finishing -/

/-- The body that a renumbered canvas stands for. -/
def emit (source : IR) (c : Canvas) : IR :=
  { source with body := c.statements, locations := c.locations }

/-- Where the copied source statements ended up. -/
def finalPlaces (remap : List (Variable × Variable)) (mapping : List (Nat × Nat)) :
    List (Variable × Variable) :=
  remap.filterMap fun (source, placed) =>
    (mapping.lookup placed.id).map fun k => (source, ⟨k⟩)

/-- The warning about a dangling reference. -/
def danglingWarning (function : Text) (d : Dangling) : LogRecord :=
  ⟨.warning, .builder, Fault.about function
    ("statement " ++ d.user.display ++ " refers to missing " ++ d.ref.display)⟩

/-- The record of a finished body. -/
def finishedRecord (ir : IR) (fromSource dropped : Nat) : LogRecord :=
  ⟨.debug, .builder, Text.ofString "finished " ++ ir.name ++
    Text.ofString (": " ++ decimal ir.size ++ " statements (" ++ decimal fromSource ++
      " from source, " ++ decimal dropped ++ " dropped)")⟩

/-- The end of a builder: the builder afterwards, what was logged, and the body. -/
structure Finish where
  builder : Builder
  log : List LogRecord
  result : Except Fault IR

/-- Emit the body.  With `strict`, dangling references are a fault that leaves
the builder as it was, and any other defect is a fault that uses it up. -/
def finish (b : Builder) (strict : Bool) : Finish :=
  match b.liveCanvas.bind fun c => c.renumber strict with
  | .error fault => ⟨b, [], .error fault⟩
  | .ok (c, outcome) =>
    let ir := emit b.source c
    let places := finalPlaces b.remap outcome.mapping
    let after := { b with canvas := none, phase := .finished, renumbering := places }
    let log := outcome.log ++ outcome.dangling.map (danglingWarning b.source.name) ++
      [finishedRecord ir places.length outcome.dropped]
    if strict then
      match validate ir with
      | .error fault => ⟨after, log, .error fault⟩
      | .ok report =>
        ⟨after, log ++ report.log ir.name,
          if report.ok then .ok ir else .error (.invalid report (some ir))⟩
    else ⟨after, log, .ok ir⟩

end Builder
end SsaEdit
