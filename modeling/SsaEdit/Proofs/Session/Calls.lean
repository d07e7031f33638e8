/-
Runs of calls on a builder and its iterators.

A session is driven by calls in any order, and a call that fails is a call like
any other.  `Session.Copying` is what every run of ordinary calls keeps: the
source statements copied so far are on the canvas under their own ids and in
their own order, and each that was not overwritten still is the copy that was
made of it.  Ordinary calls are all but those that end the session and those that
renumber the canvas or place statements on it by hand.
-/
import SsaEdit.Builder.Session
import SsaEdit.Proofs.Canvas.Edits
import SsaEdit.Proofs.Canvas.Places
import SsaEdit.Proofs.Node.Rewriting
import SsaEdit.Proofs.Results

namespace SsaEdit

/-- The number that a reference of the source has in the copy of its statement. -/
def IR.copiedId (ir : IR) (r : Reference) : Nat := if ir.inRange r.id then r.id else danglingId

/-- The ids on a canvas, in program order, that are not those of a source of so many
statements. -/
def Canvas.idsBeyond (c : Canvas) (size : Nat) : List Nat :=
  (c.entries.map Prod.fst).filter (size < ·)

/-- The builder after the next source statement was copied onto the canvas. -/
def Builder.advanced (b : Builder) (after : Canvas) : Builder :=
  { b with
    phase := .iterating
    canvas := some after
    remap := b.remap ++ [(⟨b.cursor + 1⟩, ⟨b.cursor + 1⟩)]
    cursor := b.cursor + 1 }

/-- A step of a builder that has something to copy. -/
theorem Builder.step_eq {b : Builder} {c : Canvas} (hc : b.canvas = some c) {s : Statement}
    (hs : b.source.body[b.cursor]? = some s) (env : Environment) :
    b.step env =
      match b.copy env c s with
      | .error fault => ({ b with phase := .iterating }, .error fault)
      | .ok (after, copied) => (b.advanced after, .ok (some (⟨b.cursor + 1⟩, copied))) := by
  simp only [step, liveCanvas, hc, hs]
  rfl

namespace Session

/-! ## Calls -/

/-- One call on a builder or on an iterator made from it.  A step looks globals up
in the environment of its time. -/
inductive Call
  | iter
  | next (env : Environment) (iterator : Nat)
  | close (iterator : Nat)
  | get (target : Value)
  | edit (e : Canvas.Edit)
  | finish (strict : Bool)

/-- Whether a call leaves the builder in use and the ids of the source to its
steps. -/
def Call.isOrdinary : Call → Bool
  | .edit e => e.isOrdinary
  | .finish _ => false
  | _ => true

/-- The session after a call, whether the call failed or not. -/
def perform (s : Session) : Call → Session
  | .iter =>
    match s.iter with
    | .ok opened => opened
    | .error _ => s
  | .next env k => (s.next env k).1
  | .close k => s.close k
  | .get _ => s
  | .edit e => (s.edit e).1
  | .finish strict => (s.finish strict).1

/-- The session after some calls. -/
def run (s : Session) (calls : List Call) : Session := calls.foldl perform s

/-- The statement that a call overwrites. -/
def overwrites (s : Session) : Call → Option Variable
  | .edit e => s.builder.canvas.bind fun c => c.overwrites e
  | _ => none

/-- The statements that some calls overwrite, in order. -/
def overwritten (s : Session) : List Call → List Variable
  | [] => []
  | call :: rest => (s.overwrites call).toList ++ (s.perform call).overwritten rest

/-! ## What a run keeps -/

/-- How a builder stands towards its source while it copies, when some statements
were overwritten. -/
structure Copying (ir : IR) (overwritten : List Variable) (b : Builder) (c : Canvas) : Prop where
  source : b.source = ir
  canvas : b.canvas = some c
  lawful : c.Lawful
  reserved : c.reserved = ir.size
  cursor_le : b.cursor ≤ ir.size
  remap : b.remap = (List.range' 1 b.cursor).map fun k => (⟨k⟩, ⟨k⟩)
  /-- The ids of the source stand on the canvas in increasing order. -/
  placed : (c.entries.map Prod.fst).filter (· ≤ ir.size) = List.range' 1 b.cursor
  copies : ∀ id slot, (id, slot) ∈ c.entries → id ≤ ir.size → ⟨id⟩ ∉ overwritten →
    ∃ s, ir.statement? id = some s ∧ s.node.Carries ir.copiedId slot.statement.node ∧
      slot.statement.type = s.type

/-- A copy binds the callee, looks up the location and places the statement. -/
theorem exists_of_copy {b : Builder} {env : Environment} {c after : Canvas} {s copied : Statement}
    (hcopy : b.copy env c s = .ok (after, copied)) :
    ∃ node location, env.bindCallee (s.node.mapIds b.resolve) = .ok node ∧
      b.source.locations[b.cursor]? = some location ∧ copied = ⟨node, s.type⟩ ∧
      c.place ⟨b.cursor + 1⟩ copied.toValue location = .ok after := by
  obtain ⟨node, hnode, hcopy⟩ := bind_eq_ok.1 hcopy
  cases hlocation : b.source.locations[b.cursor]? with
  | none =>
    rw [hlocation] at hcopy
    cases hcopy
  | some location =>
    rw [hlocation] at hcopy
    obtain ⟨placed, hplace, hcopy⟩ := bind_eq_ok.1 hcopy
    injection hcopy with hcopy
    injection hcopy with hafter hcopied
    subst hafter hcopied
    exact ⟨node, location, hnode, rfl, rfl, hplace⟩

namespace Copying

variable {ir : IR} {overwritten : List Variable} {b : Builder} {c : Canvas}

/-- Only the source, the canvas, the cursor and the map of copies count. -/
theorem congr (h : Copying ir overwritten b c) {b' : Builder} (hsource : b'.source = b.source)
    (hcanvas : b'.canvas = b.canvas) (hremap : b'.remap = b.remap) (hcursor : b'.cursor = b.cursor) :
    Copying ir overwritten b' c where
  source := hsource.trans h.source
  canvas := hcanvas.trans h.canvas
  lawful := h.lawful
  reserved := h.reserved
  cursor_le := hcursor ▸ h.cursor_le
  remap := by rw [hremap, hcursor, h.remap]
  placed := by rw [hcursor, h.placed]
  copies := h.copies

/-- A source id has an entry exactly when its statement was copied. -/
theorem mem_order (h : Copying ir overwritten b c) {id : Nat} (hid : id ≤ ir.size) :
    id ∈ c.order ↔ 1 ≤ id ∧ id ≤ b.cursor := by
  rw [← h.lawful.keys]
  have hmem : id ∈ (c.entries.map Prod.fst).filter (· ≤ ir.size) ↔
      id ∈ c.entries.map Prod.fst := by simp [List.mem_filter, hid]
  rw [← hmem, h.placed, List.mem_range'_1]
  omega

/-! ### Edits -/

theorem edit (h : Copying ir overwritten b c) {e : Canvas.Edit} (ho : e.isOrdinary = true) :
    Copying ir (overwritten ++ (c.overwrites e).toList)
      { b with canvas := some (c.run e).1 } (c.run e).1 := by
  have step := h.lawful.run_step ho
  refine ⟨h.source, rfl, step.lawful, step.reserved.trans h.reserved, h.cursor_le, h.remap, ?_, ?_⟩
  · have hplaced := step.filter_reserved h.lawful
    rw [h.reserved] at hplaced
    exact hplaced.trans h.placed
  · intro id slot hmem hid hnot
    rw [List.mem_append, not_or] at hnot
    rw [← h.reserved] at hid
    obtain ⟨old, hold, hsame⟩ := step.exists_old h.lawful hmem hid hnot.2
    rw [hsame]
    exact h.copies id old hold (h.reserved ▸ hid) hnot.1

/-! ### Steps -/

/-- Copied statements keep their ids, so resolving depends on the source alone. -/
theorem resolve_eq (h : Copying ir overwritten b c) : b.resolve = ir.copiedId := by
  funext r
  rw [Builder.resolve, IR.copiedId, h.source]
  split
  · cases hv : b.remap.lookup ⟨r.id⟩ with
    | none => rfl
    | some v =>
      obtain ⟨pre, post, hremap, -⟩ := List.lookup_eq_some_iff.1 hv
      have hmem : ((⟨r.id⟩, v) : Variable × Variable) ∈ b.remap := by
        rw [hremap]
        exact List.mem_append_right _ List.mem_cons_self
      rw [h.remap] at hmem
      obtain ⟨k, -, heq⟩ := List.mem_map.1 hmem
      injection heq with hid hplace
      injection hid with hid
      subst hplace
      exact hid
  · rfl

theorem body_eq_none (h : Copying ir overwritten b c) :
    ir.body[b.cursor]? = none ↔ b.cursor = ir.size := by
  have := h.cursor_le
  rw [List.getElem?_eq_none_iff]
  show ir.size ≤ b.cursor ↔ b.cursor = ir.size
  omega

theorem step_of_end (h : Copying ir overwritten b c) (hend : b.cursor = ir.size)
    (env : Environment) : b.step env = ({ b with phase := .exhausted }, .ok none) := by
  simp only [Builder.step, Builder.liveCanvas, h.canvas, h.source, h.body_eq_none.2 hend]

/-- A statement is copied when its callee is bound and the source has its
location; the copy goes to the end of the canvas. -/
theorem copy_of_bound (h : Copying ir overwritten b c) {env : Environment} {s : Statement}
    (hlt : b.cursor < ir.size) {node : Node}
    (hnode : env.bindCallee (s.node.mapIds ir.copiedId) = .ok node) {location : Value}
    (hlocation : ir.locations[b.cursor]? = some location) :
    ∃ after, b.copy env c s = .ok (after, ⟨node, s.type⟩) ∧ after.Lawful ∧
      after.entries = c.entries ++ [(b.cursor + 1, ⟨⟨node, s.type⟩, location, false⟩)] ∧
      after.nextId = c.nextId ∧ after.reserved = c.reserved := by
  have hle : b.cursor + 1 ≤ c.reserved := h.reserved ▸ hlt
  have hfree : b.cursor + 1 ∉ c.order := by
    rw [h.mem_order hlt]
    omega
  have hstatement : (Statement.toValue ⟨node, s.type⟩).asStatement = .ok ⟨node, s.type⟩ := rfl
  obtain ⟨after, hplace, hafter⟩ :=
    h.lawful.place_ok (v := ⟨b.cursor + 1⟩) (Nat.le_add_left 1 _) hle hfree hstatement location
  refine ⟨after, ?_, hafter⟩
  rw [← h.source] at hlocation
  simp [Builder.copy, h.resolve_eq, hnode, hlocation, hplace, bind, Except.bind, pure, Except.pure]

theorem bound_of_copy (h : Copying ir overwritten b c) {env : Environment} {s copied : Statement}
    {after : Canvas} (hcopy : b.copy env c s = .ok (after, copied)) :
    ∃ node location, env.bindCallee (s.node.mapIds ir.copiedId) = .ok node ∧
      ir.locations[b.cursor]? = some location := by
  obtain ⟨node, location, hnode, hlocation, -⟩ := exists_of_copy hcopy
  rw [h.resolve_eq] at hnode
  rw [h.source] at hlocation
  exact ⟨node, location, hnode, hlocation⟩

theorem step_eq (h : Copying ir overwritten b c) (env : Environment) {s : Statement}
    (hs : ir.body[b.cursor]? = some s) :
    b.step env =
      match ({ b with phase := .iterating } : Builder).copy env c s with
      | .error fault => ({ b with phase := .iterating }, .error fault)
      | .ok (after, copied) =>
        (b.advanced after, .ok (some (⟨b.cursor + 1⟩, copied))) := by
  obtain rfl := h.source
  exact Builder.step_eq h.canvas hs env

theorem step_of_bound (h : Copying ir overwritten b c) {env : Environment} {s : Statement}
    (hs : ir.body[b.cursor]? = some s) {node : Node}
    (hnode : env.bindCallee (s.node.mapIds ir.copiedId) = .ok node) {location : Value}
    (hlocation : ir.locations[b.cursor]? = some location) :
    ∃ after, b.step env =
        (b.advanced after, .ok (some (⟨b.cursor + 1⟩, ⟨node, s.type⟩))) ∧ after.Lawful ∧
      after.entries = c.entries ++ [(b.cursor + 1, ⟨⟨node, s.type⟩, location, false⟩)] ∧
      after.nextId = c.nextId ∧ after.reserved = c.reserved := by
  have hiterating : Copying ir overwritten { b with phase := .iterating } c :=
    h.congr rfl rfl rfl rfl
  obtain ⟨after, hcopy, hafter⟩ :=
    hiterating.copy_of_bound (List.getElem?_eq_some_iff.1 hs).1 hnode hlocation
  exact ⟨after, by rw [h.step_eq env hs, hcopy], hafter⟩

/-- The copy of the next source statement, put at the end of the canvas. -/
theorem advanced (h : Copying ir overwritten b c) {env : Environment} {s : Statement}
    (hs : ir.body[b.cursor]? = some s) {node : Node}
    (hnode : env.bindCallee (s.node.mapIds ir.copiedId) = .ok node) {location : Value}
    {after : Canvas} (hlawful : after.Lawful)
    (hentries : after.entries = c.entries ++ [(b.cursor + 1, ⟨⟨node, s.type⟩, location, false⟩)])
    (hreserved : after.reserved = c.reserved) :
    Copying ir overwritten (b.advanced after) after := by
  have hlt : b.cursor < ir.size := (List.getElem?_eq_some_iff.1 hs).1
  refine ⟨h.source, rfl, hlawful, hreserved.trans h.reserved, hlt, ?_, ?_, ?_⟩
  · show b.remap ++ [_] = _
    rw [h.remap]
    show _ = (List.range' 1 (b.cursor + 1)).map _
    rw [List.range'_1_concat, List.map_append, Nat.add_comm 1]
    rfl
  · show _ = List.range' 1 (b.cursor + 1)
    rw [hentries, List.map_append, List.filter_append, h.placed, List.range'_1_concat,
      Nat.add_comm 1]
    have hkept : [b.cursor + 1].filter (· ≤ ir.size) = [b.cursor + 1] :=
      List.filter_cons_of_pos (decide_eq_true hlt)
    exact congrArg (_ ++ ·) hkept
  · intro id slot hmem hid hnot
    rw [hentries, List.mem_append, List.mem_singleton] at hmem
    rcases hmem with hold | heq
    · exact h.copies id slot hold hid hnot
    · injection heq with hid hslot
      subst hid hslot
      refine ⟨s, ?_, Environment.carries_of_bindCallee hnode, rfl⟩
      rw [IR.statement?, if_neg (Nat.succ_ne_zero _)]
      exact hs

/-- A step keeps the builder copying, and puts no id beyond those of the source on the
canvas. -/
theorem step (h : Copying ir overwritten b c) (env : Environment) :
    ∃ after, Copying ir overwritten (b.step env).1 after ∧
      after.idsBeyond ir.size = c.idsBeyond ir.size := by
  cases hs : ir.body[b.cursor]? with
  | none =>
    rw [h.step_of_end (h.body_eq_none.1 hs)]
    exact ⟨c, h.congr rfl rfl rfl rfl, rfl⟩
  | some s =>
    have hiterating : Copying ir overwritten { b with phase := .iterating } c :=
      h.congr rfl rfl rfl rfl
    cases hcopy : ({ b with phase := .iterating } : Builder).copy env c s with
    | error fault =>
      rw [h.step_eq env hs, hcopy]
      exact ⟨c, hiterating, rfl⟩
    | ok done =>
      obtain ⟨node, location, hnode, hlocation⟩ := hiterating.bound_of_copy hcopy
      obtain ⟨after, hstep, hlawful, hentries, -, hreserved⟩ :=
        h.step_of_bound hs hnode hlocation
      have hlt : b.cursor < ir.size := (List.getElem?_eq_some_iff.1 hs).1
      rw [hstep]
      refine ⟨after, h.advanced hs hnode hlawful hentries hreserved, ?_⟩
      rw [Canvas.idsBeyond, hentries, List.map_append, List.filter_append]
      simp [Canvas.idsBeyond, Nat.not_lt.2 hlt]

end Copying

/-! ## Runs -/

variable {ir : IR} {overwritten : List Variable} {s : Session}

/-- A source with a line table starts a session in which nothing was copied yet. -/
theorem exists_ofIR (hlines : ir.lineTable ≠ []) :
    ∃ start, ofIR ir = .ok start ∧ start.iterators = [] ∧ start.builder.cursor = 0 ∧
      start.builder.iterating = false := by
  rw [ofIR, Builder.ofIR, if_neg (by simpa using hlines)]
  exact ⟨_, rfl, rfl, rfl, rfl⟩

theorem copying_of_ofIR {start : Session} (h : ofIR ir = .ok start) :
    Copying ir [] start.builder (.empty ir.size) := by
  rw [ofIR, Builder.ofIR] at h
  split at h
  · injection h
  · injection h with h
    subst h
    exact ⟨rfl, rfl, Canvas.empty_lawful _, rfl, Nat.zero_le _, rfl, rfl,
      fun _ _ hmem => absurd hmem List.not_mem_nil⟩

theorem iter_eq {c : Canvas} (h : s.builder.canvas = some c) :
    s.iter = if s.builder.iterating then .error (.alreadyIterating s.builder.source.name)
      else .ok ⟨{ s.builder with iterating := true }, s.iterators ++ [true]⟩ := by
  cases hiterating : s.builder.iterating
  all_goals
    simp [iter, Builder.liveCanvas, h, hiterating, bind, Except.bind, pure, Except.pure, throw,
      throwThe, MonadExceptOf.throw]

/-! ### What a call does to the builder -/

theorem iter_builder (s : Session) :
    ∃ iterating, (s.perform .iter).builder = { s.builder with iterating := iterating } := by
  rw [perform]
  cases hc : s.builder.canvas with
  | none =>
    have hfails : ∃ fault, s.iter = .error fault := by
      simp [iter, Builder.liveCanvas, hc, bind, Except.bind]
    obtain ⟨fault, hfault⟩ := hfails
    rw [hfault]
    exact ⟨s.builder.iterating, rfl⟩
  | some c =>
    rw [iter_eq hc]
    cases s.builder.iterating
    · exact ⟨true, rfl⟩
    · exact ⟨s.builder.iterating, rfl⟩

theorem close_builder (s : Session) (k : Nat) :
    ∃ iterating, (s.close k).builder = { s.builder with iterating := iterating } := by
  rw [close]
  split
  · exact ⟨false, rfl⟩
  · exact ⟨s.builder.iterating, rfl⟩

/-- An iterator makes the builder take a step or, when it is closed, nothing. -/
theorem next_builder (s : Session) (env : Environment) (k : Nat) :
    (s.next env k).1.builder = s.builder ∨ ∃ iterating,
      (s.next env k).1.builder = { (s.builder.step env).1 with iterating := iterating } := by
  rw [next]
  split
  · refine Or.inr ?_
    generalize s.builder.step env = outcome
    obtain ⟨builder, result⟩ := outcome
    cases result with
    | error fault => exact close_builder { s with builder := builder } k
    | ok item =>
      cases item with
      | none => exact close_builder { s with builder := builder } k
      | some item => exact ⟨builder.iterating, rfl⟩
  · exact Or.inl rfl

theorem iter_copying {c : Canvas} (h : Copying ir overwritten s.builder c) :
    Copying ir overwritten (s.perform .iter).builder c := by
  obtain ⟨iterating, hbuilder⟩ := iter_builder s
  rw [hbuilder]
  exact h.congr rfl rfl rfl rfl

theorem close_copying {c : Canvas} (h : Copying ir overwritten s.builder c) (k : Nat) :
    Copying ir overwritten (s.close k).builder c := by
  obtain ⟨iterating, hbuilder⟩ := close_builder s k
  rw [hbuilder]
  exact h.congr rfl rfl rfl rfl

theorem next_copying {c : Canvas} (h : Copying ir overwritten s.builder c) (env : Environment)
    (k : Nat) : ∃ after, Copying ir overwritten (s.next env k).1.builder after ∧
      after.idsBeyond ir.size = c.idsBeyond ir.size := by
  rcases next_builder s env k with hbuilder | ⟨iterating, hbuilder⟩
  · exact ⟨c, hbuilder ▸ h, rfl⟩
  · obtain ⟨after, hafter, hbeyond⟩ := h.step env
    exact ⟨after, hbuilder ▸ hafter.congr rfl rfl rfl rfl, hbeyond⟩

theorem perform_copying {c : Canvas} (h : Copying ir overwritten s.builder c) {call : Call}
    (ho : call.isOrdinary = true) :
    ∃ after, Copying ir (overwritten ++ (s.overwrites call).toList) (s.perform call).builder
      after := by
  have hnone : ∀ {b : Builder}, (∃ after, Copying ir overwritten b after) →
      ∃ after, Copying ir (overwritten ++ []) b after := by
    rw [List.append_nil]
    exact fun hkept => hkept
  cases call with
  | edit e =>
    refine ⟨(c.run e).1, ?_⟩
    have hedit := h.edit (e := e) ho
    simpa [perform, edit, Builder.edit, Builder.liveCanvas, overwrites, h.canvas] using hedit
  | finish strict => exact absurd ho Bool.false_ne_true
  | iter => exact hnone ⟨c, iter_copying h⟩
  | next env k =>
    obtain ⟨after, hafter, -⟩ := next_copying h env k
    exact hnone ⟨after, hafter⟩
  | close k => exact hnone ⟨c, close_copying h k⟩
  | get target => exact hnone ⟨c, h⟩

/-- Ordinary calls in any order keep the builder copying. -/
theorem run_copying {c : Canvas} (h : Copying ir overwritten s.builder c) {calls : List Call}
    (ho : ∀ call ∈ calls, call.isOrdinary = true) :
    ∃ after, Copying ir (overwritten ++ s.overwritten calls) (s.run calls).builder after := by
  induction calls generalizing s overwritten c with
  | nil => exact ⟨c, by rwa [Session.overwritten, List.append_nil]⟩
  | cons call rest ih =>
    obtain ⟨next, hnext⟩ := perform_copying h (ho call List.mem_cons_self)
    obtain ⟨after, hafter⟩ := ih hnext fun call hcall => ho call (List.mem_cons_of_mem _ hcall)
    refine ⟨after, ?_⟩
    rw [List.append_assoc] at hafter
    exact hafter

end Session
end SsaEdit
