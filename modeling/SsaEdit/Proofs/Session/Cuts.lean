/-
Where an iteration is cut does not matter.

`Session.trace` is what is left of some calls when those are taken out that copy nothing
and edit nothing: iterators that are made, refused or closed, steps of closed ones, and
steps that fail or meet the end.  What a session comes to depends on that trace alone.
`Builder.replay` follows a trace without any iterator, and by `replay_trace` it has, at
every point of every run, the canvas, the copies and the cursor of the session and yields
the same pairs.  Runs with the same trace therefore agree, and so does the one loop that
nothing interrupts.
-/
import Mathlib.Data.List.Forall2
import SsaEdit.Proofs.Session.Iteration

namespace SsaEdit

/-! ## Namespaces with the same contents -/

namespace Environment

variable {env env' : Environment}

/-- A global has the same binding in both. -/
def SameBindings (env env' : Environment) : Prop := ∀ g, env.lookup? g = env'.lookup? g

/-- A callee is bound to the same value, or in neither. -/
theorem SameBindings.toOption_bindCallee (h : env.SameBindings env') (n : Node) :
    (env.bindCallee n).toOption = (env'.bindCallee n).toOption := by
  cases hcalls : n.callsGlobal with
  | false =>
    rw [bindCallee_of_callsGlobal_eq_false hcalls, bindCallee_of_callsGlobal_eq_false hcalls]
  | true =>
    obtain ⟨g, args, rfl⟩ := Node.callsGlobal_eq_true hcalls
    show ((env.resolve g).map _).toOption = ((env'.resolve g).map _).toOption
    rw [resolve, resolve, h g]
    cases env'.lookup? g <;> rfl

end Environment

namespace Builder

variable {b : Builder} {env env' : Environment}

/-! ## What steps, edits and ends depend on -/

/-- A builder without the phase and the flag of an iteration in progress. -/
def core (b : Builder) : Builder := { b with phase := .idle, iterating := false }

/-- The next statement as a step copies it, with the canvas that it is on then, if the
step succeeds. -/
def copied? (env : Environment) (b : Builder) : Option (Canvas × Statement) :=
  b.canvas.bind fun c => b.source.body[b.cursor]?.bind fun s => (b.copy env c s).toOption

theorem copied?_core (env : Environment) (b : Builder) : b.core.copied? env = b.copied? env := rfl

theorem copied?_congr (h : env.SameBindings env') (b : Builder) :
    b.copied? env = b.copied? env' := by
  refine congrArg b.canvas.bind (funext fun c => ?_)
  refine congrArg (b.source.body[b.cursor]?).bind (funext fun s => ?_)
  rw [copy, copy, toOption_bind, toOption_bind, h.toOption_bindCallee]

theorem step_of_copied {placed : Canvas} {s : Statement} (h : b.copied? env = some (placed, s)) :
    b.step env = (b.advanced placed, .ok (some (⟨b.cursor + 1⟩, s))) := by
  obtain ⟨c, hc, h⟩ := Option.bind_eq_some_iff.1 h
  obtain ⟨source, hsource, h⟩ := Option.bind_eq_some_iff.1 h
  rw [step_eq hc hsource]
  cases hcopy : b.copy env c source with
  | error fault =>
    rw [hcopy] at h
    cases h
  | ok done =>
    rw [hcopy] at h
    rw [Option.some.inj h]

/-- A step that copies nothing changes at most the phase. -/
theorem step_of_copied_eq_none (h : b.copied? env = none) :
    (b.step env).1.core = b.core ∧ (b.step env).2.toOption.join = none := by
  cases hc : b.canvas with
  | none =>
    rw [step, liveCanvas, hc]
    exact ⟨rfl, rfl⟩
  | some c =>
    cases hs : b.source.body[b.cursor]? with
    | none => simp [step, liveCanvas, core, hc, hs, Except.toOption]
    | some s =>
      rw [step_eq hc hs]
      cases hcopy : b.copy env c s with
      | error fault => exact ⟨rfl, rfl⟩
      | ok done =>
        rw [copied?, hc, Option.bind_some, hs, Option.bind_some, hcopy] at h
        cases h

theorem edit_core (b : Builder) (e : Canvas.Edit) : (b.core.edit e).1 = (b.edit e).1.core := by
  cases hc : b.canvas with
  | none => simp [edit, liveCanvas, core, hc]
  | some c => simp [edit, liveCanvas, core, hc]

/-- Neither counts towards what an end emits. -/
theorem finish_core (b : Builder) (strict : Bool) :
    (b.core.finish strict).builder.core = (b.finish strict).builder.core ∧
      (b.core.finish strict).log = (b.finish strict).log ∧
        (b.core.finish strict).result = (b.finish strict).result := by
  have hlive : b.core.liveCanvas = b.liveCanvas := rfl
  rw [finish, finish, hlive]
  cases b.liveCanvas.bind fun c => c.renumber strict with
  | error fault => exact ⟨rfl, rfl, rfl⟩
  | ok done =>
    obtain ⟨c, outcome⟩ := done
    cases strict with
    | false => exact ⟨rfl, rfl, rfl⟩
    | true =>
      have hemit : emit b.core.source c = emit b.source c := rfl
      dsimp only
      rw [hemit]
      cases validate (emit b.source c) <;> exact ⟨rfl, rfl, rfl⟩

end Builder

namespace Session

/-! ## Traces -/

variable {s t : Session} {call : Call}

/-- The statement that a call copies, if it is a step that copies one, with its
variable. -/
def item? (s : Session) : Call → Option (Variable × Statement)
  | .next env k => (s.next env k).2.toOption.join
  | _ => none

/-- The statements that some calls copy, in order and whichever iterator copies them. -/
def items (s : Session) : List Call → List (Variable × Statement)
  | [] => []
  | call :: rest => (s.item? call).toList ++ (s.perform call).items rest

/-- Whether a call is a step that copies a statement, an edit or an end. -/
def counts (s : Session) : Call → Bool
  | .next env k => (s.item? (.next env k)).isSome
  | .edit _ | .finish _ => true
  | .iter | .close _ | .get _ => false

/-- The calls among some that count. -/
def trace (s : Session) : List Call → List Call
  | [] => []
  | call :: rest => (if s.counts call then [call] else []) ++ (s.perform call).trace rest

/-- The same call, but that a step may be one of another iterator and at a time when every
global is bound to the same. -/
inductive Call.Agrees : Call → Call → Prop
  | same (call : Call) : Agrees call call
  | next {env env' : Environment} (h : env.SameBindings env') (j k : Nat) :
    Agrees (.next env j) (.next env' k)

end Session

namespace Builder

open Session (Call)

/-! ## Traces without iterators -/

/-- What a call that counts makes of a builder, and what it copies. -/
def react (b : Builder) : Call → Builder × Option (Variable × Statement)
  | .next env _ =>
    match b.copied? env with
    | some (placed, s) => ((b.advanced placed).core, some (⟨b.cursor + 1⟩, s))
    | none => (b, none)
  | .edit e => ((b.edit e).1, none)
  | .finish strict => ((b.finish strict).builder.core, none)
  | .iter | .close _ | .get _ => (b, none)

/-- What a trace makes of a builder, and what it copies. -/
def replay (b : Builder) : List Call → Builder × List (Variable × Statement)
  | [] => (b, [])
  | call :: rest =>
    (((b.react call).1.replay rest).1, (b.react call).2.toList ++ ((b.react call).1.replay rest).2)

theorem react_congr {call call' : Call} (h : call.Agrees call') (b : Builder) :
    b.react call = b.react call' := by
  cases h with
  | same call => rfl
  | next henv j k => rw [react, react, copied?_congr henv]

theorem replay_congr {trace trace' : List Call} (h : List.Forall₂ Call.Agrees trace trace')
    (b : Builder) : b.replay trace = b.replay trace' := by
  induction h generalizing b with
  | nil => rfl
  | cons hcall _ ih => rw [replay, replay, react_congr hcall, ih]

end Builder

namespace Session

variable {s t : Session} {call : Call}

/-- A step of an open iterator copies what the builder copies. -/
theorem next_of_copied {env : Environment} {k : Nat} {placed : Canvas} {copy : Statement}
    (hopen : s.isOpen k = true) (h : s.builder.copied? env = some (placed, copy)) :
    s.next env k = ({ s with builder := s.builder.advanced placed },
      .ok (some (⟨s.builder.cursor + 1⟩, copy))) := by
  rw [next, if_pos hopen, Builder.step_of_copied h]

theorem core_close (s : Session) (k : Nat) : (s.close k).builder.core = s.builder.core := by
  obtain ⟨iterating, hbuilder⟩ := close_builder s k
  rw [hbuilder]
  rfl

/-- Any other step changes at most the phase and the iterators. -/
theorem next_of_not_copied {env : Environment} {k : Nat}
    (h : s.isOpen k = true → s.builder.copied? env = none) :
    (s.next env k).1.builder.core = s.builder.core ∧ s.item? (.next env k) = none := by
  rw [item?, next]
  split
  case isFalse => exact ⟨rfl, rfl⟩
  case isTrue hopen =>
    obtain ⟨hcore, hitem⟩ := Builder.step_of_copied_eq_none (h hopen)
    revert hcore hitem
    generalize s.builder.step env = outcome
    obtain ⟨b, result⟩ := outcome
    intro hcore hitem
    have hclosed : (close ⟨b, s.iterators⟩ k).builder.core = s.builder.core :=
      (core_close ⟨b, s.iterators⟩ k).trans hcore
    cases result with
    | error fault => exact ⟨hclosed, rfl⟩
    | ok item =>
      cases item with
      | none => exact ⟨hclosed, rfl⟩
      | some item => cases hitem

theorem counts_next_iff {env : Environment} {k : Nat} : s.counts (.next env k) = true ↔
    s.isOpen k = true ∧ ∃ done, s.builder.copied? env = some done := by
  constructor
  · intro hcounts
    by_contra hnot
    have hitem : s.item? (.next env k) = none := (next_of_not_copied fun hopen =>
      Option.eq_none_iff_forall_ne_some.2 fun done hdone => hnot ⟨hopen, done, hdone⟩).2
    rw [counts, hitem] at hcounts
    cases hcounts
  · rintro ⟨hopen, ⟨placed, copy⟩, hcopied⟩
    rw [counts, item?, next_of_copied hopen hcopied]
    rfl

/-- The step: a call that counts does to the builder what its place in the trace says, and
any other one does nothing. -/
theorem perform_react (s : Session) (call : Call) :
    ((s.perform call).builder.core, s.item? call) =
      if s.counts call then s.builder.core.react call else (s.builder.core, none) := by
  cases call with
  | iter =>
    obtain ⟨iterating, hbuilder⟩ := iter_builder s
    rw [hbuilder]
    rfl
  | close k => exact congrArg (·, none) (s.core_close k)
  | get target => rfl
  | edit e => exact congrArg (·, none) (s.builder.edit_core e).symm
  | finish strict => exact congrArg (·, none) (s.builder.finish_core strict).1.symm
  | next env k =>
    show ((s.next env k).1.builder.core, _) = _
    cases hcounts : s.counts (.next env k) with
    | true =>
      obtain ⟨hopen, ⟨placed, copy⟩, hcopied⟩ := counts_next_iff.1 hcounts
      rw [if_pos rfl, item?, next_of_copied hopen hcopied, Builder.react, Builder.copied?_core,
        hcopied]
      rfl
    | false =>
      have hnone : s.isOpen k = true → s.builder.copied? env = none := fun hopen =>
        Option.eq_none_iff_forall_ne_some.2 fun done hdone =>
          Bool.false_ne_true (hcounts.symm.trans (counts_next_iff.2 ⟨hopen, done, hdone⟩))
      obtain ⟨hcore, hitem⟩ := next_of_not_copied hnone
      rw [if_neg Bool.false_ne_true, hcore, hitem]

/-- A call that counts does the same to builders that differ in the phase and the flag. -/
theorem core_perform_of_counts {call' : Call} (hcore : s.builder.core = t.builder.core)
    (hcall : call.Agrees call') (hs : s.counts call = true) (ht : t.counts call' = true) :
    (s.perform call).builder.core = (t.perform call').builder.core := by
  have hfirst := s.perform_react call
  have hsecond := t.perform_react call'
  rw [hs, if_pos rfl, hcore, Builder.react_congr hcall] at hfirst
  rw [ht, if_pos rfl] at hsecond
  exact congrArg Prod.fst (hfirst.trans hsecond.symm)

theorem core_perform_of_not_counts (h : s.counts call = false) :
    (s.perform call).builder.core = s.builder.core := by
  have hstep := s.perform_react call
  rw [h, if_neg Bool.false_ne_true] at hstep
  exact congrArg Prod.fst hstep

/-- The run: at every point the replay of the trace has what the session has, and has
yielded what its iterators have yielded. -/
theorem replay_trace (s : Session) (calls : List Call) :
    s.builder.core.replay (s.trace calls) = ((s.run calls).builder.core, s.items calls) := by
  induction calls generalizing s with
  | nil => rfl
  | cons call rest ih =>
    have hstep := s.perform_react call
    have hrest := ih (s.perform call)
    show s.builder.core.replay ((if s.counts call then [call] else []) ++ _) =
      (((s.perform call).run rest).builder.core, (s.item? call).toList ++ _)
    cases hcounts : s.counts call with
    | true =>
      rw [hcounts, if_pos rfl] at hstep
      rw [if_pos rfl, List.singleton_append, Builder.replay, ← hstep, hrest]
    | false =>
      rw [hcounts, if_neg Bool.false_ne_true, Prod.mk.injEq] at hstep
      rw [if_neg Bool.false_ne_true, List.nil_append, ← hstep.1, hrest, hstep.2]
      rfl

theorem trace_append (s : Session) (first second : List Call) :
    s.trace (first ++ second) = s.trace first ++ (s.run first).trace second := by
  induction first generalizing s with
  | nil => rfl
  | cons call rest ih =>
    rw [List.cons_append, trace, trace, ih, List.append_assoc]
    rfl

/-! ## The uninterrupted loop -/

/-- The same call, as a step of iterator `k` if it is a step. -/
def Call.through (k : Nat) : Call → Call
  | .next env _ => .next env k
  | call => call

theorem Call.agrees_through (k : Nat) (call : Call) : call.Agrees (call.through k) := by
  cases call with
  | next env j => exact .next (fun _ => rfl) j k
  | _ => exact .same _

/-- The loop that copies and edits what some calls copy and edit, in the same order: one
iterator, and nothing else. -/
def uninterrupted (s : Session) (calls : List Call) : List Call :=
  .iter :: (s.trace calls).map (Call.through s.iterators.length)

/-- What counts in one session counts in a loop that has come as far, and the iterator of
the loop stays open. -/
theorem counts_through {k : Nat} (hcore : s.builder.core = t.builder.core)
    (hopen : t.isOpen k = true) (hcounts : s.counts call = true) :
    t.counts (call.through k) = true ∧ (t.perform (call.through k)).isOpen k = true := by
  cases call with
  | next env j =>
    obtain ⟨-, ⟨placed, copy⟩, hcopied⟩ := counts_next_iff.1 hcounts
    rw [← Builder.copied?_core, hcore, Builder.copied?_core] at hcopied
    refine ⟨counts_next_iff.2 ⟨hopen, _, hcopied⟩, ?_⟩
    show (t.next env k).1.isOpen k = true
    rw [next_of_copied hopen hcopied]
    exact hopen
  | edit e => exact ⟨rfl, hopen⟩
  | finish strict => exact ⟨rfl, hopen⟩
  | iter | close _ | get _ => cases hcounts

theorem trace_through {k : Nat} (hcore : s.builder.core = t.builder.core)
    (hopen : t.isOpen k = true) (calls : List Call) :
    t.trace ((s.trace calls).map (Call.through k)) = (s.trace calls).map (Call.through k) := by
  -- The loop keeps up with the core of the session, and waits while nothing counts.
  induction calls generalizing s t with
  | nil => rfl
  | cons call rest ih =>
    rw [trace]
    cases hcounts : s.counts call with
    | false => exact ih ((core_perform_of_not_counts hcounts).trans hcore) hopen
    | true =>
      obtain ⟨hcounts', hopen'⟩ := counts_through hcore hopen hcounts
      have hcore' := core_perform_of_counts hcore (call.agrees_through k) hcounts hcounts'
      rw [if_pos rfl, List.singleton_append, List.map_cons, trace, hcounts', if_pos rfl,
        List.singleton_append, ih hcore' hopen']

/-- The loop over a builder that no iterator is open for copies and edits the same. -/
theorem trace_uninterrupted {c : Canvas} (hc : s.builder.canvas = some c)
    (hflag : s.builder.iterating = false) (calls : List Call) :
    s.trace (s.uninterrupted calls) = (s.trace calls).map (Call.through s.iterators.length) := by
  have hiter : s.perform .iter =
      ⟨{ s.builder with iterating := true }, s.iterators ++ [true]⟩ := by
    rw [perform, iter_eq hc, hflag]
    rfl
  have hcore : s.builder.core = (s.perform .iter).builder.core := by
    rw [hiter]
    rfl
  have hopen : (s.perform .iter).isOpen s.iterators.length = true := by
    rw [hiter]
    exact (isOpen_opened _ _ _).2 (Or.inr rfl)
  exact trace_through hcore hopen calls

/-! ## Points of two runs -/

/-- Two sessions have made the same of their builders. -/
structure Alike (s t : Session) : Prop where
  canvas : s.builder.canvas = t.builder.canvas
  remap : s.builder.remap = t.builder.remap
  cursor : s.builder.cursor = t.builder.cursor
  /-- An end logs the same and emits the same body, or fails in the same way. -/
  finish : ∀ strict, (s.finish strict).2 = (t.finish strict).2
  renumbering : ∀ strict, (s.finish strict).1.builder.renumbering =
    (t.finish strict).1.builder.renumbering

theorem alike_of_core (h : s.builder.core = t.builder.core) : s.Alike t := by
  have hfield : ∀ {α : Type} (f : Builder → α), f s.builder.core = f t.builder.core :=
    fun f => congrArg f h
  refine ⟨hfield Builder.canvas, hfield Builder.remap, hfield Builder.cursor, fun strict => ?_,
    fun strict => ?_⟩
  · obtain ⟨-, hlog, hresult⟩ := s.builder.finish_core strict
    obtain ⟨-, hlog', hresult'⟩ := t.builder.finish_core strict
    show ((s.builder.finish strict).log, (s.builder.finish strict).result) =
      ((t.builder.finish strict).log, (t.builder.finish strict).result)
    rw [← hlog, ← hresult, h, hlog', hresult']
  · have hcore := (s.builder.finish_core strict).1
    rw [h, (t.builder.finish_core strict).1] at hcore
    exact (congrArg Builder.renumbering hcore).symm

/-- Wherever as much has been copied and edited in one run as in another, the same has been
yielded, and the sessions are alike. -/
def Alongside (start : Session) (calls others : List Call) : Prop :=
  ∀ first second, first <+: calls → second <+: others →
    (start.trace first).length = (start.trace second).length →
      start.items first = start.items second ∧ (start.run first).Alike (start.run second)

theorem alongside_of_trace {calls others : List Call}
    (h : List.Forall₂ Call.Agrees (s.trace calls) (s.trace others)) : s.Alongside calls others := by
  rintro first second ⟨later, rfl⟩ ⟨later', rfl⟩ hlength
  rw [trace_append, trace_append] at h
  have hfirst := List.forall₂_take (s.trace first).length h
  rw [List.take_left, hlength, List.take_left] at hfirst
  have hreplay := Builder.replay_congr hfirst s.builder.core
  rw [replay_trace, replay_trace, Prod.mk.injEq] at hreplay
  exact ⟨hreplay.2, alike_of_core hreplay.1⟩

/-- What two runs come to that copy and edit the same. -/
structure CutsAlike (start : Session) (calls others : List Call) : Prop where
  points : start.Alongside calls others
  /-- One uninterrupted loop copies and edits the same as well. -/
  loop : start.trace (start.uninterrupted calls) = (start.trace calls).map (Call.through 0)
  loop_points : start.Alongside calls (start.uninterrupted calls)

/-- Two runs of any calls, cut into iterations in any way, agree at all corresponding points
if the same statements are copied and the same edits made in the same order while every
global is bound to the same, and both agree with one uninterrupted loop. -/
theorem run_cutsAlike {ir : IR} {start : Session} (h : ofIR ir = .ok start)
    {calls others : List Call}
    (hsame : List.Forall₂ Call.Agrees (start.trace calls) (start.trace others)) :
    start.CutsAlike calls others := by
  have hlines : ir.lineTable ≠ [] := fun hempty => by
    rw [ofIR, Builder.ofIR, hempty] at h
    cases h
  obtain ⟨fresh, hfresh, hnone, -, hflag⟩ := exists_ofIR hlines
  obtain rfl := Except.ok.inj (hfresh.symm.trans h)
  have hloop := trace_uninterrupted (copying_of_ofIR h).canvas hflag calls
  have hagrees : List.Forall₂ Call.Agrees (fresh.trace calls)
      (fresh.trace (fresh.uninterrupted calls)) := by
    rw [hloop, List.forall₂_map_right_iff, List.forall₂_same]
    exact fun call _ => call.agrees_through _
  rw [hnone] at hloop
  exact ⟨alongside_of_trace hsame, hloop, alongside_of_trace hagrees⟩

/-- The counting loop with the same copies and the same edit as in `handedOver`, cut after
the second one: the first iterator is closed before the edit, and a third one is refused. -/
def takenUp : List Call :=
  [.iter, .next .empty 0, .next .empty 0, .close 0, .next .empty 0,
    .edit (.delete (.variable ⟨1⟩)), .iter, .iter, .next .empty 1]

theorem run_cutsAlike_takenUp :
    ∃ start, ofIR Samples.countingLoop = .ok start ∧
      List.Forall₂ Call.Agrees (start.trace handedOver) (start.trace takenUp) ∧
      start.CutsAlike handedOver takenUp ∧
      start.uninterrupted takenUp = [.iter, .next .empty 0, .next .empty 0,
        .edit (.delete (.variable ⟨1⟩)), .next .empty 0] := by
  have hsame : List.Forall₂ Call.Agrees
      (trace ⟨⟨Samples.countingLoop, some (.empty 7), [], 0, .idle, [], false⟩, []⟩ handedOver)
      (trace ⟨⟨Samples.countingLoop, some (.empty 7), [], 0, .idle, [], false⟩, []⟩ takenUp) := by
    show List.Forall₂ Call.Agrees
      [.next .empty 0, .next .empty 1, .edit (.delete (.variable ⟨1⟩)), .next .empty 1]
      [.next .empty 0, .next .empty 0, .edit (.delete (.variable ⟨1⟩)), .next .empty 1]
    exact .cons (.same _) (.cons (.next (fun _ => rfl) 1 0)
      (.cons (.same _) (.cons (.same _) .nil)))
  exact ⟨_, ofIR_countingLoop, hsame, run_cutsAlike ofIR_countingLoop hsame, rfl⟩

end Session
end SsaEdit
