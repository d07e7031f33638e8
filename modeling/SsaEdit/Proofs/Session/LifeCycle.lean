/-
The life of a builder.

A builder is idle, iterates, has exhausted its source, and is finished, and it never
goes back.  What each phase says about the cursor and the canvas is kept by everything
that a call can make of a builder, and so is the order of the phases.  An end that emits
a body takes the canvas away, and without a canvas every call is refused.
-/
import SsaEdit.Proofs.Session.Embedding
import SsaEdit.Proofs.Session.Reachable

namespace SsaEdit

/-- The place of a phase in the order of a life. -/
def Phase.rank : Phase → Nat
  | .idle => 0
  | .iterating => 1
  | .exhausted => 2
  | .finished => 3

theorem Phase.rank_le_exhausted {p : Phase} (h : p ≠ .finished) : p.rank ≤ Phase.exhausted.rank := by
  cases p with
  | finished => exact absurd rfl h
  | idle | iterating | exhausted => decide

namespace Builder

variable {b after : Builder}

/-! ## What the phases say -/

/-- How the phase of a builder goes with the rest of it. -/
structure InPhase (b : Builder) : Prop where
  cursor_le : b.cursor ≤ b.source.size
  idle : b.phase = .idle → b.cursor = 0 ∧ b.remap = []
  exhausted : b.phase = .exhausted → b.cursor = b.source.size
  finished : b.phase = .finished ↔ b.canvas = none

theorem InPhase.not_finished (h : b.InPhase) (hcanvas : b.canvas ≠ none) : b.phase ≠ .finished :=
  fun hfinished => hcanvas (h.finished.1 hfinished)

namespace Turns

theorem inPhase (h : b.Turns after) (hb : b.InPhase) : after.InPhase := by
  have hiterating : ∀ {canvas : Option Canvas}, canvas ≠ none →
      (Phase.iterating = .finished ↔ canvas = none) := iff_of_false (by decide)
  cases h with
  | rests canvas iterating hcanvas =>
    exact ⟨hb.cursor_le, hb.idle, hb.exhausted, hb.finished.trans hcanvas.symm⟩
  | ends iterating hcanvas hend =>
    exact ⟨hb.cursor_le, fun hphase => (Phase.noConfusion hphase),
      fun _ => Nat.le_antisymm hb.cursor_le hend,
      iff_of_false (show Phase.exhausted ≠ .finished by decide) hcanvas⟩
  | fails iterating hcanvas hlt =>
    exact ⟨hb.cursor_le, fun hphase => (Phase.noConfusion hphase),
      fun hphase => (Phase.noConfusion hphase), hiterating hcanvas⟩
  | copies iterating hcanvas hlt placed =>
    exact ⟨hlt, fun hphase => (Phase.noConfusion hphase), fun hphase => (Phase.noConfusion hphase),
      hiterating (Option.some_ne_none placed)⟩
  | finishes hcanvas places =>
    exact ⟨hb.cursor_le, fun hphase => (Phase.noConfusion hphase),
      fun hphase => (Phase.noConfusion hphase), iff_of_true rfl rfl⟩

theorem rank_le (h : b.Turns after) (hb : b.InPhase) : b.phase.rank ≤ after.phase.rank := by
  -- While there is something to copy the source is not exhausted.
  have hearly : b.canvas ≠ none → b.cursor < b.source.size → b.phase.rank ≤ Phase.iterating.rank := by
    intro hcanvas hlt
    cases hphase : b.phase with
    | idle | iterating => decide
    | exhausted => exact absurd (hb.exhausted hphase) (Nat.ne_of_lt hlt)
    | finished => exact absurd hphase (hb.not_finished hcanvas)
  cases h with
  | rests canvas iterating hcanvas => exact Nat.le_refl _
  | ends iterating hcanvas hend => exact Phase.rank_le_exhausted (hb.not_finished hcanvas)
  | fails iterating hcanvas hlt => exact hearly hcanvas hlt
  | copies iterating hcanvas hlt placed => exact hearly hcanvas hlt
  | finishes hcanvas places =>
    exact Nat.le_succ_of_le (Phase.rank_le_exhausted (hb.not_finished hcanvas))

end Turns
end Builder

namespace Session

variable {ir : IR} {s : Session}

theorem run_inPhase (h : s.builder.InPhase) (calls : List Call) : (s.run calls).builder.InPhase := by
  induction calls generalizing s with
  | nil => exact h
  | cons call rest ih => exact ih ((s.perform_turns call).inPhase h)

theorem rank_le_run (h : s.builder.InPhase) (calls : List Call) :
    s.builder.phase.rank ≤ (s.run calls).builder.phase.rank := by
  induction calls generalizing s with
  | nil => exact Nat.le_refl _
  | cons call rest ih =>
    have hturns := s.perform_turns call
    exact Nat.le_trans (hturns.rank_le h) (ih (hturns.inPhase h))

theorem inPhase_of_ofIR {start : Session} (h : ofIR ir = .ok start) : start.builder.InPhase := by
  rw [ofIR, Builder.ofIR] at h
  split at h
  · injection h
  · injection h with h
    subst h
    exact ⟨Nat.zero_le _, fun _ => ⟨rfl, rfl⟩, fun hphase => (Phase.noConfusion hphase),
      iff_of_false (show Phase.idle ≠ .finished by decide) (Option.some_ne_none _)⟩

/-! ## After the end -/

/-- The answers of a builder that is used after its end: to every question that its
canvas would have to answer, be it for a statement, for whether there is one, for how
many there are or for the canvas itself; to every edit, to a new iterator, to another
end, and to the first step of an iterator that is still open, which closes it. -/
structure Refuses (s : Session) : Prop where
  ask : ∀ {α : Type} (question : Canvas → Except Fault α),
    s.builder.ask question = .error (.alreadyFinished s.builder.source.name)
  edit : ∀ e, (s.edit e).2 = .error (.alreadyFinished s.builder.source.name)
  iter : s.iter = .error (.alreadyFinished s.builder.source.name)
  finish : ∀ strict, (s.finish strict).2 = ([], .error (.alreadyFinished s.builder.source.name))
  next : ∀ env k, s.isOpen k = true →
    (s.next env k).2 = .error (.alreadyFinished s.builder.source.name) ∧
      (s.next env k).1.isOpen k = false

theorem refuses_of_gone (hgone : s.builder.canvas = none) : s.Refuses := by
  have hlive : s.builder.liveCanvas = .error (.alreadyFinished s.builder.source.name) := by
    rw [Builder.liveCanvas, hgone]
  refine ⟨fun question => ?_, fun e => ?_, ?_, fun strict => ?_, fun env k hopen => ?_⟩
  · rw [Builder.ask, hlive]
    rfl
  · rw [edit, Builder.edit, hlive]
  · rw [iter, hlive]
    rfl
  · rw [finish, Builder.finish_of_gone hgone]
  · have hstep : s.builder.step env =
        (s.builder, .error (.alreadyFinished s.builder.source.name)) := by
      rw [Builder.step, hlive]
    rw [next, if_pos hopen, hstep]
    refine ⟨rfl, ?_⟩
    show (s.close k).isOpen k = false
    rw [isOpen_close, bne_self_eq_false, Bool.and_false]

/-- An end that emits a body takes the canvas away. -/
theorem canvas_of_emits {strict : Bool} {out : IR} (h : Builder.Emits (s.finish strict).2.2 out) :
    (s.finish strict).1.builder.canvas = none := by
  cases hc : s.builder.canvas with
  | none => exact absurd h (Builder.not_emits_of_no_canvas hc strict out)
  | some c =>
    have hfinished : (s.builder.finish strict).builder = s.builder.finished c :=
      (Builder.of_emits hc rfl h).1
    exact congrArg Builder.canvas hfinished

/-- An end that fails because of dangling references changes nothing. -/
theorem finish_of_dangling {strict : Bool} {records : List Dangling}
    (h : (s.finish strict).2.2 = .error (.dangling records)) :
    (s.finish strict).1 = s ∧ s.builder.canvas ≠ none := by
  rw [finish] at h ⊢
  cases hc : s.builder.canvas with
  | none =>
    rw [Builder.finish_of_gone hc] at h
    injection h with h
    cases h
  | some c =>
    refine ⟨?_, Option.some_ne_none c⟩
    cases strict with
    | false =>
      rw [Builder.finish_false hc] at h
      cases h
    | true =>
      rw [Builder.finish_true hc] at h ⊢
      split
      case isFalse => rfl
      case isTrue hclean =>
        -- Past the renumbering it is the validation that fails.
        rw [if_pos hclean] at h
        dsimp only at h
        split at h
        case h_1 fault hvalidate =>
          rw [validate] at hvalidate
          split at hvalidate
          · injection hvalidate with hvalidate
            injection h with h
            rw [← hvalidate] at h
            cases h
          · cases hvalidate
        case h_2 report hvalidate =>
          split at h
          · cases h
          · injection h with h
            cases h

/-- The state of a session between two calls, as far as its life is concerned. -/
structure LifeCycle (ir : IR) (s : Session) : Prop where
  idle : s.builder.phase = .idle → s.builder.cursor = 0 ∧ s.builder.remap = []
  exhausted : s.builder.phase = .exhausted → s.builder.cursor = ir.size
  finished : s.builder.phase = .finished ↔ s.builder.canvas = none
  /-- No calls lead back to an earlier phase. -/
  forward : ∀ calls, s.builder.phase.rank ≤ (s.run calls).builder.phase.rank
  /-- An end that emits a body is the last thing that happens to the builder, but for the
  flag that closing an iterator takes back. -/
  ends : ∀ strict out, Builder.Emits (s.finish strict).2.2 out →
    (s.finish strict).1.builder.phase = .finished ∧
      ∀ calls, ((s.finish strict).1.run calls).Refuses ∧ ∃ iterating,
        ((s.finish strict).1.run calls).builder =
          { (s.finish strict).1.builder with iterating := iterating }
  /-- One that fails because of dangling references is no end. -/
  stays : ∀ strict records, (s.finish strict).2.2 = .error (.dangling records) →
    (s.finish strict).1 = s ∧ s.builder.phase ≠ .finished

theorem lifeCycle (hsource : s.builder.source = ir) (h : s.builder.InPhase) : LifeCycle ir s where
  idle := h.idle
  exhausted := hsource ▸ h.exhausted
  finished := h.finished
  forward := rank_le_run h
  ends strict out hout := by
    have hgone := canvas_of_emits hout
    have hafter : (s.finish strict).1.builder.InPhase := (s.builder.finish_turns strict).inPhase h
    refine ⟨hafter.finished.2 hgone, fun calls => ?_⟩
    obtain ⟨iterating, hsame⟩ := run_of_gone hgone calls
    exact ⟨refuses_of_gone (by rw [hsame]; exact hgone), iterating, hsame⟩
  stays strict records hfails := by
    obtain ⟨hsame, hcanvas⟩ := finish_of_dangling hfails
    exact ⟨hsame, h.not_finished hcanvas⟩

/-- After any calls on a builder and its iterators, in any order and whether they failed
or not, the phase agrees with the cursor, the copies and the canvas; later calls only
take it forward, and an end that emits a body is final. -/
theorem run_lifeCycle {ir : IR} {start : Session} (h : ofIR ir = .ok start) (calls : List Call) :
    LifeCycle ir (start.run calls) :=
  lifeCycle (run_intact (intact_of_ofIR h) calls).source (run_inPhase (inPhase_of_ofIR h) calls)

/-- The counting loop, finished after two steps with the iterator still open: its next
step is refused, and only that first one. -/
theorem run_lifeCycle_interrupted :
    ∃ start, ofIR Samples.countingLoop = .ok start ∧
      ∃ after, ((start.run [.iter, .next .empty 0, .next .empty 0]).finish false).1 = after ∧
        after.builder.phase = .finished ∧ after.isOpen 0 = true ∧
        (after.next .empty 0).2 = .error (.alreadyFinished "count") ∧
        ((after.next .empty 0).1.next .empty 0).2 = .ok none := by
  obtain ⟨-, -, -, -, hends, -⟩ :=
    run_lifeCycle ofIR_countingLoop [.iter, .next .empty 0, .next .empty 0]
  obtain ⟨hphase, hlater⟩ := hends false _ (Or.inl rfl)
  obtain ⟨hrefuses, -⟩ := hlater []
  have hnext := (hrefuses.next .empty 0 rfl).1
  exact ⟨_, ofIR_countingLoop, _, rfl, hphase, rfl, hnext, rfl⟩

end Session
end SsaEdit
