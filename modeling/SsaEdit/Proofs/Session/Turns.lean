/-
What one call makes of a builder.

`Builder.Turns` lists what a call, whether it fails or not, can change: the canvas and
the flag of an iteration, or the phase with what goes along with it.  The source stays
in every case, and once the canvas is gone nothing but the flag changes any more.
-/
import SsaEdit.Proofs.Session.Iteration

namespace SsaEdit

namespace Builder

/-- What one call can make of a builder. -/
inductive Turns (b : Builder) : Builder → Prop
  /-- Its life stands still; the canvas, if it is there, may have been edited. -/
  | rests (canvas : Option Canvas) (iterating : Bool) (hcanvas : canvas = none ↔ b.canvas = none) :
    Turns b { b with canvas := canvas, iterating := iterating }
  /-- A step found the end of the source. -/
  | ends (iterating : Bool) (hcanvas : b.canvas ≠ none) (hend : b.source.size ≤ b.cursor) :
    Turns b { b with phase := .exhausted, iterating := iterating }
  /-- A step copied nothing, though there was something to copy. -/
  | fails (iterating : Bool) (hcanvas : b.canvas ≠ none) (hlt : b.cursor < b.source.size) :
    Turns b { b with phase := .iterating, iterating := iterating }
  | copies (iterating : Bool) (hcanvas : b.canvas ≠ none) (hlt : b.cursor < b.source.size)
    (after : Canvas) : Turns b { b.advanced after with iterating := iterating }
  | finishes (hcanvas : b.canvas ≠ none) (places : List (Variable × Variable)) :
    Turns b { b with canvas := none, phase := .finished, renumbering := places }

variable {b after : Builder}

theorem turns_of_iterating (h : ∃ iterating, after = { b with iterating := iterating }) :
    b.Turns after := by
  obtain ⟨iterating, rfl⟩ := h
  exact .rests b.canvas iterating Iff.rfl

theorem edit_turns (b : Builder) (e : Canvas.Edit) : b.Turns (b.edit e).1 := by
  rw [edit, liveCanvas]
  cases hc : b.canvas with
  | none => exact turns_of_iterating ⟨b.iterating, rfl⟩
  | some c =>
    refine .rests (some (c.run e).1) b.iterating (iff_of_false (Option.some_ne_none _) ?_)
    rw [hc]
    exact Option.some_ne_none c

theorem finish_of_gone (hc : b.canvas = none) (strict : Bool) :
    b.finish strict = ⟨b, [], .error (.alreadyFinished b.source.name)⟩ := by
  simp [finish, liveCanvas, hc, Except.bind]

theorem finish_turns (b : Builder) (strict : Bool) : b.Turns (b.finish strict).builder := by
  by_cases hc : b.canvas = none
  · rw [finish_of_gone hc]
    exact turns_of_iterating ⟨b.iterating, rfl⟩
  · rcases b.finish_builder strict with hsame | ⟨places, hfinished⟩
    · rw [hsame]
      exact turns_of_iterating ⟨b.iterating, rfl⟩
    · rw [hfinished]
      exact .finishes hc places

theorem step_turns (b : Builder) (env : Environment) (iterating : Bool) :
    b.Turns { (b.step env).1 with iterating := iterating } := by
  have hsteps := b.step_steps env
  revert hsteps
  generalize b.step env = outcome
  intro hsteps
  cases hsteps with
  | gone hcanvas fault => exact turns_of_iterating ⟨iterating, rfl⟩
  | ended hcanvas hend => exact .ends iterating hcanvas hend
  | failed hcanvas hlt fault => exact .fails iterating hcanvas hlt
  | copied hcanvas hlt placed s => exact .copies iterating hcanvas hlt placed

/-- Nothing but the flag of an iteration changes once the canvas is gone. -/
theorem Turns.of_gone (h : b.Turns after) (hgone : b.canvas = none) :
    ∃ iterating, after = { b with iterating := iterating } := by
  cases h with
  | rests canvas iterating hcanvas =>
    refine ⟨iterating, ?_⟩
    rw [hcanvas.2 hgone, ← hgone]
  | ends iterating hcanvas hend => exact absurd hgone hcanvas
  | fails iterating hcanvas hlt => exact absurd hgone hcanvas
  | copies iterating hcanvas hlt placed => exact absurd hgone hcanvas
  | finishes hcanvas places => exact absurd hgone hcanvas

end Builder

namespace Session

variable {s : Session}

theorem perform_turns (s : Session) (call : Call) : s.builder.Turns (s.perform call).builder := by
  cases call with
  | iter => exact Builder.turns_of_iterating (iter_builder s)
  | close k => exact Builder.turns_of_iterating (close_builder s k)
  | get target => exact Builder.turns_of_iterating ⟨s.builder.iterating, rfl⟩
  | edit e => exact s.builder.edit_turns e
  | finish strict => exact s.builder.finish_turns strict
  | next env k =>
    show s.builder.Turns (s.next env k).1.builder
    rcases next_builder s env k with hsame | ⟨iterating, hbuilder⟩
    · exact Builder.turns_of_iterating ⟨s.builder.iterating, hsame⟩
    · rw [hbuilder]
      exact s.builder.step_turns env iterating

theorem run_of_gone (hgone : s.builder.canvas = none) (calls : List Call) :
    ∃ iterating, (s.run calls).builder = { s.builder with iterating := iterating } := by
  induction calls generalizing s with
  | nil => exact ⟨s.builder.iterating, rfl⟩
  | cons call rest ih =>
    obtain ⟨first, hfirst⟩ := (s.perform_turns call).of_gone hgone
    obtain ⟨last, hlast⟩ := ih (s := s.perform call) (by rw [hfirst]; exact hgone)
    refine ⟨last, ?_⟩
    show ((s.perform call).run rest).builder = _
    rw [hlast, hfirst]

end Session
end SsaEdit
