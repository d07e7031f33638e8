/-
What holds in every state of a session.

A state is reachable when some calls lead there, in any order: edits of every kind,
also placing statements by hand and renumbering in between, calls that fail, and
finishing.  Every call keeps two things.  The source stays what it was, and as long as
there is a canvas its books are in order.
-/
import SsaEdit.Proofs.Canvas.Bookkeeping
import SsaEdit.Proofs.Session.Calls

namespace SsaEdit
namespace Session

/-- Some calls of a session over a body lead to this state. -/
def Reachable (ir : IR) (s : Session) : Prop :=
  ∃ start calls, ofIR ir = .ok start ∧ s = start.run calls

/-- What every call keeps of a builder. -/
structure Intact (ir : IR) (b : Builder) : Prop where
  lined : ir.lineTable ≠ []
  source : b.source = ir
  lawful : ∀ c, b.canvas = some c → c.Lawful

namespace Intact

variable {ir : IR} {b : Builder}

/-- Only the source and the canvas count. -/
theorem congr (h : Intact ir b) {b' : Builder} (hsource : b'.source = b.source)
    (hcanvas : b'.canvas = b.canvas) : Intact ir b' :=
  ⟨h.lined, hsource.trans h.source, hcanvas ▸ h.lawful⟩

theorem of_canvas (h : Intact ir b) {b' : Builder} (hsource : b'.source = b.source) {c : Canvas}
    (hcanvas : b'.canvas = some c) (hlawful : c.Lawful) : Intact ir b' := by
  refine ⟨h.lined, hsource.trans h.source, fun after hafter => ?_⟩
  rw [← Option.some.inj (hcanvas.symm.trans hafter)]
  exact hlawful

theorem of_no_canvas (h : Intact ir b) {b' : Builder} (hsource : b'.source = b.source)
    (hcanvas : b'.canvas = none) : Intact ir b' := by
  refine ⟨h.lined, hsource.trans h.source, fun after hafter => ?_⟩
  rw [hcanvas] at hafter
  injection hafter

end Intact

/-- A copy goes to the canvas by a placing. -/
theorem place_of_copy {b : Builder} {env : Environment} {c after : Canvas} {s copied : Statement}
    (hcopy : b.copy env c s = .ok (after, copied)) :
    ∃ location, c.place ⟨b.cursor + 1⟩ copied.toValue location = .ok after := by
  obtain ⟨node, location, -, -, -, hplace⟩ := exists_of_copy hcopy
  exact ⟨location, hplace⟩

namespace Intact

variable {ir : IR} {b : Builder}

theorem lawful_liveCanvas (h : Intact ir b) {c : Canvas} (hlive : b.liveCanvas = .ok c) :
    c.Lawful := by
  rw [Builder.liveCanvas] at hlive
  split at hlive
  · rename_i hc
    exact Except.ok.inj hlive ▸ h.lawful _ hc
  · injection hlive

theorem step (h : Intact ir b) (env : Environment) : Intact ir (b.step env).1 := by
  rw [Builder.step]
  cases hlive : b.liveCanvas with
  | error fault => exact h
  | ok c =>
    dsimp only
    cases b.source.body[b.cursor]? with
    | none => exact h.congr rfl rfl
    | some s =>
      dsimp only
      cases hcopy : ({ b with phase := .iterating } : Builder).copy env c s with
      | error fault => exact h.congr rfl rfl
      | ok done =>
        obtain ⟨after, copied⟩ := done
        obtain ⟨location, hplace⟩ := place_of_copy hcopy
        exact h.of_canvas rfl rfl ((h.lawful_liveCanvas hlive).place_lawful hplace)

theorem edit (h : Intact ir b) (e : Canvas.Edit) : Intact ir (b.edit e).1 := by
  rw [Builder.edit]
  cases hlive : b.liveCanvas with
  | error fault => exact h
  | ok c => exact h.of_canvas rfl rfl ((h.lawful_liveCanvas hlive).run_lawful e)

/-- An end leaves the builder as it was, or uses it up. -/
theorem finish (h : Intact ir b) (strict : Bool) : Intact ir (b.finish strict).builder := by
  rw [Builder.finish]
  split
  · exact h
  · dsimp only
    split
    · split
      · exact h.of_no_canvas rfl rfl
      · exact h.of_no_canvas rfl rfl
    · exact h.of_no_canvas rfl rfl

end Intact

variable {ir : IR} {s : Session}

theorem perform_intact (h : Intact ir s.builder) (call : Call) :
    Intact ir (s.perform call).builder := by
  cases call with
  | iter =>
    obtain ⟨iterating, hbuilder⟩ := iter_builder s
    exact hbuilder ▸ h.congr rfl rfl
  | next env k =>
    rcases next_builder s env k with hbuilder | ⟨iterating, hbuilder⟩
    · exact hbuilder ▸ h
    · exact hbuilder ▸ (h.step env).congr rfl rfl
  | close k =>
    obtain ⟨iterating, hbuilder⟩ := close_builder s k
    exact hbuilder ▸ h.congr rfl rfl
  | get target => exact h
  | edit e => exact h.edit e
  | finish strict => exact h.finish strict

theorem run_intact (h : Intact ir s.builder) (calls : List Call) :
    Intact ir (s.run calls).builder := by
  induction calls generalizing s with
  | nil => exact h
  | cons call rest ih => exact ih (perform_intact h call)

theorem intact_of_ofIR {start : Session} (h : ofIR ir = .ok start) : Intact ir start.builder := by
  have hcopying := copying_of_ofIR h
  refine ⟨?_, hcopying.source, fun c hc => ?_⟩
  · rintro hempty
    rw [ofIR, Builder.ofIR, hempty] at h
    injection h
  · rw [← Option.some.inj (hcopying.canvas.symm.trans hc)]
    exact hcopying.lawful

theorem Reachable.intact (h : Reachable ir s) : Intact ir s.builder := by
  obtain ⟨start, calls, hstart, rfl⟩ := h
  exact run_intact (intact_of_ofIR hstart) calls

end Session
end SsaEdit
