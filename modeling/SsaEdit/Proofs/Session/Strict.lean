/-
The strict end against the lenient one.

The strict end succeeds exactly when the body of the lenient end is valid.  A dangling
reference is a defect of that body, so it never is in the way of a success; it only
decides how the strict end fails, before anything has changed or with the builder used
up.
-/
import SsaEdit.Proofs.Session.Dangling

namespace SsaEdit
namespace Session

variable {ir : IR} {s : Session} {c : Canvas} {report : Report}

/-- A valid body comes from a renumbering that found every statement. -/
theorem dangling_eq_nil_of_valid {r : Renumbering}
    (hperm : report.danglingDefects.Perm r.danglingDefects) (hvalid : report.defects = []) :
    r.dangling = [] := by
  rw [Report.danglingDefects, hvalid] at hperm
  exact List.map_eq_nil_iff.1 hperm.nil_eq.symm

theorem finish_false_eq (hc : s.builder.canvas = some c) :
    s.finish false = ({ s with builder := s.builder.finished c }, s.builder.finishLog c,
      .ok (Builder.emit s.builder.source c.renumbered)) := by
  rw [finish, Builder.finish_false hc]

theorem finish_true_of_dangling (hc : s.builder.canvas = some c)
    (hdangling : c.renumbering.dangling ≠ []) :
    s.finish true = (s, [], .error (.dangling c.renumbering.dangling)) := by
  rw [finish, Builder.finish_true hc, if_neg (by rwa [List.isEmpty_iff])]

theorem finish_true_of_clean (hc : s.builder.canvas = some c)
    (hclean : c.renumbering.dangling = [])
    (hreport : validate (Builder.emit s.builder.source c.renumbered) = .ok report) :
    ∃ log, s.finish true = ({ s with builder := s.builder.finished c }, log,
      if report.ok then .ok (Builder.emit s.builder.source c.renumbered)
      else .error (.invalid report (some (Builder.emit s.builder.source c.renumbered)))) := by
  rw [finish, Builder.finish_true hc, if_pos (by rw [hclean]; rfl), hreport]
  exact ⟨_, rfl⟩

theorem finish_true_of_valid (hc : s.builder.canvas = some c)
    (hvalidate : validate (Builder.emit s.builder.source c.renumbered) = .ok report)
    (hperm : report.danglingDefects.Perm c.renumbering.danglingDefects)
    (hvalid : report.defects = []) :
    ∃ log, s.finish true = ({ s with builder := s.builder.finished c }, log,
      .ok (Builder.emit s.builder.source c.renumbered)) := by
  have hclean := dangling_eq_nil_of_valid hperm hvalid
  obtain ⟨log, hstrict⟩ := finish_true_of_clean hc hclean hvalidate
  have hok : report.ok = true := by rw [Report.ok, hvalid, List.isEmpty_nil]
  rw [if_pos hok] at hstrict
  exact ⟨log, hstrict⟩

theorem finish_true_of_invalid (hc : s.builder.canvas = some c)
    (hclean : c.renumbering.dangling = [])
    (hvalidate : validate (Builder.emit s.builder.source c.renumbered) = .ok report)
    (hdefects : report.defects ≠ []) :
    ∃ log, s.finish true = ({ s with builder := s.builder.finished c }, log,
      .error (.invalid report (some (Builder.emit s.builder.source c.renumbered)))) := by
  obtain ⟨log, hstrict⟩ := finish_true_of_clean hc hclean hvalidate
  rw [if_neg (by rwa [Report.ok, List.isEmpty_iff])] at hstrict
  exact ⟨log, hstrict⟩

/-- A body with defects does not come out of the strict end. -/
theorem finish_true_fails (hc : s.builder.canvas = some c)
    (hvalidate : validate (Builder.emit s.builder.source c.renumbered) = .ok report)
    (hdefects : report.defects ≠ []) : ∃ fault, (s.finish true).2.2 = .error fault := by
  by_cases hclean : c.renumbering.dangling = []
  · obtain ⟨_, hstrict⟩ := finish_true_of_invalid hc hclean hvalidate hdefects
    exact ⟨_, by rw [hstrict]⟩
  · exact ⟨_, by rw [finish_true_of_dangling hc hclean]⟩

/-- How the strict end of a session stands to its lenient end, when a renumbering notes some
dangling references. -/
structure FinishesAlike (s after : Session) (log : List LogRecord) (out : IR)
    (dangling : List Dangling) (report : Report) : Prop where
  lenient : s.finish false = (after, log, .ok out)
  validated : validate out = .ok report
  /-- The strict end succeeds exactly if the body of the lenient end has no defect. -/
  succeeds : (∃ after' log' out', s.finish true = (after', log', .ok out')) ↔ report.defects = []
  /-- Then it comes to the same state and the same body. -/
  valid : report.defects = [] → ∃ log', s.finish true = (after, log', .ok out)
  /-- With dangling references it fails with them and leaves the session as it was, so that the
  lenient end still comes out as before. -/
  dangles : dangling ≠ [] → s.finish true = (s, [], .error (.dangling dangling)) ∧
    (s.finish true).1.finish false = (after, log, .ok out)
  /-- Without any it fails with that body and the report on it, and the builder is used up. -/
  invalid : dangling = [] → report.defects ≠ [] →
    ∃ log', s.finish true = (after, log', .error (.invalid report (some out)))
  finished : after.builder.phase = .finished ∧ after.builder.canvas = none

theorem finishesAlike (hc : s.builder.canvas = some c)
    (hvalidate : validate (Builder.emit s.builder.source c.renumbered) = .ok report)
    (hperm : report.danglingDefects.Perm c.renumbering.danglingDefects) :
    FinishesAlike s { s with builder := s.builder.finished c } (s.builder.finishLog c)
      (Builder.emit s.builder.source c.renumbered) c.renumbering.dangling report where
  lenient := finish_false_eq hc
  validated := hvalidate
  succeeds := by
    constructor
    · rintro ⟨after', log', out', hstrict⟩
      by_contra hdefects
      obtain ⟨fault, hfault⟩ := finish_true_fails hc hvalidate hdefects
      rw [hstrict] at hfault
      injection hfault
    · intro hnone
      obtain ⟨log', hstrict⟩ := finish_true_of_valid hc hvalidate hperm hnone
      exact ⟨_, log', _, hstrict⟩
  valid := finish_true_of_valid hc hvalidate hperm
  dangles := by
    intro hdangling
    have hstrict := finish_true_of_dangling hc hdangling
    refine ⟨hstrict, ?_⟩
    rw [hstrict]
    exact finish_false_eq hc
  invalid := fun hclean => finish_true_of_invalid hc hclean hvalidate
  finished := ⟨rfl, rfl⟩

/-- In any state of a session that is not finished, with a source whose argument count
is an integer, the two ends agree. -/
theorem strict_finish_agrees (h : Reachable ir s) (hc : s.builder.canvas = some c) {count : Int}
    (hcount : ir.nargs.number? = some (.int count)) :
    ∃ renumbered outcome after log out report,
      c.renumber false = .ok (renumbered, outcome) ∧
        FinishesAlike s after log out outcome.dangling report := by
  obtain ⟨report, hvalidate, hperm, -⟩ := h.exists_report hc hcount .phiReachable
  exact ⟨c.renumbered, c.renumbering, _, _, _, report, rfl, finishesAlike hc hvalidate hperm⟩

/-- With the first statement of the counting loop deleted the strict end fails, and the
lenient end still finishes. -/
theorem strict_finish_agrees_countingLoop :
    ∃ s, Reachable Samples.countingLoop s ∧ ∃ records, records ≠ [] ∧
      s.finish true = (s, [], .error (.dangling records)) ∧
      ∃ after log out, (s.finish true).1.finish false = (after, log, .ok out) ∧
        after.builder.phase = .finished := by
  obtain ⟨s, c, hreachable, hc, hcodes⟩ := exists_dangling_sampleCalls
  obtain ⟨renumbered, outcome, after, log, out, report, hrenumber, halike⟩ :=
    @strict_finish_agrees _ _ _ hreachable hc 1 rfl
  have houtcome : c.renumbering = outcome := congrArg Prod.snd (Except.ok.inj hrenumber)
  have hdangling : outcome.dangling ≠ [] := by
    intro hnone
    rw [houtcome, Renumbering.danglingDefects, hnone] at hcodes
    injection hcodes
  obtain ⟨hstrict, hlenient⟩ := halike.dangles hdangling
  exact ⟨s, hreachable, outcome.dangling, hdangling, hstrict, after, log, out, hlenient,
    halike.finished.1⟩

end Session
end SsaEdit
