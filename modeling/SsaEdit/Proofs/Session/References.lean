/-
References survive an editing session.

A reference is rewritten twice: when its statement is copied, and when the canvas
is renumbered.  The theorem of this module says what the two make of it together.
A reference of a source statement that was kept leads to where its target is in
the result, when the target is a source statement that was kept as well, and to
no statement otherwise.  Ids that the canvas hands out in between are all above
those of the source, so none of them is ever met by accident.
-/
import SsaEdit.Proofs.Session.Finish
import SsaEdit.Samples

namespace SsaEdit
namespace Session

namespace Copying

variable {ir : IR} {overwritten : List Variable} {b : Builder} {c : Canvas}

/-- The number that names no statement is left alone. -/
theorem target_danglingId (h : Copying ir overwritten b c) :
    Renumbering.target c.newIds danglingId = danglingId := by
  have hnone : c.newIds.lookup danglingId = none := by
    rw [h.lawful.lookup_newIds_eq_none, ← Bool.not_eq_true]
    exact fun hlive => Nat.not_succ_le_zero 0 (h.lawful.pos_of_contains hlive)
  rw [Renumbering.target, hnone]
  rfl

/-- The two rewritings of a reference in a row. -/
theorem target_copiedId (h : Copying ir overwritten b c) (r : Reference) :
    Renumbering.target c.newIds (ir.copiedId r) = (b.finished c).finalId r.id := by
  rw [h.finalId_finished, IR.copiedId]
  by_cases hrange : ir.inRange r.id = true
  · rw [if_pos hrange]
    cases hkeeps : b.keeps r.id with
    | true => rfl
    | false =>
      have hdead : c.contains ⟨r.id⟩ = false := by
        rw [← Bool.not_eq_true] at hkeeps ⊢
        exact fun hlive => hkeeps (h.keeps_iff.2 ⟨(IR.inRange_iff.1 hrange).2, hlive⟩)
      rw [Renumbering.target, h.lawful.lookup_newIds_eq_none.2 hdead]
      rfl
  · have hkeeps : b.keeps r.id = false := by
      rw [← Bool.not_eq_true]
      intro hkeeps
      obtain ⟨hle, hlive⟩ := h.keeps_iff.1 hkeeps
      exact hrange (IR.inRange_iff.2 ⟨h.lawful.pos_of_contains hlive, hle⟩)
    rw [if_neg hrange, hkeeps, h.target_danglingId]
    rfl

/-- A live source statement that was not overwritten still is a copy. -/
theorem exists_copy (h : Copying ir overwritten b c) {id : Nat} {slot : Slot}
    (hmem : (id, slot) ∈ c.liveEntries) (hle : id ≤ ir.size) (hnot : ⟨id⟩ ∉ overwritten) :
    ∃ n, ir.node? id = some n ∧ n.Carries ir.copiedId slot.statement.node := by
  obtain ⟨s, hs, hcarries, -⟩ := h.copies id slot (Canvas.mem_liveEntries.1 hmem).1 hle hnot
  exact ⟨s.node, by rw [IR.node?, hs]; rfl, hcarries⟩

/-- Renumbered, it has its references led to where their targets are. -/
theorem exists_renumbered_copy (h : Copying ir overwritten b c) {id : Nat} {slot : Slot}
    (hmem : (id, slot) ∈ c.liveEntries) (hle : id ≤ ir.size) (hnot : ⟨id⟩ ∉ overwritten) :
    ∃ n, ir.node? id = some n ∧ n.Carries (fun r => (b.finished c).finalId r.id)
      (slot.renumbered c.newIds).statement.node := by
  obtain ⟨n, hn, hcarries⟩ := h.exists_copy hmem hle hnot
  refine ⟨n, hn, ?_⟩
  apply (hcarries.mapIds fun r => Renumbering.target c.newIds r.id).congr
  intro r
  rw [Reference.id_withId, h.target_copiedId]

/-- A kept source statement is emitted as the copy that it was, every reference of
it led to where its target is. -/
theorem carries_emit (h : Copying ir overwritten b c) {id : Nat} (hkeeps : b.keeps id = true)
    (hnot : ⟨id⟩ ∉ overwritten) :
    ∃ k source emitted, (b.finished c).renumbering.lookup ⟨id⟩ = some ⟨k⟩ ∧
      ir.node? id = some source ∧ (Builder.emit ir c.renumbered).node? k = some emitted ∧
      source.Carries (fun r => (b.finished c).finalId r.id) emitted := by
  obtain ⟨hle, hlive⟩ := h.keeps_iff.1 hkeeps
  obtain ⟨slot, hmem⟩ := h.lawful.exists_liveEntry hlive
  obtain ⟨source, hsource, hcarries⟩ := h.exists_renumbered_copy hmem hle hnot
  obtain ⟨k, hk⟩ := h.lawful.exists_newId hlive
  have hplace : (b.finished c).renumbering.lookup ⟨id⟩ = some ⟨k⟩ := by
    show (Builder.finalPlaces b.remap c.newIds).lookup _ = _
    rw [h.lookup_finalPlaces, if_pos hkeeps, hk]
    rfl
  have hemitted : (Builder.emit ir c.renumbered).node? k =
      some (slot.renumbered c.newIds).statement.node := by
    rw [IR.node?, Canvas.statement?_emit h.lawful hmem hk]
    rfl
  exact ⟨k, source, _, hplace, hsource, hemitted, hcarries⟩

/-- A place in the result is known for the kept source statements and no others. -/
theorem isSome_lookup_renumbering (h : Copying ir overwritten b c) (id : Nat) :
    ((b.finished c).renumbering.lookup ⟨id⟩).isSome = b.keeps id := by
  show (List.lookup _ (Builder.finalPlaces _ c.newIds)).isSome = _
  rw [h.lookup_finalPlaces]
  cases hkeeps : b.keeps id with
  | false => rfl
  | true =>
    obtain ⟨k, hk⟩ := h.lawful.exists_newId (h.keeps_iff.1 hkeeps).2
    rw [if_pos rfl, hk]
    rfl

/-- No number of the source is led to the place of an inserted statement. -/
theorem finalId_ne_inserted (h : Copying ir overwritten b c) {inserted k : Nat}
    (hbeyond : ir.size < inserted) (hk : c.newIds.lookup inserted = some k) (id : Nat) :
    (b.finished c).finalId id ≠ k := by
  cases hkeeps : b.keeps id with
  | false =>
    rw [h.finalId_finished, hkeeps]
    exact Nat.ne_of_lt (h.lawful.newId_pos hk)
  | true =>
    obtain ⟨hle, l, hl, hfinal⟩ := h.exists_finalId hkeeps
    rw [hfinal]
    rintro rfl
    have hsame := h.lawful.newId_injective hk hl
    omega

end Copying

/-- Any ordinary calls in any order, then the lenient end: a source statement that
was copied, never overwritten and is live at the end is emitted with its
references in the same fields and of the same class, each led to the place of its
target, or to no statement if the target was not kept.  A place in the result is
known for the kept source statements and no others, and no reference of the source
is led to the place of an inserted statement. -/
theorem references_survive {ir : IR} (hlines : ir.lineTable ≠ []) :
    ∃ start, ofIR ir = .ok start ∧ ∀ calls : List Call,
      (∀ call ∈ calls, call.isOrdinary = true) →
      ∃ c after log out, (start.run calls).builder.canvas = some c ∧
        (start.run calls).finish false = (after, log, .ok out) ∧
        (∀ id, (after.builder.renumbering.lookup ⟨id⟩).isSome =
          (start.run calls).builder.keeps id) ∧
        (∀ id, (start.run calls).builder.keeps id = true → ⟨id⟩ ∉ start.overwritten calls →
          ∃ k source emitted, after.builder.renumbering.lookup ⟨id⟩ = some ⟨k⟩ ∧
            ir.node? id = some source ∧ out.node? k = some emitted ∧
            source.Carries (fun r => after.builder.finalId r.id) emitted) ∧
        ∀ inserted k, ir.size < inserted → c.newIds.lookup inserted = some k →
          ∀ r : Reference, after.builder.finalId r.id ≠ k := by
  obtain ⟨start, hstart, -⟩ := exists_ofIR hlines
  refine ⟨start, hstart, fun calls ho => ?_⟩
  obtain ⟨c, hc⟩ := run_copying (copying_of_ofIR hstart) ho
  rw [List.nil_append] at hc
  obtain ⟨log, hfinish⟩ := Builder.finish_lenient hc.canvas
  rw [hc.source] at hfinish
  refine ⟨c, _, log, _, hc.canvas, by rw [finish, hfinish], ?_, ?_, ?_⟩
  · exact hc.isSome_lookup_renumbering
  · intro id hkeeps hnot
    exact hc.carries_emit hkeeps hnot
  · intro inserted k hbeyond hk r
    exact hc.finalId_ne_inserted hbeyond hk r.id

theorem ofIR_countingLoop : ofIR Samples.countingLoop =
    .ok ⟨⟨Samples.countingLoop, some (.empty 7), [], 0, .idle, [], false⟩, []⟩ := rfl

/-- Three steps with a statement put at the end in between; the first of the copies
is deleted. -/
def sampleCalls : List Call :=
  [.iter, .next .empty 0, .edit (.append (.node (.const .null)) none), .next .empty 0,
    .next .empty 0, .edit (.delete (.variable ⟨1⟩))]

/-- The comparison of the counting loop mentions the phi, which is kept, and the
argument, which is not. -/
theorem references_survive_countingLoop :
    ∃ start, ofIR Samples.countingLoop = .ok start ∧
      ∃ after log out, (start.run sampleCalls).finish false = (after, log, .ok out) ∧
        ∃ k source emitted, after.builder.renumbering.lookup ⟨3⟩ = some ⟨k⟩ ∧
          Samples.countingLoop.node? 3 = some source ∧ out.node? k = some emitted ∧
          source.Carries (fun r => after.builder.finalId r.id) emitted := by
  have hlines : Samples.countingLoop.lineTable ≠ [] := List.cons_ne_nil _ _
  obtain ⟨start, hstart, hrun⟩ := references_survive hlines
  have hsame := Except.ok.inj (hstart.symm.trans ofIR_countingLoop)
  have ho : ∀ call ∈ sampleCalls, call.isOrdinary = true := by decide
  obtain ⟨c, after, log, out, -, hfinish, -, hkept, -⟩ := hrun sampleCalls ho
  refine ⟨start, hstart, after, log, out, hfinish, hkept 3 ?_ ?_⟩
  · subst hsame
    rfl
  · subst hsame
    decide

end Session
end SsaEdit
