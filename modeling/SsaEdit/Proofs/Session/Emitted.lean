/-
The body that a renumbered canvas stands for.

Its statements are the live ones of the canvas, in order and under their new ids.  A
rewritten reference is in range exactly when it is to a live statement, and then it is
to the place of that one.
-/
import SsaEdit.Builder
import SsaEdit.Proofs.Canvas.Places
import SsaEdit.Proofs.Flow.Blocks

namespace SsaEdit
namespace Canvas

variable {c : Canvas}

theorem getElem?_liveEntries (h : c.Lawful) {id k : Nat} {slot : Slot}
    (hmem : (id, slot) ∈ c.liveEntries) (hk : c.newIds.lookup id = some k) :
    c.liveEntries[k - 1]? = some (id, slot) := by
  obtain ⟨i, rfl, hi⟩ := h.lookup_newIds.1 hk
  rw [Nat.add_sub_cancel]
  rw [liveIds, List.getElem?_map] at hi
  obtain ⟨⟨id', slot'⟩, hentry, hid⟩ := Option.map_eq_some_iff.1 hi
  subst hid
  have hslot := h.mem_entries.1 (mem_liveEntries.1 hmem).1
  have hslot' := h.mem_entries.1 (mem_liveEntries.1 (List.mem_of_getElem? hentry)).1
  rw [hentry, Option.some.inj (hslot.symm.trans hslot')]

/-- A live statement stands in the emitted body at its new id. -/
theorem statement?_emit (h : c.Lawful) {id k : Nat} {slot : Slot}
    (hmem : (id, slot) ∈ c.liveEntries) (hk : c.newIds.lookup id = some k) (source : IR) :
    (Builder.emit source c.renumbered).statement? k =
      some (slot.renumbered c.newIds).statement := by
  have hpos := h.newId_pos hk
  rw [IR.statement?, if_neg (Nat.ne_of_gt hpos)]
  show c.renumbered.statements[k - 1]? = _
  rw [statements_renumbered, List.getElem?_map, getElem?_liveEntries h hmem hk]
  rfl

theorem size_emit (source : IR) (c : Canvas) :
    (Builder.emit source c.renumbered).size = c.liveIds.length := by
  show c.renumbered.statements.length = _
  rw [statements_renumbered, liveIds, List.length_map, List.length_map]

theorem inRange_emit (h : c.Lawful) (source : IR) {id k : Nat} (hk : c.newIds.lookup id = some k) :
    (Builder.emit source c.renumbered).inRange k = true := by
  have hpos := h.newId_pos hk
  have hle := h.newId_le hk
  rw [← size_emit source c] at hle
  exact IR.inRange_iff.2 ⟨hpos, hle⟩

/-- The node that is emitted for a live id. -/
theorem node?_emit (h : c.Lawful) (source : IR) {i id : Nat} {n : Node}
    (hid : c.liveIds[i]? = some id)
    (hn : (Builder.emit source c.renumbered).node? (i + 1) = some n) :
    ∃ slot, (id, slot) ∈ c.liveEntries ∧
      n = slot.statement.node.mapIds fun r => Renumbering.target c.newIds r.id := by
  obtain ⟨⟨id', slot⟩, hmem, hsame⟩ := List.mem_map.1 (List.mem_of_getElem? hid)
  have hsame : id' = id := hsame
  subst hsame
  have hemitted := statement?_emit h hmem (h.lookup_newIds.2 ⟨i, rfl, hid⟩) source
  rw [IR.node?, hemitted] at hn
  exact ⟨slot, hmem, (Option.some.inj hn).symm⟩

/-- A number of the result that an id was led to is the place of that id. -/
theorem getElem?_target (h : c.Lawful) (source : IR) {id : Nat}
    (hrange : (Builder.emit source c.renumbered).inRange (Renumbering.target c.newIds id) = true) :
    c.liveIds[Renumbering.target c.newIds id - 1]? = some id := by
  cases hk : c.newIds.lookup id with
  | none =>
    rw [Renumbering.target, hk] at hrange
    exact absurd hrange Bool.false_ne_true
  | some k =>
    obtain ⟨i, rfl, hi⟩ := h.lookup_newIds.1 hk
    rw [Renumbering.target, hk]
    exact hi

/-- An id that was led to no statement is not live. -/
theorem not_mem_of_target (h : c.Lawful) (source : IR) {id : Nat}
    (hrange : (Builder.emit source c.renumbered).inRange (Renumbering.target c.newIds id) = false) :
    id ∉ c.liveIds := by
  intro hlive
  obtain ⟨k, hk⟩ := h.exists_newId (h.mem_liveIds.1 hlive)
  rw [Renumbering.target, hk] at hrange
  exact absurd (hrange.symm.trans (inRange_emit h source hk)) Bool.false_ne_true

/-- The new ids are the numbers of the emitted statements, in order. -/
theorem map_target_liveIds (h : c.Lawful) :
    c.liveIds.map (Renumbering.target c.newIds) = List.range' 1 c.liveIds.length := by
  apply List.ext_getElem?
  intro i
  rw [List.getElem?_map]
  cases hi : c.liveIds[i]? with
  | none =>
    rw [List.getElem?_eq_none_iff] at hi
    rw [List.getElem?_eq_none (by rw [List.length_range']; exact hi)]
    rfl
  | some id =>
    have hlt := (List.getElem?_eq_some_iff.1 hi).1
    have htarget : Renumbering.target c.newIds id = i + 1 := by
      rw [Renumbering.target, h.lookup_newIds.2 ⟨i, rfl, hi⟩]
      rfl
    rw [List.getElem?_range' hlt, Option.map_some, htarget, Nat.one_mul, Nat.add_comm]

theorem inRange_target (h : c.Lawful) (source : IR) (id : Nat) :
    (Builder.emit source c.renumbered).inRange (Renumbering.target c.newIds id) =
      (c.newIds.lookup id).isSome := by
  cases hk : c.newIds.lookup id with
  | none =>
    rw [Renumbering.target, hk]
    rfl
  | some k =>
    rw [Renumbering.target, hk]
    exact inRange_emit h source hk

/-- The emitted statements with their numbers. -/
theorem numbered_emit (h : c.Lawful) (source : IR) :
    (Builder.emit source c.renumbered).numbered = c.liveEntries.map fun entry =>
      (Renumbering.target c.newIds entry.1,
        entry.2.statement.node.mapIds fun r => Renumbering.target c.newIds r.id) := by
  have hcode : (Builder.emit source c.renumbered).code = c.liveEntries.map fun entry =>
      entry.2.statement.node.mapIds fun r => Renumbering.target c.newIds r.id := by
    show c.renumbered.statements.map Statement.node = _
    rw [statements_renumbered, List.map_map]
    rfl
  rw [IR.numbered, size_emit, hcode, ← map_target_liveIds h, liveIds, List.map_map, List.zip_map']
  rfl

end Canvas
end SsaEdit
