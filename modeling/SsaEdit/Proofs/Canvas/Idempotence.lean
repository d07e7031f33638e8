/-
A second renumbering in a row changes nothing.

After a renumbering the live ids are `1..m`, so every statement is its own image, and a
reference has one of these numbers or 0.  Number 0 is nobody's id: it stays, and it is
noted again.  `Lawful.renumbered_renumbered` is the canvas, `Lawful.dangling_renumbered`
what is noted.
-/
import SsaEdit.Proofs.Canvas.Bookkeeping
import SsaEdit.Proofs.Node.Rewriting
import SsaEdit.Proofs.Session.Emitted

namespace SsaEdit

/-- A record under the new id of its statement, with the reference as it is written now. -/
def Dangling.settled (mapping : List (Nat × Nat)) (d : Dangling) : Dangling :=
  ⟨⟨Renumbering.target mapping d.user.id⟩, d.ref.withId danglingId⟩

namespace Canvas

/-! ## The ids of a renumbered canvas -/

theorem length_newIds (c : Canvas) : c.newIds.length = c.liveIds.length := by
  rw [newIds_eq, List.length_zip, List.length_range', Nat.min_self]

theorem map_fst_entries_renumbered (c : Canvas) :
    c.renumbered.entries.map Prod.fst = List.range' 1 c.newIds.length := by
  rw [entries_renumbered, List.map_fst_zip (by simp), length_newIds, liveIds, List.length_map]

theorem liveIds_renumbered (c : Canvas) :
    c.renumbered.liveIds = List.range' 1 c.liveIds.length := by
  rw [liveIds, liveEntries_renumbered, map_fst_entries_renumbered, length_newIds]

/-- The ids `1..m` are their own new ids, and there are no others. -/
theorem lookup_newIds_renumbered (c : Canvas) {id k : Nat} :
    c.renumbered.newIds.lookup id = some k ↔ k = id ∧ 1 ≤ id ∧ id ≤ c.liveIds.length := by
  rw [c.renumbered_lawful.lookup_newIds, liveIds_renumbered]
  simp only [List.getElem?_eq_some_iff, List.length_range', List.getElem_range']
  constructor
  · rintro ⟨i, rfl, hlt, hid⟩
    omega
  · rintro ⟨rfl, hpos, hle⟩
    exact ⟨k - 1, by omega, by omega, by omega⟩

theorem newIds_renumbered (c : Canvas) :
    c.renumbered.newIds = (List.range' 1 c.newIds.length).map fun k => (k, k) := by
  rw [newIds_eq, liveIds_renumbered, List.length_range', length_newIds]
  refine (List.zip_of_prod ?_ ?_).symm
  · exact (List.map_map ..).trans (List.map_id' _)
  · exact (List.map_map ..).trans (List.map_id' _)

/-- All slots of a renumbered canvas are live. -/
theorem dropped_renumbered (c : Canvas) : c.renumbered.renumbering.dropped = 0 := by
  have hlive : c.renumbered.entries.filter (fun entry => !entry.2.deleted) =
      c.renumbered.entries := c.liveEntries_renumbered
  rw [renumbering, List.length_eq_zero_iff, List.filter_eq_nil_iff]
  intro entry hentry
  rw [← hlive, List.mem_filter, Bool.not_eq_true'] at hentry
  rw [hentry.2]
  exact Bool.false_ne_true

namespace Lawful

variable {c : Canvas}

/-! ## Its references -/

/-- The new number of a reference has now what the number before had: itself, if it was
that of a live statement. -/
theorem lookup_target (h : c.Lawful) (id : Nat) :
    c.renumbered.newIds.lookup (Renumbering.target c.newIds id) = c.newIds.lookup id := by
  cases hk : c.newIds.lookup id with
  | none =>
    have htarget : Renumbering.target c.newIds id = danglingId := by
      rw [Renumbering.target, hk]
      rfl
    rw [htarget, Option.eq_none_iff_forall_ne_some]
    intro k hzero
    exact Nat.not_succ_le_zero 0 (c.lookup_newIds_renumbered.1 hzero).2.1
  | some k =>
    have htarget : Renumbering.target c.newIds id = k := by
      rw [Renumbering.target, hk]
      rfl
    rw [htarget]
    exact c.lookup_newIds_renumbered.2 ⟨rfl, h.newId_pos hk, h.newId_le hk⟩

theorem target_target (h : c.Lawful) (id : Nat) :
    Renumbering.target c.renumbered.newIds (Renumbering.target c.newIds id) =
      Renumbering.target c.newIds id := by
  rw [Renumbering.target, h.lookup_target]
  rfl

theorem renumbered_slot (h : c.Lawful) (slot : Slot) :
    (slot.renumbered c.newIds).renumbered c.renumbered.newIds = slot.renumbered c.newIds := by
  simp only [Slot.renumbered, Node.mapIds_mapIds, Reference.id_withId, h.target_target]

/-- The second renumbering of a canvas replaces the substitutions of the first, and nothing
else. -/
theorem renumbered_renumbered (h : c.Lawful) :
    c.renumbered.renumbered = { c.renumbered with substitutions := c.renumbered.newIds } := by
  have hkept : (c.renumbered.liveEntries.map fun entry =>
      entry.2.renumbered c.renumbered.newIds) =
        c.liveEntries.map fun entry => entry.2.renumbered c.newIds := by
    have hslots := congrArg (List.map (Slot.renumbered c.renumbered.newIds))
      c.map_snd_liveEntries_renumbered
    rw [List.map_map, List.map_map] at hslots
    refine hslots.trans (List.map_congr_left fun entry _ => h.renumbered_slot entry.2)
  conv_lhs => rw [renumbered]
  dsimp only
  rw [hkept]
  rfl

/-! ## What is noted -/

theorem liveEntries_renumbered_eq (h : c.Lawful) :
    c.renumbered.liveEntries = c.liveEntries.map fun entry =>
      (Renumbering.target c.newIds entry.1, entry.2.renumbered c.newIds) := by
  rw [liveEntries_renumbered, entries_renumbered, ← List.zip_map']
  have hids : (c.liveEntries.map fun entry => Renumbering.target c.newIds entry.1) =
      c.liveIds.map (Renumbering.target c.newIds) := by rw [liveIds, List.map_map]; rfl
  rw [hids, map_target_liveIds h, liveIds, List.length_map]

theorem danglingIn_renumbered (h : c.Lawful) (id : Nat) (n : Node) :
    Renumbering.danglingIn c.renumbered.newIds (Renumbering.target c.newIds id)
        (n.mapIds fun r => Renumbering.target c.newIds r.id) =
      (Renumbering.danglingIn c.newIds id n).map (Dangling.settled c.newIds) := by
  rw [Renumbering.danglingIn, Renumbering.danglingIn, Node.rewriteOrder_mapIds, List.filter_map,
    List.map_map, List.map_map]
  simp only [Function.comp_def, Reference.id_withId, h.lookup_target]
  apply List.map_congr_left
  intro r hr
  have hnone := (List.mem_filter.1 hr).2
  rw [Option.isNone_iff_eq_none] at hnone
  rw [Dangling.settled, Renumbering.target, Renumbering.target, hnone]
  rfl

theorem dangling_renumbered (h : c.Lawful) : c.renumbered.renumbering.dangling =
    c.renumbering.dangling.map (Dangling.settled c.newIds) := by
  simp only [renumbering, h.liveEntries_renumbered_eq, List.flatMap_map, List.map_flatMap]
  exact List.flatMap_congr fun entry _ => h.danglingIn_renumbered entry.1 _

/-- The statement of a record is live. -/
theorem exists_newId_of_mem_dangling (h : c.Lawful) {d : Dangling}
    (hd : d ∈ c.renumbering.dangling) : ∃ k, c.newIds.lookup d.user.id = some k := by
  obtain ⟨⟨id, slot⟩, hentry, hd⟩ := List.mem_flatMap.1 hd
  obtain ⟨r, -, rfl⟩ := List.mem_map.1 hd
  exact h.exists_newId (h.contains_of_mem_liveEntries hentry)

end Lawful

/-! ## Two in a row -/

/-- What a second renumbering does after a first one. -/
structure Settles (once : Canvas) (first : Renumbering) (twice : Canvas) (second : Renumbering) :
    Prop where
  /-- The ids after the first one are dense. -/
  ids : once.entries.map Prod.fst = List.range' 1 first.mapping.length
  /-- Every entry has the id, the statement and the location that it had. -/
  entries : twice.entries = once.entries
  /-- Nothing but the record of the substitutions is replaced. -/
  canvas : twice = { once with substitutions := second.mapping }
  mapping : second.mapping = (List.range' 1 first.mapping.length).map fun k => (k, k)
  dropped : second.dropped = 0
  /-- The records are those of the first one, one for one: the statement under its new id,
  and a reference of the same class to no statement. -/
  dangling : List.Forall₂ (fun d d' => first.mapping.lookup d.user.id = some d'.user.id ∧
    d'.ref = d.ref.withId danglingId) first.dangling second.dangling

theorem Lawful.settles {c : Canvas} (h : c.Lawful) :
    Settles c.renumbered c.renumbering c.renumbered.renumbered c.renumbered.renumbering where
  ids := c.map_fst_entries_renumbered
  entries := by
    rw [h.renumbered_renumbered]
    rfl
  canvas := h.renumbered_renumbered
  mapping := c.newIds_renumbered
  dropped := c.dropped_renumbered
  dangling := by
    rw [h.dangling_renumbered, List.forall₂_map_right_iff, List.forall₂_same]
    intro d hd
    obtain ⟨k, hk⟩ := h.exists_newId_of_mem_dangling hd
    refine ⟨?_, rfl⟩
    show c.newIds.lookup d.user.id = some (Renumbering.target c.newIds d.user.id)
    rw [Renumbering.target, hk]
    rfl

/-- From any canvas that edits can lead to, the second of two lenient renumberings in a row
finds everything where it belongs. -/
theorem renumber_idempotent (reserved : Nat) (edits : List Edit) :
    ∃ once first twice second, ((empty reserved).runAll edits).renumber false = .ok (once, first) ∧
      once.renumber false = .ok (twice, second) ∧ Settles once first twice second :=
  ⟨_, _, _, _, rfl, rfl, ((empty_lawful reserved).runAll_lawful edits).settles⟩

/-- What the second one notes when the first one noted the branch and its condition. -/
example : ((empty 1).runAll [.append (.node (.branch ⟨1⟩ (.variable ⟨9⟩))) none,
    .renumber false]).renumbering.dangling = [⟨⟨1⟩, .value ⟨0⟩⟩, ⟨⟨1⟩, .label ⟨0⟩⟩] := by
  decide +kernel

end Canvas
end SsaEdit
