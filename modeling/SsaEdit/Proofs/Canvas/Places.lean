/-
Where a renumbering puts the statements of a canvas.

The new id of a statement is its place among the live ones, counted from 1, so an
id has a new one exactly when its statement is live, and the body that is emitted
has that statement there.
-/
import SsaEdit.Builder
import SsaEdit.Proofs.Canvas.Entries

namespace SsaEdit
namespace Canvas

/-- The ids of the live statements in program order. -/
def liveIds (c : Canvas) : List Nat := c.liveEntries.map Prod.fst

theorem mem_liveEntries {c : Canvas} {id : Nat} {slot : Slot} :
    (id, slot) ∈ c.liveEntries ↔ (id, slot) ∈ c.entries ∧ slot.deleted = false := by
  simp [liveEntries, List.mem_filter]

theorem liveIds_sublist (c : Canvas) : c.liveIds.Sublist (c.entries.map Prod.fst) :=
  List.filter_sublist.map Prod.fst

theorem newIds_eq (c : Canvas) : c.newIds = c.liveIds.zip (List.range' 1 c.liveIds.length) := by
  simp [newIds, liveIds]

/-! ## Lookups in a list numbered from 1 -/

theorem lookup_zip_range' {ids : List Nat} (hnd : ids.Nodup) (start id k : Nat) :
    (ids.zip (List.range' start ids.length)).lookup id = some k ↔
      ∃ i, k = start + i ∧ ids[i]? = some id := by
  induction ids generalizing start with
  | nil => simp
  | cons first rest ih =>
    obtain ⟨hfirst, hrest⟩ := List.nodup_cons.1 hnd
    rw [List.length_cons, List.range'_succ, List.zip_cons_cons, List.lookup_cons]
    by_cases h : id = first
    · subst h
      simp only [BEq.rfl, Option.some.injEq]
      constructor
      · rintro rfl
        exact ⟨0, by omega, rfl⟩
      · rintro ⟨i, rfl, hi⟩
        cases i with
        | zero => rfl
        | succ i =>
          rw [List.getElem?_cons_succ] at hi
          exact absurd (List.mem_of_getElem? hi) hfirst
    · have hbeq : (id == first) = false := by simpa using h
      rw [hbeq, ih hrest]
      constructor
      · rintro ⟨i, rfl, hi⟩
        exact ⟨i + 1, by omega, hi⟩
      · rintro ⟨i, rfl, hi⟩
        cases i with
        | zero =>
          injection hi with hi
          exact absurd hi.symm h
        | succ i => exact ⟨i, by omega, hi⟩

namespace Lawful

variable {c : Canvas}

theorem liveIds_nodup (h : c.Lawful) : c.liveIds.Nodup := c.liveIds_sublist.nodup h.keys_nodup

theorem mem_liveIds (h : c.Lawful) {id : Nat} : id ∈ c.liveIds ↔ c.contains ⟨id⟩ = true := by
  constructor
  · intro hid
    obtain ⟨⟨k, slot⟩, hmem, rfl⟩ := List.mem_map.1 hid
    obtain ⟨hentry, hlive⟩ := mem_liveEntries.1 hmem
    simp [contains, h.mem_entries.1 hentry, hlive]
  · intro hcontains
    cases hs : c.slots[id]? with
    | none => simp [contains, hs] at hcontains
    | some slot =>
      have hlive : slot.deleted = false := by simpa [contains, hs] using hcontains
      exact List.mem_map.2 ⟨(id, slot), mem_liveEntries.2 ⟨h.mem_entries.2 hs, hlive⟩, rfl⟩

theorem exists_liveEntry (h : c.Lawful) {id : Nat} (hlive : c.contains ⟨id⟩ = true) :
    ∃ slot, (id, slot) ∈ c.liveEntries := by
  obtain ⟨⟨k, slot⟩, hmem, rfl⟩ := List.mem_map.1 (h.mem_liveIds.2 hlive)
  exact ⟨slot, hmem⟩

theorem contains_of_mem_liveEntries (h : c.Lawful) {id : Nat} {slot : Slot}
    (hmem : (id, slot) ∈ c.liveEntries) : c.contains ⟨id⟩ = true :=
  h.mem_liveIds.1 (List.mem_map.2 ⟨_, hmem, rfl⟩)

theorem mem_order_of_contains (h : c.Lawful) {id : Nat} (hlive : c.contains ⟨id⟩ = true) :
    id ∈ c.order := h.keys ▸ c.liveIds_sublist.mem (h.mem_liveIds.2 hlive)

/-- Number 0 is nobody's id. -/
theorem pos_of_contains (h : c.Lawful) {id : Nat} (hlive : c.contains ⟨id⟩ = true) : 1 ≤ id :=
  h.pos id (h.mem_order_of_contains hlive)

/-- The new id of a statement is its place among the live ones. -/
theorem lookup_newIds (h : c.Lawful) {id k : Nat} :
    c.newIds.lookup id = some k ↔ ∃ i, k = i + 1 ∧ c.liveIds[i]? = some id := by
  rw [newIds_eq, lookup_zip_range' h.liveIds_nodup]
  simp only [Nat.add_comm 1]

theorem lookup_newIds_eq_none (h : c.Lawful) {id : Nat} :
    c.newIds.lookup id = none ↔ c.contains ⟨id⟩ = false := by
  rw [← Bool.not_eq_true, ← h.mem_liveIds, List.mem_iff_getElem?, Option.eq_none_iff_forall_ne_some]
  constructor
  · rintro hnone ⟨i, hi⟩
    exact hnone (i + 1) (h.lookup_newIds.2 ⟨i, rfl, hi⟩)
  · rintro hnot k hk
    obtain ⟨i, -, hi⟩ := h.lookup_newIds.1 hk
    exact hnot ⟨i, hi⟩

/-- A live statement has a new id. -/
theorem exists_newId (h : c.Lawful) {id : Nat} (hlive : c.contains ⟨id⟩ = true) :
    ∃ k, c.newIds.lookup id = some k := by
  cases hk : c.newIds.lookup id with
  | some k => exact ⟨k, rfl⟩
  | none =>
    rw [h.lookup_newIds_eq_none.1 hk] at hlive
    exact absurd hlive Bool.false_ne_true

theorem contains_of_newId (h : c.Lawful) {id k : Nat} (hk : c.newIds.lookup id = some k) :
    c.contains ⟨id⟩ = true := by
  rw [← Bool.not_eq_false, ← h.lookup_newIds_eq_none, hk]
  exact Option.some_ne_none k

theorem isSome_lookup_newIds (h : c.Lawful) (id : Nat) :
    (c.newIds.lookup id).isSome = c.contains ⟨id⟩ := by
  cases hk : c.newIds.lookup id with
  | none =>
    rw [h.lookup_newIds_eq_none.1 hk]
    rfl
  | some k =>
    rw [h.contains_of_newId hk]
    rfl

/-- A new id is never the number that names no statement. -/
theorem newId_pos (h : c.Lawful) {id k : Nat} (hk : c.newIds.lookup id = some k) : 1 ≤ k := by
  obtain ⟨i, rfl, -⟩ := h.lookup_newIds.1 hk
  exact Nat.le_add_left 1 i

theorem newId_le (h : c.Lawful) {id k : Nat} (hk : c.newIds.lookup id = some k) :
    k ≤ c.liveIds.length := by
  obtain ⟨i, rfl, hi⟩ := h.lookup_newIds.1 hk
  exact (List.getElem?_eq_some_iff.1 hi).1

/-- Two statements do not share a new id. -/
theorem newId_injective (h : c.Lawful) {id id' k : Nat} (hk : c.newIds.lookup id = some k)
    (hk' : c.newIds.lookup id' = some k) : id = id' := by
  obtain ⟨i, rfl, hi⟩ := h.lookup_newIds.1 hk
  obtain ⟨j, hj, hi'⟩ := h.lookup_newIds.1 hk'
  have hij : i = j := by omega
  subst hij
  exact Option.some.inj (hi.symm.trans hi')

end Lawful

/-! ## The canvas after a renumbering -/

theorem entriesOf_ofList {pairs : List (Nat × Slot)} (hnd : (pairs.map Prod.fst).Nodup) :
    entriesOf (Std.TreeMap.ofList pairs) (pairs.map Prod.fst) = pairs := by
  have hdistinct : pairs.Pairwise fun a b => ¬ compare a.1 b.1 = .eq := by
    rw [List.Nodup, List.pairwise_map] at hnd
    exact hnd.imp fun hne heq => hne (Std.LawfulEqCmp.eq_of_compare heq)
  rw [entriesOf, List.filterMap_map]
  conv => rhs; rw [← @List.filterMap_some _ pairs]
  apply List.filterMap_congr
  rintro ⟨id, slot⟩ hmem
  have hget : (Std.TreeMap.ofList pairs : Std.TreeMap Nat Slot)[id]? = some slot :=
    Std.TreeMap.getElem?_ofList_of_mem Std.ReflCmp.compare_self hdistinct hmem
  simp [hget]

theorem entries_renumbered (c : Canvas) :
    c.renumbered.entries = (List.range' 1 c.liveEntries.length).zip
      (c.liveEntries.map fun entry => entry.2.renumbered c.newIds) := by
  have hlength : (List.range' 1 c.liveEntries.length).length =
      (c.liveEntries.map fun entry => entry.2.renumbered c.newIds).length := by simp
  have hkeys := List.map_fst_zip (Nat.le_of_eq hlength)
  have hnodup : (((List.range' 1 c.liveEntries.length).zip
      (c.liveEntries.map fun entry => entry.2.renumbered c.newIds)).map Prod.fst).Nodup := by
    rw [hkeys]
    exact List.nodup_range'
  have hofList := entriesOf_ofList hnodup
  rw [hkeys] at hofList
  rw [← hofList]
  simp [renumbered, entries, entriesOf]

theorem liveEntries_renumbered (c : Canvas) : c.renumbered.liveEntries = c.renumbered.entries := by
  rw [liveEntries, List.filter_eq_self, entries_renumbered]
  rintro ⟨id, slot⟩ hmem
  obtain ⟨entry, hentry, rfl⟩ := List.mem_map.1 (List.of_mem_zip hmem).2
  obtain ⟨-, hlive⟩ := mem_liveEntries.1 hentry
  simp [Slot.renumbered, hlive]

theorem map_snd_liveEntries_renumbered (c : Canvas) :
    c.renumbered.liveEntries.map Prod.snd =
      c.liveEntries.map fun entry => entry.2.renumbered c.newIds := by
  rw [liveEntries_renumbered, entries_renumbered, List.map_snd_zip (by simp)]

theorem statements_renumbered (c : Canvas) :
    c.renumbered.statements =
      c.liveEntries.map fun entry => (entry.2.renumbered c.newIds).statement := by
  have hmap := congrArg (List.map Slot.statement) (map_snd_liveEntries_renumbered c)
  rw [List.map_map, List.map_map] at hmap
  exact hmap

theorem locations_renumbered (c : Canvas) :
    c.renumbered.locations = c.liveEntries.map fun entry => entry.2.location := by
  have hmap := congrArg (List.map Slot.location) (map_snd_liveEntries_renumbered c)
  rw [List.map_map, List.map_map] at hmap
  exact hmap

end Canvas
end SsaEdit
