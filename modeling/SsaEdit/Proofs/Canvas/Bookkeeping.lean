/-
The books of a canvas after any edits.

`run_lawful` says that every edit keeps the parts of a canvas fitting together, also
one that fails, that places a statement under a reserved id or that renumbers
everything, so by `runAll_lawful` they fit after any edits at all.
`Coherent` lists what the readers of a canvas rely on: the counter, the order and the
table tell the same number of statements, what is listed is what can be looked up,
and no search for an id that is there fails.
-/
import Mathlib.Data.Set.Card
import SsaEdit.Proofs.Canvas.Edits
import SsaEdit.Proofs.Canvas.Places
import SsaEdit.Proofs.Results

namespace SsaEdit
namespace Canvas

/-- The canvas after some edits, whether they failed or not. -/
def runAll (c : Canvas) (edits : List Edit) : Canvas := edits.foldl (fun c e => (c.run e).1) c

/-! ## Edits that are not ordinary -/

/-- The ids of a renumbered canvas are `1..m`, each with a slot. -/
theorem renumbered_lawful (c : Canvas) : c.renumbered.Lawful := by
  have hlive : c.renumbered.live = c.liveEntries.length := List.length_map _
  have horder : c.renumbered.order = List.range' 1 c.liveEntries.length :=
    congrArg (List.range' 1) (List.length_map _)
  have hnext : c.renumbered.nextId = c.liveEntries.length + 1 := congrArg (· + 1) hlive
  have hkeys : c.renumbered.entries.map Prod.fst = c.renumbered.order := by
    rw [entries_renumbered, horder, List.map_fst_zip (by simp)]
  refine ⟨horder ▸ List.nodup_range', ?_, ?_, ?_, hnext ▸ Nat.succ_pos _, ?_⟩
  · intro id
    constructor
    · intro hid
      rw [← hkeys] at hid
      obtain ⟨⟨id, slot⟩, hmem, rfl⟩ := List.mem_map.1 hid
      exact ⟨slot, (mem_entriesOf.1 hmem).2⟩
    · rintro ⟨slot, hslot⟩
      have hmem : id ∈ c.renumbered.slots := by
        rw [Std.TreeMap.mem_iff_isSome_getElem?, hslot]
        rfl
      rw [renumbered, Std.TreeMap.mem_ofList, List.contains_iff_mem,
        List.map_fst_zip (by simp)] at hmem
      exact hmem
  · intro id hid
    rw [horder, List.mem_range'_1] at hid
    exact hid.1
  · intro id hid
    rw [horder, List.mem_range'_1] at hid
    omega
  · rw [hlive, liveEntries_renumbered, entries_renumbered]
    simp

namespace Lawful

variable {c : Canvas}

/-- A placing that succeeds was under a reserved id that was free. -/
theorem of_place (h : c.Lawful) {v : Variable} {value location : Value} {after : Canvas}
    (hplace : c.place v value location = .ok after) :
    1 ≤ v.id ∧ v.id ≤ c.reserved ∧ v.id ∉ c.order ∧ ∃ s, value.asStatement = .ok s := by
  rw [place_eq] at hplace
  by_cases hrange : 1 ≤ v.id ∧ v.id ≤ c.reserved
  case neg =>
    rw [if_neg hrange] at hplace
    cases hplace
  rw [if_pos hrange] at hplace
  by_cases htaken : c.slots.contains v.id = true
  case pos =>
    rw [if_pos htaken] at hplace
    cases hplace
  rw [if_neg htaken] at hplace
  obtain ⟨s, hs, -⟩ := map_eq_ok.1 hplace
  refine ⟨hrange.1, hrange.2, ?_, s, hs⟩
  rw [h.mem_order, ← Option.isSome_iff_exists, ← Std.TreeMap.contains_eq_isSome_getElem?]
  exact htaken

theorem place_lawful (h : c.Lawful) {v : Variable} {value location : Value} {after : Canvas}
    (hplace : c.place v value location = .ok after) : after.Lawful := by
  obtain ⟨hpos, hle, hfree, s, hs⟩ := h.of_place hplace
  obtain ⟨placed, hok, hlawful, -⟩ := h.place_ok hpos hle hfree hs location
  exact Except.ok.inj (hok.symm.trans hplace) ▸ hlawful

/-- Whatever an edit does, and whether it fails or not, the books are in order after
it. -/
theorem run_lawful (h : c.Lawful) (e : Edit) : (c.run e).1.Lawful := by
  cases e with
  | place target value location =>
    rcases target.asAddress_cases with ⟨v, rfl⟩ | hbad
    · show (c.settle (.id v) (c.place v value location)).1.Lawful
      cases hplace : c.place v value location with
      | ok after => exact h.place_lawful hplace
      | error fault => exact h
    · simp only [run, hbad]
      exact h
  | renumber strict =>
    rw [run, renumber]
    split
    · rename_i hok
      split at hok
      · injection hok
      · injection hok with hok
        injection hok with hok
        exact hok ▸ c.renumbered_lawful
    · exact h
  | append _ _ | pushFirst _ _ | insertBefore _ _ _ | set _ _ | delete _ | setLocation _ _ =>
    exact (h.run_step rfl).lawful

theorem runAll_lawful (h : c.Lawful) (edits : List Edit) : (c.runAll edits).Lawful := by
  induction edits generalizing c with
  | nil => exact h
  | cons e rest ih => exact ih (h.run_lawful e)

end Lawful

/-! ## What the books tell -/

/-- The parts of a canvas tell the same, and nothing that is searched for by an id of
the canvas is missed. -/
structure Coherent (c : Canvas) : Prop where
  order_nodup : c.order.Nodup
  mem_order : ∀ id, id ∈ c.order ↔ id ∈ c.slots
  within : ∀ id ∈ c.slots, 1 ≤ id ∧ id < c.nextId
  reserved_lt : c.reserved < c.nextId
  live_slots : c.live = (c.slots.toList.filter fun entry => !entry.2.deleted).length
  live_entries : c.liveEntries.length = c.live
  statements : c.statements.length = c.live
  locations : c.locations.length = c.live
  members : {v | c.contains v = true}.encard = c.live
  /-- What stands at a place of the lists is what the id of that place is looked up as. -/
  aligned : ∀ (i id : Nat) (slot : Slot), c.liveEntries[i]? = some (id, slot) →
    c.statements[i]? = some slot.statement ∧ c.get ⟨id⟩ = .ok slot.statement ∧
      c.locations[i]? = some slot.location ∧ c.location ⟨id⟩ = .ok slot.location
  /-- No id in program order is without a slot. -/
  found : ∀ id ∈ c.order, ∃ slot, c.find ⟨id⟩ = .ok slot
  /-- An insertion finds the place of its anchor. -/
  anchored : ∀ (v : Variable) (slot : Slot), c.find v = .ok slot →
    ∃ pre post, c.order = pre ++ v.id :: post ∧
      ∀ id, insertInOrder id v.id c.order = pre ++ id :: v.id :: post

theorem find_eq_ok {c : Canvas} {v : Variable} {slot : Slot} (h : c.find v = .ok slot) :
    c.slots[v.id]? = some slot := by
  unfold find at h
  split at h
  · rename_i hslot
    injection h with h
    exact h ▸ hslot
  · injection h

theorem mem_slots_iff {c : Canvas} {id : Nat} :
    id ∈ c.slots ↔ ∃ slot, c.slots[id]? = some slot := by
  rw [Std.TreeMap.mem_iff_isSome_getElem?, Option.isSome_iff_exists]

namespace Lawful

variable {c : Canvas}

theorem mem_order_iff (h : c.Lawful) (id : Nat) : id ∈ c.order ↔ id ∈ c.slots := by
  rw [h.mem_order, mem_slots_iff]

/-- The table holds the entries, in the order of their ids. -/
theorem entries_perm_toList (h : c.Lawful) : c.entries.Perm c.slots.toList := by
  have hentries : c.entries.Nodup := List.Nodup.of_map Prod.fst h.keys_nodup
  have htable : c.slots.toList.Nodup := by
    refine List.Nodup.of_map Prod.fst ?_
    rw [Std.TreeMap.map_fst_toList_eq_keys]
    exact Std.TreeMap.nodup_keys
  rw [List.perm_ext_iff_of_nodup hentries htable]
  rintro ⟨id, slot⟩
  rw [h.mem_entries, Std.TreeMap.mem_toList_iff_getElem?_eq_some]

theorem live_eq_slots (h : c.Lawful) :
    c.live = (c.slots.toList.filter fun entry => !entry.2.deleted).length := by
  rw [h.live_eq]
  exact (h.entries_perm_toList.filter _).length_eq

/-- As many variables have a live statement as the counter says. -/
theorem encard_contains (h : c.Lawful) : {v | c.contains v = true}.encard = c.live := by
  have hnodup : (c.liveIds.map Variable.mk).Nodup :=
    h.liveIds_nodup.map fun _ _ hsame => congrArg Variable.id hsame
  have hset : {v | c.contains v = true} = ↑(c.liveIds.map Variable.mk).toFinset := by
    ext v
    show c.contains ⟨v.id⟩ = true ↔ v ∈ (c.liveIds.map Variable.mk).toFinset
    rw [List.mem_toFinset, List.mem_map, ← h.mem_liveIds]
    constructor
    · exact fun hid => ⟨v.id, hid, rfl⟩
    · rintro ⟨id, hid, rfl⟩
      exact hid
  rw [hset, Set.encard_coe_eq_coe_finsetCard, List.toFinset_card_of_nodup hnodup,
    List.length_map, h.live_eq, liveIds, List.length_map]

theorem coherent (h : c.Lawful) : c.Coherent where
  order_nodup := h.nodup
  mem_order := h.mem_order_iff
  within := by
    intro id hid
    rw [← h.mem_order_iff] at hid
    exact ⟨h.pos id hid, h.lt_nextId id hid⟩
  reserved_lt := h.reserved_lt
  live_slots := h.live_eq_slots
  live_entries := h.live_eq.symm
  statements := (List.length_map _).trans h.live_eq.symm
  locations := (List.length_map _).trans h.live_eq.symm
  members := h.encard_contains
  aligned := by
    intro i id slot hi
    obtain ⟨hentry, hlive⟩ := mem_liveEntries.1 (List.mem_of_getElem? hi)
    have hfind := findLive_ok (v := ⟨id⟩) (h.mem_entries.1 hentry) hlive
    refine ⟨?_, by rw [get, hfind]; rfl, ?_, by rw [location, hfind]; rfl⟩
    · rw [Canvas.statements, List.getElem?_map, hi]
      rfl
    · rw [Canvas.locations, List.getElem?_map, hi]
      rfl
  found := by
    intro id hid
    obtain ⟨slot, hslot⟩ := (h.mem_order id).1 hid
    exact ⟨slot, find_ok hslot⟩
  anchored := fun v slot hfind => h.exists_split_order (find_eq_ok hfind)

end Lawful

/-- After any edits of a new canvas, in any order and whether they failed or not, its
parts tell the same. -/
theorem runAll_coherent (reserved : Nat) (edits : List Edit) :
    ((empty reserved).runAll edits).Coherent :=
  ((empty_lawful reserved).runAll_lawful edits).coherent

end Canvas
end SsaEdit
