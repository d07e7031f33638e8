/-
The canvas as a list of entries.

`Canvas.Lawful` says that the slot table, the program order and the counters of a
canvas fit together.  Under it `Canvas.entries` holds every slot once, and an
operation does one of two things to that list: it puts one new entry somewhere,
or it puts another slot in the place of one.  `Lawful.insertion` and
`Lawful.update` are these two moves.
-/
import Mathlib.Data.List.Nodup
import SsaEdit.Canvas.Renumbering

namespace SsaEdit
namespace Canvas

/-! ## Entries of a table and an order -/

/-- The entries that a slot table and a program order stand for. -/
def entriesOf (slots : Std.TreeMap Nat Slot) (order : List Nat) : List (Nat × Slot) :=
  order.filterMap fun id => (slots[id]?).map fun slot => (id, slot)

theorem getElem?_insert_slot (slots : Std.TreeMap Nat Slot) (id k : Nat) (slot : Slot) :
    (slots.insert id slot)[k]? = if id = k then some slot else slots[k]? := by
  rw [Std.TreeMap.getElem?_insert]
  by_cases h : id = k <;> simp [h]

theorem entriesOf_append (slots : Std.TreeMap Nat Slot) (a b : List Nat) :
    entriesOf slots (a ++ b) = entriesOf slots a ++ entriesOf slots b :=
  List.filterMap_append

theorem entriesOf_cons {slots : Std.TreeMap Nat Slot} {id : Nat} {slot : Slot}
    (h : slots[id]? = some slot) (rest : List Nat) :
    entriesOf slots (id :: rest) = (id, slot) :: entriesOf slots rest := by
  simp [entriesOf, h]

theorem mem_entriesOf {slots : Std.TreeMap Nat Slot} {order : List Nat} {id : Nat} {slot : Slot} :
    (id, slot) ∈ entriesOf slots order ↔ id ∈ order ∧ slots[id]? = some slot := by
  rw [entriesOf, List.mem_filterMap]
  constructor
  · rintro ⟨k, hk, he⟩
    obtain ⟨s, hs, heq⟩ := Option.map_eq_some_iff.1 he
    injection heq with hid hslot
    subst hid hslot
    exact ⟨hk, hs⟩
  · rintro ⟨hid, hs⟩
    exact ⟨id, hid, by rw [hs]; rfl⟩

theorem map_fst_entriesOf {slots : Std.TreeMap Nat Slot} {order : List Nat}
    (h : ∀ id ∈ order, ∃ slot, slots[id]? = some slot) :
    (entriesOf slots order).map Prod.fst = order := by
  induction order with
  | nil => rfl
  | cons id rest ih =>
    obtain ⟨slot, hs⟩ := h id List.mem_cons_self
    rw [entriesOf_cons hs, List.map_cons, ih fun k hk => h k (List.mem_cons_of_mem id hk)]

theorem entriesOf_insert_of_not_mem {slots : Std.TreeMap Nat Slot} {order : List Nat} {id : Nat}
    (h : id ∉ order) (slot : Slot) :
    entriesOf (slots.insert id slot) order = entriesOf slots order := by
  apply List.filterMap_congr
  intro k hk
  have hne : id ≠ k := fun e => h (e ▸ hk)
  simp [getElem?_insert_slot, hne]

theorem entriesOf_insert_between {slots : Std.TreeMap Nat Slot} {pre post : List Nat} {id : Nat}
    (hpre : id ∉ pre) (hpost : id ∉ post) (slot : Slot) :
    entriesOf (slots.insert id slot) (pre ++ id :: post) =
      entriesOf slots pre ++ (id, slot) :: entriesOf slots post := by
  have hget : (slots.insert id slot)[id]? = some slot := by simp
  rw [entriesOf_append, entriesOf_cons hget, entriesOf_insert_of_not_mem hpre,
    entriesOf_insert_of_not_mem hpost]

/-- Put another slot in the place of the one under an id. -/
def replaceSlot (id : Nat) (new : Slot) (entries : List (Nat × Slot)) : List (Nat × Slot) :=
  entries.map fun entry => if entry.1 = id then (id, new) else entry

theorem replaceSlot_of_not_mem {id : Nat} {entries : List (Nat × Slot)}
    (h : id ∉ entries.map Prod.fst) (new : Slot) : replaceSlot id new entries = entries := by
  have hsame : ∀ entry ∈ entries, (if entry.1 = id then (id, new) else entry) = entry := by
    intro entry hentry
    have hne : entry.1 ≠ id := fun e => h (List.mem_map.2 ⟨entry, hentry, e⟩)
    rw [if_neg hne]
  rw [replaceSlot, List.map_congr_left hsame, List.map_id']

theorem replaceSlot_append (id : Nat) (new : Slot) (a b : List (Nat × Slot)) :
    replaceSlot id new (a ++ b) = replaceSlot id new a ++ replaceSlot id new b :=
  List.map_append

theorem map_fst_replaceSlot (id : Nat) (new : Slot) (entries : List (Nat × Slot)) :
    (replaceSlot id new entries).map Prod.fst = entries.map Prod.fst := by
  rw [replaceSlot, List.map_map]
  apply List.map_congr_left
  intro entry _
  by_cases h : entry.1 = id <;> simp [h]

theorem mem_replaceSlot {id k : Nat} {new slot : Slot} {entries : List (Nat × Slot)}
    (h : (k, slot) ∈ replaceSlot id new entries) :
    (k = id ∧ slot = new) ∨ (k ≠ id ∧ (k, slot) ∈ entries) := by
  obtain ⟨entry, hentry, heq⟩ := List.mem_map.1 h
  by_cases hid : entry.1 = id
  · rw [if_pos hid] at heq
    injection heq with hk hslot
    exact Or.inl ⟨hk.symm, hslot.symm⟩
  · rw [if_neg hid] at heq
    subst heq
    exact Or.inr ⟨hid, hentry⟩

theorem entriesOf_insert {slots : Std.TreeMap Nat Slot} {order : List Nat} {id : Nat}
    (h : ∀ k ∈ order, ∃ slot, slots[k]? = some slot) (new : Slot) :
    entriesOf (slots.insert id new) order = replaceSlot id new (entriesOf slots order) := by
  induction order with
  | nil => rfl
  | cons k rest ih =>
    obtain ⟨slot, hs⟩ := h k List.mem_cons_self
    have hrest := ih fun j hj => h j (List.mem_cons_of_mem k hj)
    by_cases hk : id = k
    · subst hk
      have hnew : (slots.insert id new)[id]? = some new := by simp
      rw [entriesOf_cons hs, entriesOf_cons hnew, hrest]
      simp [replaceSlot]
    · have hnew : (slots.insert id new)[k]? = some slot := by
        rw [getElem?_insert_slot, if_neg hk, hs]
      rw [entriesOf_cons hs, entriesOf_cons hnew, hrest]
      simp [replaceSlot, Ne.symm hk]

/-! ## The parts fit together -/

/-- The program order lists the ids of the slot table once each, ids are positive
and were handed out or reserved, and the live slots are counted. -/
structure Lawful (c : Canvas) : Prop where
  nodup : c.order.Nodup
  mem_order : ∀ id, id ∈ c.order ↔ ∃ slot, c.slots[id]? = some slot
  pos : ∀ id ∈ c.order, 1 ≤ id
  lt_nextId : ∀ id ∈ c.order, id < c.nextId
  reserved_lt : c.reserved < c.nextId
  live_eq : c.live = c.liveEntries.length

/-- How much an entry counts towards the live ones. -/
def liveCount (entries : List (Nat × Slot)) : Nat :=
  (entries.filter fun entry => !entry.2.deleted).length

@[simp] theorem liveCount_append (a b : List (Nat × Slot)) :
    liveCount (a ++ b) = liveCount a + liveCount b := by
  simp [liveCount]

@[simp] theorem liveCount_cons (id : Nat) (slot : Slot) (rest : List (Nat × Slot)) :
    liveCount ((id, slot) :: rest) = (if slot.deleted then 0 else 1) + liveCount rest := by
  cases h : slot.deleted
  · simp [liveCount, h, Nat.add_comm]
  · simp [liveCount, h]

theorem liveCount_replaceSlot {entries : List (Nat × Slot)} {id : Nat} {old : Slot}
    (hnd : (entries.map Prod.fst).Nodup) (hold : (id, old) ∈ entries) (new : Slot) :
    liveCount (replaceSlot id new entries) + (if old.deleted then 0 else 1) =
      liveCount entries + (if new.deleted then 0 else 1) := by
  obtain ⟨pre, post, rfl⟩ := List.append_of_mem hold
  rw [List.map_append, List.map_cons, List.nodup_middle, List.nodup_cons, List.mem_append,
    not_or] at hnd
  obtain ⟨⟨hpre, hpost⟩, -⟩ := hnd
  have hmid : replaceSlot id new ((id, old) :: post) = (id, new) :: post := by
    have hcons : replaceSlot id new ((id, old) :: post) =
        (id, new) :: replaceSlot id new post := by simp [replaceSlot]
    rw [hcons, replaceSlot_of_not_mem hpost]
  rw [replaceSlot_append, replaceSlot_of_not_mem hpre, hmid, liveCount_append, liveCount_append,
    liveCount_cons, liveCount_cons]
  omega

theorem empty_lawful (reserved : Nat) : (empty reserved).Lawful where
  nodup := List.nodup_nil
  mem_order id := by simp [empty]
  pos id h := absurd h List.not_mem_nil
  lt_nextId id h := absurd h List.not_mem_nil
  reserved_lt := Nat.lt_succ_self reserved
  live_eq := rfl

namespace Lawful

variable {c : Canvas}

theorem keys (h : c.Lawful) : c.entries.map Prod.fst = c.order :=
  map_fst_entriesOf fun id hid => (h.mem_order id).1 hid

theorem keys_nodup (h : c.Lawful) : (c.entries.map Prod.fst).Nodup := h.keys ▸ h.nodup

theorem mem_entries (h : c.Lawful) {id : Nat} {slot : Slot} :
    (id, slot) ∈ c.entries ↔ c.slots[id]? = some slot := by
  constructor
  · intro hm
    exact (mem_entriesOf.1 hm).2
  · intro hs
    exact mem_entriesOf.2 ⟨(h.mem_order id).2 ⟨slot, hs⟩, hs⟩

/-- An id that was never handed out has no place in program order. -/
theorem nextId_not_mem (h : c.Lawful) : c.nextId ∉ c.order := fun hm =>
  Nat.lt_irrefl _ (h.lt_nextId _ hm)

/-! ## The two moves -/

/-- A new id with a live slot, put at some place of the program order. -/
theorem insertion (h : c.Lawful) {pre post : List Nat} {id : Nat} (slot : Slot)
    (horder : c.order = pre ++ post) (hnew : id ∉ c.order) (hpos : 1 ≤ id)
    (hlive : slot.deleted = false) {nextId : Nat} (hnext : c.nextId ≤ nextId)
    (hid : id < nextId) :
    Lawful { c with
      slots := c.slots.insert id slot
      order := pre ++ id :: post
      nextId := nextId
      live := c.live + 1 } := by
  have hsplit : id ∉ pre ∧ id ∉ post := by
    rw [horder, List.mem_append, not_or] at hnew
    exact hnew
  have hmem : ∀ k, k ∈ pre ++ id :: post ↔ k = id ∨ k ∈ c.order := by
    intro k
    rw [horder]
    simp only [List.mem_append, List.mem_cons]
    tauto
  refine ⟨?_, ?_, ?_, ?_, Nat.lt_of_lt_of_le h.reserved_lt hnext, ?_⟩
  · rw [List.nodup_middle, List.nodup_cons, ← horder]
    exact ⟨hnew, h.nodup⟩
  · intro k
    rw [hmem, getElem?_insert_slot]
    by_cases hk : id = k
    · simp [hk]
    · rw [if_neg hk, h.mem_order]
      exact or_iff_right (Ne.symm hk)
  · intro k hk
    rcases (hmem k).1 hk with rfl | hk
    · exact hpos
    · exact h.pos k hk
  · intro k hk
    rcases (hmem k).1 hk with rfl | hk
    · exact hid
    · exact Nat.lt_of_lt_of_le (h.lt_nextId k hk) hnext
  · have hcount : c.live = liveCount (entriesOf c.slots pre ++ entriesOf c.slots post) := by
      rw [h.live_eq, ← entriesOf_append, ← horder]
      rfl
    show c.live + 1 = liveCount (entriesOf (c.slots.insert id slot) (pre ++ id :: post))
    rw [entriesOf_insert_between hsplit.1 hsplit.2, hcount, liveCount_append, liveCount_append,
      liveCount_cons, hlive]
    simp only [Bool.false_eq_true, if_false]
    omega

/-- Another slot in the place of one. -/
theorem update (h : c.Lawful) {id : Nat} {old : Slot} (hold : c.slots[id]? = some old)
    (new : Slot) {live : Nat}
    (hlive : live + (if old.deleted then 0 else 1) = c.live + (if new.deleted then 0 else 1)) :
    Lawful { c with slots := c.slots.insert id new, live := live } := by
  refine ⟨h.nodup, ?_, h.pos, h.lt_nextId, h.reserved_lt, ?_⟩
  · intro k
    rw [h.mem_order, getElem?_insert_slot]
    by_cases hk : id = k
    · subst hk
      simp [hold]
    · rw [if_neg hk]
  · have hcount : c.live = liveCount c.entries := h.live_eq
    have hmoved := liveCount_replaceSlot h.keys_nodup (h.mem_entries.2 hold) new
    show live = liveCount (entriesOf (c.slots.insert id new) c.order)
    rw [entriesOf_insert fun k hk => (h.mem_order k).1 hk]
    have hsame : entriesOf c.slots c.order = c.entries := rfl
    rw [hsame]
    omega

end Lawful
end Canvas
end SsaEdit
