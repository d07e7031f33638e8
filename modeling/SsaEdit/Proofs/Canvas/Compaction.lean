/-
A renumbering is the dense relabelling in program order.

`Canvas.rank` is the number that a statement gets: its place among the live ones.
`Lawful.compacts` says what a renumbering does in terms of it alone, from the table that
is left to the order in which dangling references are noted.  A renumbering is written
as three computations over the live entries; `Lawful.pass_eq` shows that they do what
one pass does that meets every reference once, gives it its number and notes it if there
is none.
-/
import SsaEdit.Proofs.Canvas.Bookkeeping
import SsaEdit.Proofs.Node.Relabelled

namespace SsaEdit
namespace Canvas

/-- The place of a statement among the live ones, counted from 1, or the number of no
statement. -/
def rank (c : Canvas) (id : Nat) : Nat :=
  if id ∈ c.liveIds then c.liveIds.idxOf id + 1 else danglingId

/-- The references of some live entries to statements that are not live. -/
def danglingAmong (c : Canvas) (entries : List (Nat × Slot)) : List Dangling :=
  entries.flatMap fun (id, slot) =>
    (slot.statement.node.rewriteOrder.filter fun r => !c.contains ⟨r.id⟩).map fun r => ⟨⟨id⟩, r⟩

/-! ## One pass -/

/-- What the pass does at a reference of statement `user`. -/
def visit (c : Canvas) (user : Nat) (r : Reference) : StateM (List Dangling) Nat :=
  match c.newIds.lookup r.id with
  | some k => return k
  | none => do
    modify fun found => found ++ [⟨⟨user⟩, r⟩]
    return danglingId

/-- The slots after a pass over the live statements, which notes the dangling
references. -/
def pass (c : Canvas) : StateM (List Dangling) (List Slot) :=
  c.liveEntries.mapM fun (id, slot) => do
    let node ← slot.statement.node.rewriteM (c.visit id)
    return ⟨⟨node, slot.statement.type⟩, slot.location, false⟩

/-- What is noted at a reference of statement `user`. -/
def noted (c : Canvas) (user : Nat) (r : Reference) : List Dangling :=
  if (c.newIds.lookup r.id).isNone then [⟨⟨user⟩, r⟩] else []

theorem visit_eq (c : Canvas) (user : Nat) :
    c.visit user = fun r => noting (Renumbering.target c.newIds r.id) (c.noted user r) := by
  funext r
  rw [visit, noted, Renumbering.target]
  cases c.newIds.lookup r.id with
  | some k => exact (noting_nil k).symm
  | none => rfl

theorem flatMap_noted (c : Canvas) (user : Nat) (n : Node) :
    n.rewriteOrder.flatMap (c.noted user) = Renumbering.danglingIn c.newIds user n := by
  rw [Renumbering.danglingIn]
  induction n.rewriteOrder with
  | nil => rfl
  | cons r rest ih =>
    rw [List.flatMap_cons, ih, noted, List.filter_cons]
    cases (c.newIds.lookup r.id).isNone <;> rfl

/-- The pass and the renumbering come to the same slots and the same dangling
references. -/
theorem pass_eq (c : Canvas) :
    c.pass = noting (c.renumbered.entries.map Prod.snd) c.renumbering.dangling := by
  have hslots : c.renumbered.entries.map Prod.snd =
      c.liveEntries.map fun entry => entry.2.renumbered c.newIds := by
    rw [← liveEntries_renumbered, map_snd_liveEntries_renumbered]
  rw [hslots]
  refine mapM_noting fun entry hentry => ?_
  obtain ⟨id, slot⟩ := entry
  have hlive : slot.deleted = false := (mem_liveEntries.1 hentry).2
  show (slot.statement.node.rewriteM (c.visit id) >>= fun node => pure _) = _
  rw [visit_eq, Node.rewriteM_noting, flatMap_noted, Slot.renumbered, hlive]
  exact noting_map _ _ _

/-! ## The relabelling -/

/-- What a renumbering makes of a canvas whose live ids in program order are
`s_1..s_m`. -/
structure Compacts (c after : Canvas) (outcome : Renumbering) : Prop where
  distinct : c.liveIds.Nodup
  /-- `s_k` gets the number `k`, and no other id gets one. -/
  mapping : outcome.mapping = c.liveIds.zipIdx 1
  substitutions : after.substitutions = outcome.mapping
  order : after.order = List.range' 1 c.liveIds.length
  slots : ∀ k, k ∈ after.slots ↔ 1 ≤ k ∧ k ≤ c.liveIds.length
  /-- Each statement has its type and its location, and a node that differs only in that
  each reference to `s_j` has number `j`, and any other one number 0. -/
  relabelled : ∀ (i id : Nat) (slot : Slot), c.liveEntries[i]? = some (id, slot) →
    ∃ node, slot.statement.node.Relabelled c.rank node ∧
      after.slots[i + 1]? = some ⟨⟨node, slot.statement.type⟩, slot.location, false⟩
  /-- The dangling references in program order, and within a statement in the order of a
  rewriting. -/
  dangling : outcome.dangling = c.danglingAmong c.liveEntries
  /-- There are as many records as occurrences. -/
  count : ∀ (id : Nat) (slot : Slot) (r : Reference), (id, slot) ∈ c.liveEntries →
    outcome.dangling.count ⟨⟨id⟩, r⟩ =
      if c.contains ⟨r.id⟩ then 0 else slot.statement.node.references.count r
  pass : c.pass [] = (after.entries.map Prod.snd, outcome.dangling)
  dropped : outcome.dropped + c.liveIds.length = c.slots.size
  reserved : after.reserved = 0
  nextId : after.nextId = c.liveIds.length + 1
  live : after.live = c.liveIds.length

theorem length_liveEntries (c : Canvas) : c.liveEntries.length = c.liveIds.length :=
  (List.length_map _).symm

namespace Lawful

variable {c : Canvas}

theorem target_newIds (h : c.Lawful) (id : Nat) :
    Renumbering.target c.newIds id = c.rank id := by
  rw [Renumbering.target, rank]
  cases hk : c.newIds.lookup id with
  | none =>
    have hnot : id ∉ c.liveIds := by
      rw [h.mem_liveIds, h.lookup_newIds_eq_none.1 hk]
      exact Bool.false_ne_true
    rw [if_neg hnot]
    rfl
  | some k =>
    obtain ⟨i, rfl, hi⟩ := h.lookup_newIds.1 hk
    obtain ⟨hlt, hid⟩ := List.getElem?_eq_some_iff.1 hi
    rw [if_pos (List.mem_of_getElem? hi), ← hid, h.liveIds_nodup.idxOf_getElem i hlt]
    rfl

/-- The live statement at a place is relabelled there. -/
theorem relabelled_at (h : c.Lawful) {i id : Nat} {slot : Slot}
    (hi : c.liveEntries[i]? = some (id, slot)) :
    ∃ node, slot.statement.node.Relabelled c.rank node ∧
      c.renumbered.slots[i + 1]? = some ⟨⟨node, slot.statement.type⟩, slot.location, false⟩ := by
  refine ⟨_, Node.relabelled_iff.2 rfl, ?_⟩
  have hlt : i < c.liveEntries.length := (List.getElem?_eq_some_iff.1 hi).1
  have hlive : slot.deleted = false := (mem_liveEntries.1 (List.mem_of_getElem? hi)).2
  have hentry : c.renumbered.entries[i]? = some (i + 1, slot.renumbered c.newIds) := by
    rw [entries_renumbered, List.getElem?_zip_eq_some, List.getElem?_map, hi,
      List.getElem?_range' hlt]
    exact ⟨congrArg some (by omega), rfl⟩
  rw [c.renumbered_lawful.mem_entries.1 (List.mem_of_getElem? hentry), Slot.renumbered, hlive]
  simp only [h.target_newIds]

theorem dangling_eq (h : c.Lawful) : c.renumbering.dangling = c.danglingAmong c.liveEntries := by
  have hnone : ∀ r : Reference, (c.newIds.lookup r.id).isNone = !c.contains ⟨r.id⟩ := fun r => by
    rw [← h.isSome_lookup_newIds, Option.not_isSome]
  rw [renumbering, danglingAmong]
  simp only [Renumbering.danglingIn, hnone]

end Lawful

/-- A record names the statement that has the reference. -/
theorem count_danglingAmong_of_not_mem (c : Canvas) {entries : List (Nat × Slot)} {id : Nat}
    (hnot : id ∉ entries.map Prod.fst) (r : Reference) :
    (c.danglingAmong entries).count ⟨⟨id⟩, r⟩ = 0 := by
  rw [List.count_eq_zero, danglingAmong, List.mem_flatMap]
  rintro ⟨entry, hentry, hrecord⟩
  obtain ⟨_, -, hsame⟩ := List.mem_map.1 hrecord
  injection hsame with huser
  injection huser with hid
  exact hnot (List.mem_map.2 ⟨entry, hentry, hid⟩)

theorem count_records (c : Canvas) (id : Nat) (n : Node) (r : Reference) :
    (((n.rewriteOrder.filter fun r => !c.contains ⟨r.id⟩).map fun r =>
      (⟨⟨id⟩, r⟩ : Dangling)).count ⟨⟨id⟩, r⟩) =
      if c.contains ⟨r.id⟩ then 0 else n.references.count r := by
  have hinjective : Function.Injective fun r => (⟨⟨id⟩, r⟩ : Dangling) :=
    fun _ _ hsame => congrArg Dangling.ref hsame
  rw [List.count_map_of_injective _ _ hinjective, ← n.rewriteOrder_perm.count_eq]
  cases hlive : c.contains ⟨r.id⟩ with
  | true =>
    rw [if_pos rfl, List.count_eq_zero, List.mem_filter, hlive]
    exact fun hmem => Bool.false_ne_true hmem.2
  | false =>
    rw [if_neg Bool.false_ne_true]
    exact List.count_filter (by rw [hlive]; rfl)

namespace Lawful

variable {c : Canvas}

theorem count_dangling (h : c.Lawful) {id : Nat} {slot : Slot}
    (hmem : (id, slot) ∈ c.liveEntries) (r : Reference) :
    (c.danglingAmong c.liveEntries).count ⟨⟨id⟩, r⟩ =
      if c.contains ⟨r.id⟩ then 0 else slot.statement.node.references.count r := by
  obtain ⟨pre, post, hsplit⟩ := List.append_of_mem hmem
  have hnodup : (c.liveEntries.map Prod.fst).Nodup := h.liveIds_nodup
  rw [hsplit, List.map_append, List.map_cons, List.nodup_middle, List.nodup_cons,
    List.mem_append, not_or] at hnodup
  have hparts : c.danglingAmong (pre ++ (id, slot) :: post) = c.danglingAmong pre ++
      ((slot.statement.node.rewriteOrder.filter fun r => !c.contains ⟨r.id⟩).map
        (fun r => ⟨⟨id⟩, r⟩) ++ c.danglingAmong post) := by
    simp [danglingAmong]
  rw [hsplit, hparts, List.count_append, List.count_append, count_records,
    c.count_danglingAmong_of_not_mem hnodup.1.1, c.count_danglingAmong_of_not_mem hnodup.1.2]
  omega

/-- Every slot is dropped or has a new number. -/
theorem dropped_add (h : c.Lawful) : c.renumbering.dropped + c.liveIds.length = c.slots.size := by
  have hsplit := List.length_eq_length_filter_add (l := c.entries) fun entry => entry.2.deleted
  rw [← c.length_liveEntries, ← Std.TreeMap.length_toList, ← h.entries_perm_toList.length_eq]
  exact hsplit.symm

theorem compacts (h : c.Lawful) : c.Compacts c.renumbered c.renumbering := by
  have hlength : (c.liveEntries.map fun entry => entry.2.renumbered c.newIds).length =
      c.liveIds.length := (List.length_map _).trans c.length_liveEntries
  have horder : c.renumbered.order = List.range' 1 c.liveIds.length :=
    congrArg (List.range' 1) hlength
  exact {
    distinct := h.liveIds_nodup
    mapping := by
      rw [List.zipIdx_eq_zip_range', ← newIds_eq]
      rfl
    substitutions := rfl
    order := horder
    slots := fun k => by
      rw [← c.renumbered_lawful.mem_order_iff, horder, List.mem_range'_1]
      omega
    relabelled := fun _ _ _ hi => h.relabelled_at hi
    dangling := h.dangling_eq
    count := fun _ _ r hmem => by
      rw [h.dangling_eq]
      exact h.count_dangling hmem r
    pass := by
      rw [pass_eq]
      rfl
    dropped := h.dropped_add
    reserved := rfl
    nextId := congrArg (· + 1) hlength
    live := hlength }

end Lawful

/-- From any canvas that edits can lead to, a renumbering that is not strict succeeds and
compacts it. -/
theorem renumber_compacts (reserved : Nat) (edits : List Edit) :
    ∃ after outcome, ((empty reserved).runAll edits).renumber false = .ok (after, outcome) ∧
      ((empty reserved).runAll edits).Compacts after outcome :=
  ⟨_, _, rfl, ((empty_lawful reserved).runAll_lawful edits).compacts⟩

/-- The condition of a branch is noted before its target. -/
example : ((empty 1).runAll [.append (.node (.branch ⟨1⟩ (.variable ⟨9⟩))) none]).renumbering.dangling =
    [⟨⟨2⟩, .value ⟨9⟩⟩, ⟨⟨2⟩, .label ⟨1⟩⟩] := by
  decide +kernel

end Canvas
end SsaEdit
