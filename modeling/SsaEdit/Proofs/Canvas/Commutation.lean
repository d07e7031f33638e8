/-
Insertions before different statements can be made in any order.

Another order gives the new statements other ids, and puts them at other places while it
lasts.  `Lawful.exists_renaming` says that in the end it is the same canvas with the new
ids exchanged: two neighbours exchange their two ids, and what comes after them does not
mention either.  As no reference is to a new id, a renumbering does not see the
difference.
-/
import SsaEdit.Proofs.Canvas.Permanence
import SsaEdit.Proofs.Canvas.Renaming
import SsaEdit.Proofs.Canvas.Runs

namespace SsaEdit

/-- All references are to ids below a bound. -/
def Statement.MentionsBelow (n : Nat) (s : Statement) : Prop :=
  ∀ ref ∈ s.node.references, ref.id < n

instance (n : Nat) (s : Statement) : Decidable (s.MentionsBelow n) :=
  inferInstanceAs (Decidable (∀ ref ∈ s.node.references, ref.id < n))

namespace Canvas

/-- What is put before a slot, with its location unless it takes that of the slot. -/
structure Insertion where
  anchor : Variable
  value : Value
  location : Option Value := none

/-- The insertion as an edit. -/
def Insertion.edit (i : Insertion) : Edit := .insertBefore (.variable i.anchor) i.value i.location

/-- The canvas after some insertions. -/
def insertAll (c : Canvas) (insertions : List Insertion) : Canvas :=
  c.runAll (insertions.map Insertion.edit)

/-- Insertions before different slots of a canvas, deleted or not, of statements that
mention no id that the canvas has yet to hand out. -/
structure Independent (c : Canvas) (insertions : List Insertion) : Prop where
  distinct : (insertions.map fun i => i.anchor.id).Nodup
  anchored : ∀ i ∈ insertions, i.anchor.id ∈ c.slots
  statement : ∀ i ∈ insertions, ∃ s, i.value.asStatement = .ok s ∧ s.MentionsBelow c.nextId

/-! ## Two places of one list -/

theorem lookup_putBefore {anchor id : Nat} {new : Nat × Slot} (hne : id ≠ new.1)
    (entries : List (Nat × Slot)) :
    (Roll.putBefore anchor new entries).lookup id = entries.lookup id := by
  have hbeq : (id == new.1) = false := by simpa using hne
  induction entries with
  | nil => rfl
  | cons entry rest ih =>
    show List.lookup id ((if entry.1 = anchor then [new, entry] else [entry]) ++
      Roll.putBefore anchor new rest) = _
    split
    · rw [List.cons_append, List.lookup_cons, hbeq]
      show List.lookup id (entry :: Roll.putBefore anchor new rest) = _
      rw [List.lookup_cons, List.lookup_cons, ih]
    · show List.lookup id (entry :: Roll.putBefore anchor new rest) = _
      rw [List.lookup_cons, List.lookup_cons, ih]

theorem mem_putBefore {anchor : Nat} {new entry : Nat × Slot} {entries : List (Nat × Slot)}
    (h : entry ∈ Roll.putBefore anchor new entries) : entry = new ∨ entry ∈ entries := by
  obtain ⟨old, hold, h⟩ := List.mem_flatMap.1 h
  split at h
  · rcases List.mem_cons.1 h with rfl | h
    · exact Or.inl rfl
    · exact Or.inr (List.mem_singleton.1 h ▸ hold)
  · exact Or.inr (List.mem_singleton.1 h ▸ hold)

/-- What is put before one entry and what is put before another do not get in each other's
way. -/
theorem putBefore_comm {a b : Nat} {x y : Nat × Slot} (hab : a ≠ b) (hxb : x.1 ≠ b)
    (hya : y.1 ≠ a) (entries : List (Nat × Slot)) :
    Roll.putBefore b y (Roll.putBefore a x entries) =
      Roll.putBefore a x (Roll.putBefore b y entries) := by
  rw [Roll.putBefore, Roll.putBefore, Roll.putBefore, Roll.putBefore, List.flatMap_assoc,
    List.flatMap_assoc]
  refine List.flatMap_congr fun entry _ => ?_
  by_cases ha : entry.1 = a
  · have hb : entry.1 ≠ b := ha ▸ hab
    simp [ha, hxb, hab]
  · by_cases hb : entry.1 = b
    · simp [hb, hya, hab.symm]
    · simp [ha, hb]

/-! ## Ids that move -/

/-- A renaming that moves no id but the `k` ones from `n` on. -/
def MovesOnly (n k : Nat) (σ : Equiv.Perm Nat) : Prop := ∀ id, id < n ∨ n + k ≤ id → σ id = id

theorem movesOnly_swap (n : Nat) : MovesOnly n 2 (Equiv.swap n (n + 1)) := fun id hid =>
  Equiv.swap_apply_of_ne_of_ne (by omega) (by omega)

theorem MovesOnly.mono {n m k l : Nat} {σ : Equiv.Perm Nat} (h : MovesOnly n k σ) (hfirst : m ≤ n)
    (hlast : n + k ≤ m + l) : MovesOnly m l σ := fun id hid => h id (by omega)

theorem MovesOnly.mul {n k : Nat} {σ τ : Equiv.Perm Nat} (h : MovesOnly n k σ)
    (h' : MovesOnly n k τ) : MovesOnly n k (τ * σ) := fun id hid => by
  rw [Equiv.Perm.mul_apply, h id hid, h' id hid]

namespace Roll

variable {σ : Equiv.Perm Nat} {r : Roll}

/-! ## One insertion -/

theorem run_insertion (r : Roll) (i : Insertion) : r.run i.edit =
    match r.find i.anchor with
    | .error fault => (r, .error fault)
    | .ok slot =>
      r.add i.value (i.location.getD slot.location) fun new =>
        putBefore i.anchor.id new r.entries :=
  rfl

/-- An insertion of a statement before an entry that is there. -/
theorem run_insertion_of_lookup {i : Insertion} {slot : Slot} {s : Statement}
    (hslot : r.entries.lookup i.anchor.id = some slot) (hs : i.value.asStatement = .ok s) :
    r.run i.edit =
      (⟨putBefore i.anchor.id (r.nextId, ⟨s, i.location.getD slot.location, false⟩) r.entries,
        r.reserved, r.nextId + 1⟩, .ok (.id ⟨r.nextId⟩)) := by
  rw [run_insertion, find, hslot]
  dsimp only [add]
  rw [hs]

theorem nextId_le_run_insertion (r : Roll) (i : Insertion) :
    r.nextId ≤ (r.run i.edit).1.nextId := by
  rw [run_insertion]
  cases r.find i.anchor with
  | error fault => exact Nat.le_refl _
  | ok slot =>
    dsimp only [add]
    cases i.value.asStatement <;> exact Nat.le_succ _

/-- An insertion brings in its own statement and no other. -/
theorem mem_entries_run_insertion {i : Insertion} {entry : Nat × Slot}
    (h : entry ∈ (r.run i.edit).1.entries) :
    entry ∈ r.entries ∨ i.value.asStatement = .ok entry.2.statement := by
  rw [run_insertion] at h
  cases hfind : r.find i.anchor with
  | error fault =>
    rw [hfind] at h
    exact Or.inl h
  | ok slot =>
    rw [hfind] at h
    dsimp only [add] at h
    cases hs : i.value.asStatement with
    | error fault =>
      rw [hs] at h
      exact Or.inl h
    | ok s =>
      rw [hs] at h
      rcases mem_putBefore h with rfl | hold
      · exact Or.inr rfl
      · exact Or.inl hold

theorem mentionsBelow_runAll {n : Nat} {insertions : List Insertion}
    (hlive : ∀ entry ∈ r.live, entry.2.statement.MentionsBelow n)
    (hnew : ∀ i ∈ insertions, ∀ s, i.value.asStatement = .ok s → s.MentionsBelow n) :
    ∀ entry ∈ (r.runAll (insertions.map Insertion.edit)).live,
      entry.2.statement.MentionsBelow n := by
  induction insertions generalizing r with
  | nil => exact hlive
  | cons i rest ih =>
    refine ih (r := (r.run i.edit).1) (fun entry hentry => ?_)
      fun j hj => hnew j (List.mem_cons_of_mem _ hj)
    obtain ⟨hmem, hnot⟩ := List.mem_filter.1 hentry
    rcases mem_entries_run_insertion hmem with hold | hs
    · exact hlive entry (List.mem_filter.2 ⟨hold, hnot⟩)
    · exact hnew i List.mem_cons_self _ hs

/-! ## The same insertions under other ids -/

theorem find_renamed {v : Variable} (hv : σ v.id = v.id) : (r.renamed σ).find v = r.find v := by
  have hlookup : (r.renamed σ).entries.lookup v.id = r.entries.lookup v.id := by
    conv_lhs => rw [← hv]
    exact lookup_renameIds σ r.entries v.id
  rw [find, find, hlookup]

/-- The step: an insertion does the same under other ids, if its anchor and the id that it
takes are the same there. -/
theorem run_insertion_renamed {i : Insertion} (hanchor : σ i.anchor.id = i.anchor.id)
    (hnext : σ r.nextId = r.nextId) :
    ((r.renamed σ).run i.edit).1 = (r.run i.edit).1.renamed σ := by
  rw [run_insertion, run_insertion, find_renamed hanchor]
  cases r.find i.anchor with
  | error fault => rfl
  | ok slot =>
    dsimp only [add]
    cases i.value.asStatement with
    | error fault => rfl
    | ok s =>
      have hput := putBefore_renameIds σ i.anchor.id
        (r.nextId, ⟨s, i.location.getD slot.location, false⟩) r.entries
      rw [hanchor, Prod.map_apply, hnext] at hput
      exact congrArg (fun entries => (⟨entries, r.reserved, r.nextId + 1⟩ : Roll)) hput

/-- The run. -/
theorem runAll_insertions_renamed {insertions : List Insertion}
    (hanchors : ∀ i ∈ insertions, σ i.anchor.id = i.anchor.id)
    (hfresh : ∀ id, r.nextId ≤ id → σ id = id) :
    (r.renamed σ).runAll (insertions.map Insertion.edit) =
      (r.runAll (insertions.map Insertion.edit)).renamed σ := by
  induction insertions generalizing r with
  | nil => rfl
  | cons i rest ih =>
    have hstep := run_insertion_renamed (r := r) (hanchors i List.mem_cons_self)
      (hfresh _ (Nat.le_refl _))
    show ((r.renamed σ).run i.edit).1.runAll _ = _
    rw [hstep]
    exact ih (fun j hj => hanchors j (List.mem_cons_of_mem _ hj)) fun id hid =>
      hfresh id (Nat.le_trans (r.nextId_le_run_insertion i) hid)

/-- Two insertions before different entries, made in the other order, exchange their
ids. -/
theorem run_insertion_swap {i j : Insertion} {slot slot' : Slot} {s s' : Statement}
    (hne : i.anchor.id ≠ j.anchor.id) (hi : r.entries.lookup i.anchor.id = some slot)
    (hj : r.entries.lookup j.anchor.id = some slot') (hs : i.value.asStatement = .ok s)
    (hs' : j.value.asStatement = .ok s') (hilt : i.anchor.id < r.nextId)
    (hjlt : j.anchor.id < r.nextId) (hold : ∀ id ∈ r.entries.map Prod.fst, id < r.nextId) :
    ((r.run j.edit).1.run i.edit).1 =
      ((r.run i.edit).1.run j.edit).1.renamed (Equiv.swap r.nextId (r.nextId + 1)) := by
  have hfixed : ∀ id < r.nextId, Equiv.swap r.nextId (r.nextId + 1) id = id := fun id hid =>
    movesOnly_swap r.nextId id (Or.inl hid)
  rw [run_insertion_of_lookup hi hs, run_insertion_of_lookup hj hs']
  rw [run_insertion_of_lookup ((lookup_putBefore (Nat.ne_of_lt hilt) _).trans hi) hs,
    run_insertion_of_lookup ((lookup_putBefore (Nat.ne_of_lt hjlt) _).trans hj) hs']
  rw [renamed, Roll.mk.injEq]
  refine ⟨?_, rfl, rfl⟩
  dsimp only
  -- Under the exchanged ids each of the two still stands before its own anchor.
  have hfirst := putBefore_renameIds (Equiv.swap r.nextId (r.nextId + 1)) i.anchor.id
    (r.nextId, ⟨s, i.location.getD slot.location, false⟩) r.entries
  have hsecond := putBefore_renameIds (Equiv.swap r.nextId (r.nextId + 1)) j.anchor.id
    (r.nextId + 1, ⟨s', j.location.getD slot'.location, false⟩)
    (putBefore i.anchor.id (r.nextId, ⟨s, i.location.getD slot.location, false⟩) r.entries)
  rw [hfixed _ hilt, renameIds_of_forall fun id hid => hfixed id (hold id hid), Prod.map_apply,
    Equiv.swap_apply_left] at hfirst
  rw [hfixed _ hjlt, ← hfirst, Prod.map_apply, Equiv.swap_apply_right] at hsecond
  rw [← hsecond]
  exact putBefore_comm hne.symm (Nat.ne_of_gt hilt) (Nat.ne_of_gt (Nat.lt_succ_of_lt hjlt)) _

end Roll

/-! ## Any order -/

namespace Independent

variable {c : Canvas} {i j : Insertion} {rest insertions order : List Insertion}

theorem perm (h : c.Independent insertions) (hperm : insertions.Perm order) :
    c.Independent order where
  distinct := (hperm.map _).nodup_iff.1 h.distinct
  anchored i hi := h.anchored i (hperm.mem_iff.2 hi)
  statement i hi := h.statement i (hperm.mem_iff.2 hi)

/-- The anchor of each is an entry. -/
theorem exists_slot (h : c.Independent insertions) (hi : i ∈ insertions) :
    ∃ slot, c.slots[i.anchor.id]? = some slot :=
  mem_slots_iff.1 (h.anchored i hi)

end Independent

namespace Lawful

variable {c : Canvas} {i j : Insertion} {rest insertions order : List Insertion}

theorem lt_nextId_of_mem_slots (h : c.Lawful) {id : Nat} (hid : id ∈ c.slots) : id < c.nextId :=
  h.lt_nextId id ((h.mem_order_iff id).2 hid)

theorem roll_insertAll (h : c.Lawful) (insertions : List Insertion) :
    (c.insertAll insertions).roll = c.roll.runAll (insertions.map Insertion.edit) :=
  h.roll_runAll _

/-- An independent insertion succeeds, and takes the next fresh id. -/
theorem run_independent (h : c.Lawful) (hind : c.Independent insertions) (hi : i ∈ insertions) :
    (c.run i.edit).2 = .ok (.id ⟨c.nextId⟩) ∧ (c.run i.edit).1.nextId = c.nextId + 1 := by
  obtain ⟨slot, hslot⟩ := hind.exists_slot hi
  obtain ⟨s, hs, -⟩ := hind.statement i hi
  have hlookup : c.roll.entries.lookup i.anchor.id = some slot :=
    (h.lookup_entries _).trans hslot
  have hrun := h.roll_run i.edit
  rw [Roll.run_insertion_of_lookup hlookup hs, Prod.mk.injEq] at hrun
  exact ⟨hrun.2, congrArg Roll.nextId hrun.1⟩

/-- The others are independent on the canvas after it. -/
theorem independent_tail (h : c.Lawful) (hind : c.Independent (i :: rest)) :
    (c.run i.edit).1.Independent rest := by
  have hkeeps : isRenumbered (c.run i.edit).2 = false := by
    rw [(h.run_independent hind List.mem_cons_self).1]
    rfl
  have hextends := h.run_extends hkeeps
  refine ⟨(List.nodup_cons.1 hind.distinct).2, fun j hj => ?_, fun j hj => ?_⟩
  · rw [← (h.run_lawful _).mem_order_iff]
    refine hextends.order.subset ?_
    rw [h.mem_order_iff]
    exact hind.anchored j (List.mem_cons_of_mem _ hj)
  · obtain ⟨s, hs, hmentions⟩ := hind.statement j (List.mem_cons_of_mem _ hj)
    exact ⟨s, hs, fun ref href => Nat.lt_of_lt_of_le (hmentions ref href) hextends.nextId_le⟩

/-- All of them succeed. -/
theorem runs_insertAll (h : c.Lawful) (hind : c.Independent insertions) :
    c.Runs (insertions.map Insertion.edit) (c.insertAll insertions) := by
  induction insertions generalizing c with
  | nil => exact .nil c
  | cons i rest ih =>
    have hrun : c.run i.edit = ((c.run i.edit).1, .ok (.id ⟨c.nextId⟩)) :=
      Prod.ext rfl (h.run_independent hind List.mem_cons_self).1
    exact .cons hrun (ih (h.run_lawful _) (h.independent_tail hind))

/-- Two neighbours make the same canvas in either order, but for their own ids. -/
theorem roll_insertAll_swap (h : c.Lawful) (hind : c.Independent (j :: i :: rest)) :
    (c.insertAll (i :: j :: rest)).roll =
      (c.insertAll (j :: i :: rest)).roll.renamed (Equiv.swap c.nextId (c.nextId + 1)) := by
  have hj : j ∈ j :: i :: rest := List.mem_cons_self
  have hi : i ∈ j :: i :: rest := List.mem_cons_of_mem _ List.mem_cons_self
  have hlt : ∀ k ∈ j :: i :: rest, k.anchor.id < c.nextId := fun k hk =>
    h.lt_nextId_of_mem_slots (hind.anchored k hk)
  obtain ⟨slot, hslot⟩ := hind.exists_slot hi
  obtain ⟨slot', hslot'⟩ := hind.exists_slot hj
  obtain ⟨s, hs, -⟩ := hind.statement i hi
  obtain ⟨s', hs', -⟩ := hind.statement j hj
  have hne : j.anchor.id ≠ i.anchor.id := fun heq =>
    (List.nodup_cons.1 hind.distinct).1 (List.mem_cons.2 (Or.inl heq))
  have hold : ∀ id ∈ c.roll.entries.map Prod.fst, id < c.roll.nextId := fun id hid =>
    h.lt_nextId id (h.keys ▸ hid)
  have hpair := Roll.run_insertion_swap hne ((h.lookup_entries _).trans hslot')
    ((h.lookup_entries _).trans hslot) hs' hs (hlt j hj) (hlt i hi) hold
  have hnext : ((c.roll.run j.edit).1.run i.edit).1.nextId = c.nextId + 2 := by
    have hfirst := h.run_independent hind hj
    have hsecond := (h.run_lawful j.edit).run_independent (h.independent_tail hind)
      List.mem_cons_self
    have hrolls := h.roll_runAll [j.edit, i.edit]
    exact (congrArg Roll.nextId hrolls).symm.trans (hsecond.2.trans (congrArg (· + 1) hfirst.2))
  rw [h.roll_insertAll, h.roll_insertAll]
  show ((c.roll.run i.edit).1.run j.edit).1.runAll (rest.map Insertion.edit) = _
  rw [hpair]
  refine Roll.runAll_insertions_renamed (fun k hk => ?_) fun id hid => ?_
  · have hmem : k ∈ j :: i :: rest := List.mem_cons_of_mem _ (List.mem_cons_of_mem _ hk)
    exact movesOnly_swap c.nextId _ (Or.inl (hlt k hmem))
  · exact movesOnly_swap c.nextId id (Or.inr (hnext ▸ hid))

/-- In any order the same canvas is made, but for the ids of the new statements. -/
theorem exists_renaming (h : c.Lawful) (hind : c.Independent insertions)
    (hperm : insertions.Perm order) : ∃ σ, MovesOnly c.nextId insertions.length σ ∧
      (c.insertAll order).roll = (c.insertAll insertions).roll.renamed σ := by
  induction hperm generalizing c with
  | nil => exact ⟨1, fun _ _ => rfl, (Roll.renamed_one _).symm⟩
  | @cons i rest others _ ih =>
    obtain ⟨σ, hmoves, hroll⟩ := ih (h.run_lawful i.edit) (h.independent_tail hind)
    rw [(h.run_independent hind List.mem_cons_self).2] at hmoves
    exact ⟨σ, hmoves.mono (Nat.le_succ _) (by rw [List.length_cons]; omega), hroll⟩
  | swap i j rest =>
    refine ⟨_, (movesOnly_swap c.nextId).mono (Nat.le_refl _) ?_, h.roll_insertAll_swap hind⟩
    rw [List.length_cons, List.length_cons]
    omega
  | @trans first second third hfirst _ ih ih' =>
    obtain ⟨σ, hmoves, hroll⟩ := ih h hind
    obtain ⟨τ, hmoves', hroll'⟩ := ih' h (hind.perm hfirst)
    rw [← hfirst.length_eq] at hmoves'
    exact ⟨τ * σ, hmoves.mul hmoves', by rw [hroll', hroll, Roll.renamed_renamed]⟩

end Lawful

/-! ## A renumbering after them -/

/-- All insertions succeed, and a lenient renumbering after them leaves a canvas and has an
outcome. -/
def Inserts (c : Canvas) (insertions : List Insertion) (after : Canvas) (outcome : Renumbering) :
    Prop :=
  ∃ mid, c.Runs (insertions.map Insertion.edit) mid ∧ mid.renumber false = .ok (after, outcome)

/-- Two renumbered canvases with their outcomes are the same, but for the ids that the
statements had before: a renaming says which ones correspond, and it moves none but the `k`
ids from `n` on. -/
structure SameBut (n k : Nat) (σ : Equiv.Perm Nat) (after : Canvas) (outcome : Renumbering)
    (after' : Canvas) (outcome' : Renumbering) : Prop where
  moves : MovesOnly n k σ
  /-- Every entry has the same id, statement and location, at the same place. -/
  entries : after'.entries = after.entries
  mapping : ∀ id, outcome'.mapping.lookup (σ id) = outcome.mapping.lookup id
  kept : ∀ id < n, outcome'.mapping.lookup id = outcome.mapping.lookup id
  dropped : outcome'.dropped = outcome.dropped
  /-- The records are even in the same order. -/
  dangling : outcome'.dangling = outcome.dangling.map (Dangling.renamed σ)

/-- A renumbering of two canvases with corresponding entries. -/
theorem MovesOnly.sameBut {one other : Canvas} {n k : Nat} {σ : Equiv.Perm Nat}
    (hmoves : MovesOnly n k σ) (hroll : other.roll = one.roll.renamed σ)
    (hmentions : ∀ entry ∈ one.liveEntries, entry.2.statement.MentionsBelow n) :
    SameBut n k σ one.renumbered one.renumbering other.renumbered other.renumbering := by
  have hrefers : one.roll.RefersToFixed σ := fun entry hentry ref href =>
    hmoves _ (Or.inl (hmentions entry hentry ref href))
  have hmapping : ∀ id, other.renumbering.mapping.lookup (σ id) =
      one.renumbering.mapping.lookup id := fun id => by
    show other.roll.renumbering.mapping.lookup _ = _
    rw [hroll, Roll.lookup_mapping_renamed]
    rfl
  refine ⟨hmoves, ?_, hmapping, fun id hid => ?_, ?_, ?_⟩
  · have hentries := congrArg Roll.entries (Roll.renumbered_renamed hrefers)
    rw [← hroll, ← roll_renumbered, ← roll_renumbered] at hentries
    exact hentries
  · conv_lhs => rw [← hmoves id (Or.inl hid)]
    exact hmapping id
  · show other.roll.renumbering.dropped = one.roll.renumbering.dropped
    rw [hroll, Roll.dropped_renamed]
  · show other.roll.renumbering.dangling = one.roll.renumbering.dangling.map _
    rw [hroll, Roll.dangling_renamed hrefers]

/-- What independent insertions come to in another order. -/
def Commutes (c : Canvas) (insertions order : List Insertion) : Prop :=
  ∃ σ after outcome after' outcome', c.Inserts insertions after outcome ∧
    c.Inserts order after' outcome' ∧
      SameBut c.nextId insertions.length σ after outcome after' outcome'

theorem Lawful.commutes {c : Canvas} (h : c.Lawful) {insertions order : List Insertion}
    (hmentions : ∀ entry ∈ c.liveEntries, entry.2.statement.MentionsBelow c.nextId)
    (hind : c.Independent insertions) (hperm : insertions.Perm order) :
    c.Commutes insertions order := by
  obtain ⟨σ, hmoves, hroll⟩ := h.exists_renaming hind hperm
  have hlive : ∀ entry ∈ (c.insertAll insertions).liveEntries,
      entry.2.statement.MentionsBelow c.nextId := by
    show ∀ entry ∈ (c.insertAll insertions).roll.live, _
    rw [h.roll_insertAll]
    refine Roll.mentionsBelow_runAll hmentions fun i hi s hs => ?_
    obtain ⟨s', hs', hbelow⟩ := hind.statement i hi
    exact Except.ok.inj (hs.symm.trans hs') ▸ hbelow
  exact ⟨σ, _, _, _, _, ⟨_, h.runs_insertAll hind, rfl⟩,
    ⟨_, h.runs_insertAll (hind.perm hperm), rfl⟩, hmoves.sameBut hroll hlive⟩

/-- From any canvas that edits can lead to and on which no live statement mentions an id
that is yet to be handed out, independent insertions succeed in any order, and a lenient
renumbering after them shows nothing of the order but the ids of the new statements. -/
theorem insertions_commute (reserved : Nat) (edits : List Edit) {insertions order : List Insertion}
    (hmentions : ∀ entry ∈ ((empty reserved).runAll edits).liveEntries,
      entry.2.statement.MentionsBelow ((empty reserved).runAll edits).nextId)
    (hind : ((empty reserved).runAll edits).Independent insertions)
    (hperm : insertions.Perm order) :
    ((empty reserved).runAll edits).Commutes insertions order :=
  ((empty_lawful reserved).runAll_lawful edits).commutes hmentions hind hperm

/-- A deleted statement and a live one. -/
def remnant : List Edit :=
  [.place (.variable ⟨1⟩) (.node (.const .null)) (.int 7),
    .append (.node (.ret (.variable ⟨2⟩))) (some (.int 8)), .delete (.variable ⟨1⟩)]

/-- A statement before each of them: the first mentions an id that is set aside, and takes
the location of the deleted statement. -/
def newcomers : List Insertion :=
  [⟨⟨1⟩, .node (.ret (.variable ⟨2⟩)), none⟩, ⟨⟨3⟩, .node (.branch ⟨3⟩ .null), some (.int 9)⟩]

theorem insertions_commute_newcomers :
    ((empty 2).runAll remnant).Independent newcomers ∧
      ((empty 2).runAll remnant).Commutes newcomers newcomers.reverse ∧
      (((empty 2).runAll remnant).insertAll newcomers).order = [4, 1, 5, 3] ∧
      (((empty 2).runAll remnant).insertAll newcomers.reverse).order = [5, 1, 4, 3] :=
  have hind : ((empty 2).runAll remnant).Independent newcomers :=
    { distinct := by decide
      anchored := by decide +kernel
      statement := List.forall_mem_cons.2 ⟨⟨_, rfl, by decide +kernel⟩,
        List.forall_mem_singleton.2 ⟨_, rfl, by decide +kernel⟩⟩ }
  ⟨hind, insertions_commute 2 remnant (by decide +kernel) hind (List.reverse_perm _).symm,
    by decide +kernel, by decide +kernel⟩

end Canvas
end SsaEdit
