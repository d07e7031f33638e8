/-
What the operations of a canvas do to its entries.

Each operation has one lemma, which says when it succeeds and what the canvas is
then: `Grown` when a new entry was put somewhere, `Revised` when another slot was
put in the place of one.  `run_change` gathers them for every edit but a placing
and a renumbering, and says which of them overwrites a statement.
-/
import SsaEdit.Canvas.Edit
import SsaEdit.Proofs.Canvas.Entries

namespace SsaEdit

/-- A value addresses the statement of a variable or nothing. -/
theorem Value.asAddress_cases (v : Value) :
    (∃ x, v = .variable x) ∨ v.asAddress = .error (.canvasAddress v) := by
  unfold asAddress
  split
  · exact Or.inl ⟨_, rfl⟩
  · exact Or.inr rfl

namespace Canvas

/-- A canvas with one fresh entry more, between those of `pre` and those of
`post`. -/
structure Grown (c : Canvas) (slot : Slot) (pre post : List (Nat × Slot)) (after : Canvas) :
    Prop where
  lawful : after.Lawful
  before : c.entries = pre ++ post
  entries : after.entries = pre ++ (c.nextId, slot) :: post
  nextId : after.nextId = c.nextId + 1
  reserved : after.reserved = c.reserved

/-- A canvas with another slot in the place of one. -/
structure Revised (c : Canvas) (id : Nat) (new : Slot) (after : Canvas) : Prop where
  lawful : after.Lawful
  entries : after.entries = replaceSlot id new c.entries
  nextId : after.nextId = c.nextId
  reserved : after.reserved = c.reserved

theorem find_ok {c : Canvas} {v : Variable} {slot : Slot} (h : c.slots[v.id]? = some slot) :
    c.find v = .ok slot := by
  rw [find, h]

theorem findLive_ok {c : Canvas} {v : Variable} {slot : Slot} (h : c.slots[v.id]? = some slot)
    (hlive : slot.deleted = false) : c.findLive v = .ok slot := by
  simp [findLive, find_ok h, hlive, bind, Except.bind, pure, Except.pure]

theorem findLive_eq_ok {c : Canvas} {v : Variable} {slot : Slot} (h : c.findLive v = .ok slot) :
    c.slots[v.id]? = some slot ∧ slot.deleted = false := by
  cases hv : c.slots[v.id]? with
  | none => simp [findLive, find, hv, bind, Except.bind] at h
  | some old =>
    cases hlive : old.deleted with
    | true => simp [findLive, find_ok hv, hlive, bind, Except.bind, throw, throwThe,
        MonadExceptOf.throw] at h
    | false =>
      rw [findLive_ok hv hlive] at h
      injection h with h
      exact ⟨h ▸ rfl, h ▸ hlive⟩

namespace Lawful

variable {c : Canvas}

/-! ## Growing -/

theorem grow_grown (h : c.Lawful) {value : Value} {s : Statement}
    (hs : value.asStatement = .ok s) (location : Value) (order : Nat → List Nat)
    {pre post : List Nat}
    (horder : c.order = pre ++ post) (hnew : order c.nextId = pre ++ c.nextId :: post) :
    ∃ after, c.grow value location order = (after, .ok ⟨c.nextId⟩) ∧
      c.Grown ⟨s, location, false⟩ (entriesOf c.slots pre) (entriesOf c.slots post) after := by
  have hfresh := h.nextId_not_mem
  have hpos : 1 ≤ c.nextId := Nat.lt_of_le_of_lt (Nat.zero_le _) h.reserved_lt
  have hlawful := h.insertion ⟨s, location, false⟩ horder hfresh hpos rfl
    (Nat.le_succ c.nextId) (Nat.lt_succ_self c.nextId)
  rw [horder, List.mem_append, not_or] at hfresh
  refine ⟨_, by rw [grow, hs, hnew], hlawful, ?_, ?_, rfl, rfl⟩
  · rw [← entriesOf_append, ← horder]
    rfl
  · exact entriesOf_insert_between hfresh.1 hfresh.2 _

/-- A value that is no statement uses up an id and changes nothing else. -/
theorem grow_refused (h : c.Lawful) {value : Value} {fault : Fault}
    (hs : value.asStatement = .error fault) (location : Value) (order : Nat → List Nat) :
    c.grow value location order = ({ c with nextId := c.nextId + 1 }, .error fault) ∧
      Lawful { c with nextId := c.nextId + 1 } := by
  refine ⟨by rw [grow, hs], h.nodup, h.mem_order, h.pos, ?_, ?_, h.live_eq⟩
  · intro id hid
    exact Nat.lt_succ_of_lt (h.lt_nextId id hid)
  · exact Nat.lt_succ_of_lt h.reserved_lt

theorem append_grown (h : c.Lawful) {value : Value} {s : Statement}
    (hs : value.asStatement = .ok s) (location : Option Value) :
    ∃ after, c.append value location = (after, .ok ⟨c.nextId⟩) ∧
      c.Grown ⟨s, location.getD c.lastLocation, false⟩ c.entries [] after :=
  h.grow_grown hs _ (fun id => c.order ++ [id]) (List.append_nil c.order).symm rfl

theorem insertInOrder_split {pre post : List Nat} {anchor : Nat} (hpre : anchor ∉ pre) (id : Nat) :
    insertInOrder id anchor (pre ++ anchor :: post) = pre ++ id :: anchor :: post := by
  have hall : ∀ k ∈ pre, (k != anchor) = true := by
    intro k hk
    have hne : k ≠ anchor := fun e => hpre (e ▸ hk)
    simp [hne]
  rw [insertInOrder, List.takeWhile_append_of_pos hall, List.dropWhile_append_of_pos hall]
  simp

/-- An id that has a slot is found in program order. -/
theorem exists_split_order (h : c.Lawful) {v : Variable} {slot : Slot}
    (hv : c.slots[v.id]? = some slot) : ∃ pre post, c.order = pre ++ v.id :: post ∧
      ∀ id, insertInOrder id v.id c.order = pre ++ id :: v.id :: post := by
  obtain ⟨pre, post, horder, hpre⟩ :=
    List.eq_append_cons_of_mem ((h.mem_order v.id).2 ⟨slot, hv⟩)
  refine ⟨pre, post, horder, fun id => ?_⟩
  rw [horder, insertInOrder_split hpre]

theorem insertBefore_grown (h : c.Lawful) {v : Variable} {anchor : Slot}
    (hv : c.slots[v.id]? = some anchor) {value : Value} {s : Statement}
    (hs : value.asStatement = .ok s) (location : Option Value) :
    ∃ after pre post, c.insertBefore v value location = (after, .ok ⟨c.nextId⟩) ∧
      c.Grown ⟨s, location.getD anchor.location, false⟩ pre ((v.id, anchor) :: post) after := by
  obtain ⟨pre, post, horder, hnew⟩ := h.exists_split_order hv
  obtain ⟨after, hgrow, hgrown⟩ := h.grow_grown hs (location.getD anchor.location)
    (fun id => insertInOrder id v.id c.order) horder (hnew c.nextId)
  rw [entriesOf_cons hv] at hgrown
  exact ⟨after, _, _, by rw [insertBefore, find_ok hv]; exact hgrow, hgrown⟩

/-! ## Changing a slot -/

theorem set_revised (h : c.Lawful) {v : Variable} {old : Slot} (hv : c.slots[v.id]? = some old)
    {value : Value} {s : Statement} (hs : value.asStatement = .ok s) :
    ∃ after, c.set v value = .ok after ∧
      c.Revised v.id { old with statement := s, deleted := false } after := by
  refine ⟨_, by rw [set, find_ok hv, hs]; rfl, h.update hv _ ?_, ?_, rfl, rfl⟩
  · cases old.deleted <;> simp
  · exact entriesOf_insert (fun k hk => (h.mem_order k).1 hk) _

theorem delete_revised (h : c.Lawful) {v : Variable} {old : Slot}
    (hv : c.slots[v.id]? = some old) (hlive : old.deleted = false) :
    ∃ after, c.delete v = .ok after ∧ c.Revised v.id { old with deleted := true } after := by
  have hpos : 0 < c.live := by
    rw [h.live_eq]
    exact List.length_pos_of_mem (List.mem_filter.2 ⟨h.mem_entries.2 hv, by simp [hlive]⟩)
  refine ⟨_, by rw [delete, findLive_ok hv hlive]; rfl, h.update hv _ ?_, ?_,
    rfl, rfl⟩
  · simp only [hlive, Bool.false_eq_true, if_false, if_true]
    omega
  · exact entriesOf_insert (fun k hk => (h.mem_order k).1 hk) _

theorem setLocation_revised (h : c.Lawful) {v : Variable} {old : Slot}
    (hv : c.slots[v.id]? = some old) (hlive : old.deleted = false) (location : Value) :
    ∃ after, c.setLocation v location = .ok after ∧
      c.Revised v.id { old with location := location } after := by
  refine ⟨_, by rw [setLocation, findLive_ok hv hlive]; rfl,
    h.update hv { old with location := location } rfl, ?_, rfl, rfl⟩
  exact entriesOf_insert (fun k hk => (h.mem_order k).1 hk) _

/-- A placing checks the id, then whether it is free, then the value. -/
theorem place_eq (c : Canvas) (v : Variable) (value location : Value) :
    c.place v value location =
      if 1 ≤ v.id ∧ v.id ≤ c.reserved then
        if c.slots.contains v.id then .error (.alreadyPlaced v)
        else value.asStatement.map fun s =>
          { c with
            slots := c.slots.insert v.id ⟨s, location, false⟩
            order := c.order ++ [v.id]
            live := c.live + 1 }
      else .error (.notReserved v) := by
  rw [place]
  by_cases hrange : 1 ≤ v.id ∧ v.id ≤ c.reserved
  · have hnot : ¬ (v.id = 0 ∨ c.reserved < v.id) := by omega
    rw [if_pos hrange]
    cases htaken : c.slots.contains v.id with
    | true => simp [hnot, bind, Except.bind, throw, throwThe, MonadExceptOf.throw]
    | false =>
      cases value.asStatement <;> simp [hnot, bind, Except.bind, pure, Except.pure, Except.map]
  · have hout : v.id = 0 ∨ c.reserved < v.id := by omega
    rw [if_neg hrange]
    simp [hout, bind, Except.bind, throw, throwThe, MonadExceptOf.throw]

/-- A reserved id that is free gets its entry at the end. -/
theorem place_ok (h : c.Lawful) {v : Variable} (hpos : 1 ≤ v.id) (hle : v.id ≤ c.reserved)
    (hfree : v.id ∉ c.order) {value : Value} {s : Statement} (hs : value.asStatement = .ok s)
    (location : Value) :
    ∃ after, c.place v value location = .ok after ∧ after.Lawful ∧
      after.entries = c.entries ++ [(v.id, ⟨s, location, false⟩)] ∧
      after.nextId = c.nextId ∧ after.reserved = c.reserved := by
  have hnone : c.slots[v.id]? = none := by
    cases hget : c.slots[v.id]? with
    | none => rfl
    | some slot => exact absurd ((h.mem_order v.id).2 ⟨slot, hget⟩) hfree
  have hcontains : c.slots.contains v.id = false := by
    rw [Std.TreeMap.contains_eq_isSome_getElem?, hnone]
    rfl
  have hlawful := h.insertion ⟨s, location, false⟩ (List.append_nil c.order).symm
    hfree hpos rfl (Nat.le_refl c.nextId) (Nat.lt_of_le_of_lt hle h.reserved_lt)
  refine ⟨_, ?_, hlawful, entriesOf_insert_between hfree List.not_mem_nil _, rfl, rfl⟩
  rw [place_eq, if_pos ⟨hpos, hle⟩, hcontains, hs]
  rfl

end Lawful

/-! ## Every edit -/

/-- Whether an edit leaves the ids alone that were set aside: it neither places a
statement under one nor gives all statements new ids. -/
def Edit.isOrdinary : Edit → Bool
  | .place .. | .renumber _ => false
  | _ => true

/-- The value that an edit takes for the address of a statement. -/
def Edit.address? : Edit → Option Value
  | .insertBefore v _ _ | .set v _ | .delete v | .setLocation v _ => some v
  | _ => none

/-- The statement that an edit overwrites on a canvas. -/
def overwrites (c : Canvas) (e : Edit) : Option Variable :=
  match e, (c.run e).2 with
  | .set (.variable v) _, .ok _ => some v
  | _, _ => none

theorem overwrites_of_error {c after : Canvas} {e : Edit} {fault : Fault}
    (h : c.run e = (after, .error fault)) : c.overwrites e = none := by
  unfold overwrites
  split
  · rename_i hok
    rw [h] at hok
    injection hok
  · rfl

/-- What an ordinary edit can do to the entries, and the statement it overwrites
by that. -/
inductive Change (c after : Canvas) : Option Variable → Prop
  /-- Nothing. -/
  | kept (entries : after.entries = c.entries) : Change c after none
  | grown {slot : Slot} {pre post : List (Nat × Slot)} (grown : c.Grown slot pre post after) :
    Change c after none
  /-- Another location, or a mark. -/
  | marked {id : Nat} {old new : Slot} (there : (id, old) ∈ c.entries)
    (statement : new.statement = old.statement) (revised : c.Revised id new after) :
    Change c after none
  | overwritten {v : Variable} {new : Slot} (revised : c.Revised v.id new after) :
    Change c after (some v)

/-- An ordinary edit keeps the canvas lawful, loses no id, and changes the entries
as `Change` says. -/
structure Step (c after : Canvas) (overwritten : Option Variable) : Prop where
  lawful : after.Lawful
  nextId_le : c.nextId ≤ after.nextId
  reserved : after.reserved = c.reserved
  change : c.Change after overwritten

namespace Step

variable {c after : Canvas} {changed : Option Variable}

/-- The ids that were set aside stand where they did. -/
theorem filter_reserved (step : c.Step after changed) (h : c.Lawful) :
    (after.entries.map Prod.fst).filter (· ≤ c.reserved) =
      (c.entries.map Prod.fst).filter (· ≤ c.reserved) := by
  cases step.change with
  | kept hentries => rw [hentries]
  | grown hgrown =>
    rw [hgrown.entries, hgrown.before]
    simp [Nat.not_le.2 h.reserved_lt]
  | marked _ _ hrevised => rw [hrevised.entries, map_fst_replaceSlot]
  | overwritten hrevised => rw [hrevised.entries, map_fst_replaceSlot]

/-- Under them are the statements of before, unless one was overwritten. -/
theorem exists_old (step : c.Step after changed) (h : c.Lawful) {id : Nat} {slot : Slot}
    (hmem : (id, slot) ∈ after.entries) (hid : id ≤ c.reserved) (hnot : ⟨id⟩ ∉ changed.toList) :
    ∃ old, (id, old) ∈ c.entries ∧ slot.statement = old.statement := by
  cases step.change with
  | kept hentries => exact ⟨slot, hentries ▸ hmem, rfl⟩
  | grown hgrown =>
    have := h.reserved_lt
    rw [hgrown.entries, List.mem_append, List.mem_cons] at hmem
    rw [hgrown.before]
    rcases hmem with hpre | heq | hpost
    · exact ⟨slot, List.mem_append_left _ hpre, rfl⟩
    · injection heq with hnew
      omega
    · exact ⟨slot, List.mem_append_right _ hpost, rfl⟩
  | marked hthere hstatement hrevised =>
    rw [hrevised.entries] at hmem
    rcases mem_replaceSlot hmem with ⟨rfl, rfl⟩ | ⟨-, hmem⟩
    · exact ⟨_, hthere, hstatement⟩
    · exact ⟨slot, hmem, rfl⟩
  | overwritten hrevised =>
    rw [hrevised.entries] at hmem
    rcases mem_replaceSlot hmem with ⟨rfl, -⟩ | ⟨-, hmem⟩
    · exact absurd List.mem_cons_self hnot
    · exact ⟨slot, hmem, rfl⟩

end Step

namespace Lawful

variable {c : Canvas}

theorem step_refl (h : c.Lawful) : c.Step c none :=
  ⟨h, Nat.le_refl _, rfl, .kept rfl⟩

theorem step_of_grown {slot : Slot} {pre post : List (Nat × Slot)} {after : Canvas}
    (h : c.Grown slot pre post after) : c.Step after none :=
  ⟨h.lawful, h.nextId ▸ Nat.le_succ _, h.reserved, .grown h⟩

theorem step_of_revised {id : Nat} {new : Slot} {after : Canvas} {overwritten : Option Variable}
    (h : c.Revised id new after) (change : c.Change after overwritten) :
    c.Step after overwritten :=
  ⟨h.lawful, h.nextId ▸ Nat.le_refl _, h.reserved, change⟩

theorem grow_step (h : c.Lawful) (value location : Value) (order : Nat → List Nat)
    {pre post : List Nat} (horder : c.order = pre ++ post)
    (hnew : order c.nextId = pre ++ c.nextId :: post) :
    c.Step (c.grow value location order).1 none := by
  cases hs : value.asStatement with
  | ok s =>
    obtain ⟨after, hgrow, hgrown⟩ := h.grow_grown hs location order horder hnew
    rw [hgrow]
    exact step_of_grown hgrown
  | error fault =>
    obtain ⟨hgrow, hlawful⟩ := h.grow_refused hs location order
    rw [hgrow]
    exact ⟨hlawful, Nat.le_succ _, rfl, .kept rfl⟩

theorem insertBefore_step (h : c.Lawful) (v : Variable) (value : Value)
    (location : Option Value) : c.Step (c.insertBefore v value location).1 none := by
  cases hv : c.slots[v.id]? with
  | none =>
    rw [insertBefore, find, hv]
    exact h.step_refl
  | some anchor =>
    obtain ⟨pre, post, horder, hnew⟩ := h.exists_split_order hv
    rw [insertBefore, find_ok hv]
    exact h.grow_step _ _ _ horder (hnew c.nextId)

theorem set_step (h : c.Lawful) (v : Variable) (value : Value) :
    c.Step (c.run (.set (.variable v) value)).1 (c.overwrites (.set (.variable v) value)) := by
  cases hv : c.slots[v.id]? with
  | none =>
    have hrun : c.run (.set (.variable v) value) = (c, .error (.notOnCanvas v)) := by
      simp [run, Value.asAddress, set, find, hv, settle, bind, Except.bind]
    rw [overwrites_of_error hrun, hrun]
    exact h.step_refl
  | some old =>
    cases hs : value.asStatement with
    | error fault =>
      have hrun : c.run (.set (.variable v) value) = (c, .error fault) := by
        simp [run, Value.asAddress, set, find, hv, hs, settle, bind, Except.bind]
      rw [overwrites_of_error hrun, hrun]
      exact h.step_refl
    | ok s =>
      obtain ⟨after, hset, hrevised⟩ := h.set_revised hv hs
      have hrun : c.run (.set (.variable v) value) = (after, .ok .done) := by
        simp [run, Value.asAddress, Except.bind, hset, settle]
      have hsome : c.overwrites (.set (.variable v) value) = some v := by
        simp [overwrites, hrun]
      rw [hsome, hrun]
      exact step_of_revised hrevised (.overwritten hrevised)

/-- An edit of a live statement that leaves the statement what it is. -/
theorem settle_step (h : c.Lawful) {v : Variable} {outcome : Except Fault Canvas}
    (hdead : ∀ fault, c.findLive v = .error fault → outcome = .error fault)
    (hlive : ∀ old, c.slots[v.id]? = some old → old.deleted = false →
      ∃ after new, outcome = .ok after ∧ new.statement = old.statement ∧
        c.Revised v.id new after) :
    c.Step (c.settle .done outcome).1 none := by
  cases hfind : c.findLive v with
  | error fault =>
    rw [hdead fault hfind, settle]
    exact h.step_refl
  | ok old =>
    obtain ⟨hold, hnot⟩ := findLive_eq_ok hfind
    obtain ⟨after, new, houtcome, hstatement, hrevised⟩ := hlive old hold hnot
    rw [houtcome, settle]
    exact step_of_revised hrevised (.marked (h.mem_entries.2 hold) hstatement hrevised)

theorem delete_step (h : c.Lawful) (v : Variable) :
    c.Step (c.run (.delete (.variable v))).1 none := by
  refine h.settle_step (v := v) ?_ ?_
  · intro fault hfind
    show c.delete v = .error fault
    simp [delete, hfind, bind, Except.bind]
  · intro old hold hlive
    obtain ⟨after, hdelete, hrevised⟩ := h.delete_revised hold hlive
    exact ⟨after, { old with deleted := true }, hdelete, rfl, hrevised⟩

theorem setLocation_step (h : c.Lawful) (v : Variable) (location : Value) :
    c.Step (c.run (.setLocation (.variable v) location)).1 none := by
  refine h.settle_step (v := v) ?_ ?_
  · intro fault hfind
    show c.setLocation v location = .error fault
    simp [setLocation, hfind, bind, Except.bind]
  · intro old hold hlive
    obtain ⟨after, hset, hrevised⟩ := h.setLocation_revised hold hlive location
    exact ⟨after, { old with location := location }, hset, rfl, hrevised⟩

/-- An edit that is given no address for a statement fails. -/
theorem step_of_bad_address (h : c.Lawful) {e : Edit} {v : Value} (hv : e.address? = some v)
    (hbad : v.asAddress = .error (.canvasAddress v)) : c.Step (c.run e).1 (c.overwrites e) := by
  have hrun : c.run e = (c, .error (.canvasAddress v)) := by
    cases e with
    | insertBefore _ _ _ | set _ _ | delete _ | setLocation _ _ =>
      injection hv with hv
      simp [run, hv, hbad, settle, Except.bind]
    | append _ _ | pushFirst _ _ | place _ _ _ | renumber _ => injection hv
  rw [overwrites_of_error hrun, hrun]
  exact h.step_refl

theorem run_step (h : c.Lawful) {e : Edit} (ho : e.isOrdinary = true) :
    c.Step (c.run e).1 (c.overwrites e) := by
  cases e with
  | append value location =>
    exact h.grow_step value _ (fun id => c.order ++ [id]) (List.append_nil c.order).symm rfl
  | pushFirst value location =>
    exact h.grow_step value _ (fun id => id :: c.order) (List.nil_append c.order).symm rfl
  | insertBefore anchor value location =>
    rcases anchor.asAddress_cases with ⟨v, rfl⟩ | hbad
    · exact h.insertBefore_step v value location
    · exact h.step_of_bad_address rfl hbad
  | set target value =>
    rcases target.asAddress_cases with ⟨v, rfl⟩ | hbad
    · exact h.set_step v value
    · exact h.step_of_bad_address rfl hbad
  | delete target =>
    rcases target.asAddress_cases with ⟨v, rfl⟩ | hbad
    · exact h.delete_step v
    · exact h.step_of_bad_address rfl hbad
  | setLocation target location =>
    rcases target.asAddress_cases with ⟨v, rfl⟩ | hbad
    · exact h.setLocation_step v location
    · exact h.step_of_bad_address rfl hbad
  | place target value location => exact absurd ho Bool.false_ne_true
  | renumber strict => exact absurd ho Bool.false_ne_true

end Lawful

end Canvas
end SsaEdit
