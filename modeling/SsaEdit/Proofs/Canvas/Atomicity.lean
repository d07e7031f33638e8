/-
An edit that fails leaves the canvas as it was.

`Canvas.Fails` lists the ways in which an edit can fail, each with what is left of the
canvas; `Lawful.run_error_iff` shows that there are no others.  All checks come before the
first change, with one exception: a fresh id is taken before the value that it is for is
looked at, so it is used up when that value is no statement.  A strict renumbering looks
at all references before it stores anything, and fails exactly if the lenient one would
find a dangling one.
-/
import SsaEdit.Proofs.Canvas.Compaction

namespace SsaEdit

theorem Value.asStatement_eq_error {value : Value} {fault : Fault} :
    value.asStatement = .error fault ↔
      value.toStatement? = none ∧ fault = .notAStatement value := by
  rw [asStatement]
  cases value.toStatement? with
  | some s => exact iff_of_false (ok_ne_error s fault) fun h => Option.some_ne_none s h.1
  | none =>
    rw [Except.error.injEq, eq_comm]
    exact (and_iff_right rfl).symm

theorem Value.asAddress_eq_error {v : Value} {fault : Fault} :
    v.asAddress = .error fault ↔ (∀ w, v ≠ .variable w) ∧ fault = .canvasAddress v := by
  unfold asAddress
  split
  · exact iff_of_false (ok_ne_error _ fault) fun h => h.1 _ rfl
  · rename_i hbad
    rw [Except.error.injEq, eq_comm]
    exact (and_iff_right hbad).symm

namespace Canvas

/-! ## Ways to fail -/

/-- The value that an edit takes for a variable. -/
def Edit.target? : Edit → Option Value
  | .place v _ _ => some v
  | e => e.address?

/-- Whether an edit works on a statement that has to be live. -/
def Edit.needsLive : Edit → Bool
  | .delete _ | .setLocation .. => true
  | _ => false

/-- An edit asks for a fresh id for a value: at an end of the canvas, or before a slot that
is there. -/
inductive AsksFor (c : Canvas) : Edit → Value → Prop
  | append (value : Value) (location : Option Value) : AsksFor c (.append value location) value
  | pushFirst (value : Value) (location : Option Value) :
    AsksFor c (.pushFirst value location) value
  | insertBefore {v : Variable} (hthere : v.id ∈ c.slots) (value : Value)
    (location : Option Value) : AsksFor c (.insertBefore (.variable v) value location) value

/-- An edit fails, with the canvas that it leaves and the fault. -/
inductive Fails (c : Canvas) : Edit → Canvas → Fault → Prop
  /-- It is given no variable. -/
  | address {e : Edit} {v : Value} (htarget : e.target? = some v) (hbad : ∀ w, v ≠ .variable w) :
    Fails c e c (.canvasAddress v)
  /-- There is no slot under the variable. -/
  | missing {e : Edit} {v : Variable} (haddress : e.address? = some (.variable v))
    (hnone : v.id ∉ c.slots) : Fails c e c (.notOnCanvas v)
  | deleted {e : Edit} {v : Variable} {slot : Slot} (haddress : e.address? = some (.variable v))
    (hneeds : e.needsLive = true) (hslot : c.slots[v.id]? = some slot)
    (hdeleted : slot.deleted = true) : Fails c e c (.deleted v)
  | notReserved {v : Variable} (hout : ¬ (1 ≤ v.id ∧ v.id ≤ c.reserved)) (value location : Value) :
    Fails c (.place (.variable v) value location) c (.notReserved v)
  | alreadyPlaced {v : Variable} (hin : 1 ≤ v.id ∧ v.id ≤ c.reserved) (hthere : v.id ∈ c.slots)
    (value location : Value) : Fails c (.place (.variable v) value location) c (.alreadyPlaced v)
  | placed {v : Variable} {value : Value} (hin : 1 ≤ v.id ∧ v.id ≤ c.reserved)
    (hfree : v.id ∉ c.slots) (hbad : value.toStatement? = none) (location : Value) :
    Fails c (.place (.variable v) value location) c (.notAStatement value)
  | set {v : Variable} {value : Value} (hthere : v.id ∈ c.slots)
    (hbad : value.toStatement? = none) : Fails c (.set (.variable v) value) c (.notAStatement value)
  /-- A fresh id was taken for a value that is no statement. -/
  | wasted {e : Edit} {value : Value} (hasks : c.AsksFor e value)
    (hbad : value.toStatement? = none) :
    Fails c e { c with nextId := c.nextId + 1 } (.notAStatement value)
  /-- A live statement has a reference to one that is not live. -/
  | dangling (hsome : c.danglingAmong c.liveEntries ≠ []) :
    Fails c (.renumber true) c (.dangling (c.danglingAmong c.liveEntries))

/-! ## One operation after the other -/

variable {c after : Canvas} {v : Variable} {value location : Value} {fault : Fault}

theorem find_eq_error : c.find v = .error fault ↔ v.id ∉ c.slots ∧ fault = .notOnCanvas v := by
  rw [mem_slots_iff, find]
  cases c.slots[v.id]? with
  | some slot => exact iff_of_false (ok_ne_error slot fault) fun h => h.1 ⟨slot, rfl⟩
  | none =>
    rw [Except.error.injEq, eq_comm]
    refine (and_iff_right ?_).symm
    rintro ⟨_, hslot⟩
    cases hslot

theorem exists_find_iff : (∃ slot, c.find v = .ok slot) ↔ v.id ∈ c.slots := by
  rw [mem_slots_iff]
  exact exists_congr fun slot => ⟨find_eq_ok, find_ok⟩

theorem findLive_eq_error : c.findLive v = .error fault ↔
    (v.id ∉ c.slots ∧ fault = .notOnCanvas v) ∨
      ∃ slot, c.slots[v.id]? = some slot ∧ slot.deleted = true ∧ fault = .deleted v := by
  rw [findLive, bind_eq_error, find_eq_error]
  refine or_congr Iff.rfl (exists_congr fun slot => ?_)
  refine and_congr ⟨find_eq_ok, find_ok⟩ ?_
  cases slot.deleted with
  | false => exact iff_of_false (ok_ne_error slot fault) fun h => Bool.false_ne_true h.1
  | true =>
    show Except.error _ = _ ↔ _
    rw [Except.error.injEq, eq_comm]
    exact (and_iff_right rfl).symm

/-- An operation that changes nothing when it fails. -/
theorem settle_eq_error {answer : Answer} {outcome : Except Fault Canvas} :
    c.settle answer outcome = (after, .error fault) ↔ after = c ∧ outcome = .error fault := by
  cases outcome with
  | ok changed =>
    exact iff_of_false (fun h => ok_ne_error answer fault (congrArg Prod.snd h)) fun h =>
      ok_ne_error changed fault h.2
  | error cause =>
    rw [settle, Prod.mk.injEq, Except.error.injEq, Except.error.injEq, eq_comm]

/-- A fresh id is used up by a value that is no statement. -/
theorem grow_eq_error {order : Nat → List Nat} :
    c.grow value location order = (after, .error fault) ↔
      value.toStatement? = none ∧ after = { c with nextId := c.nextId + 1 } ∧
        fault = .notAStatement value := by
  rw [grow]
  cases hs : value.asStatement with
  | ok s =>
    refine iff_of_false (fun h => ok_ne_error _ fault (congrArg Prod.snd h)) fun h => ?_
    rw [Value.asStatement_eq_error.2 ⟨h.1, rfl⟩] at hs
    cases hs
  | error cause =>
    obtain ⟨hbad, rfl⟩ := Value.asStatement_eq_error.1 hs
    rw [Prod.mk.injEq, Except.error.injEq, eq_comm, and_iff_right hbad, eq_comm (a := fault)]

theorem set_eq_error : c.set v value = .error fault ↔
    (v.id ∉ c.slots ∧ fault = .notOnCanvas v) ∨
      (v.id ∈ c.slots ∧ value.toStatement? = none ∧ fault = .notAStatement value) := by
  rw [Canvas.set, bind_eq_error, find_eq_error]
  refine or_congr Iff.rfl ?_
  rw [← exists_find_iff, ← Value.asStatement_eq_error, ← exists_and_right]
  refine exists_congr fun slot => and_congr Iff.rfl ?_
  rw [bind_eq_error]
  refine or_iff_left ?_
  rintro ⟨_, -, h⟩
  exact ok_ne_error _ fault h

theorem delete_eq_error : c.delete v = .error fault ↔ c.findLive v = .error fault := by
  rw [Canvas.delete, bind_eq_error]
  refine or_iff_left ?_
  rintro ⟨_, -, h⟩
  exact ok_ne_error _ fault h

theorem setLocation_eq_error : c.setLocation v location = .error fault ↔
    c.findLive v = .error fault := by
  rw [Canvas.setLocation, bind_eq_error]
  refine or_iff_left ?_
  rintro ⟨_, -, h⟩
  exact ok_ne_error _ fault h

/-! ## Every edit -/

/-- What is left is the canvas as it was, but for the fresh id. -/
theorem Fails.kept {e : Edit} (h : c.Fails e after fault) :
    after = c ∨ (after = { c with nextId := c.nextId + 1 } ∧
      ∃ value, c.AsksFor e value ∧ value.toStatement? = none) := by
  cases h with
  | wasted hasks hbad => exact Or.inr ⟨rfl, _, hasks, hbad⟩
  | _ => exact Or.inl rfl

theorem run_insertBefore (location : Option Value) :
    c.run (.insertBefore (.variable v) value location) =
      ((c.insertBefore v value location).1, (c.insertBefore v value location).2.map .id) := rfl

/-- An edit that asks for a fresh id fails for its value alone. -/
theorem AsksFor.run_eq_error {e : Edit} (hasks : c.AsksFor e value) :
    c.run e = (after, .error fault) ↔ value.toStatement? = none ∧
      after = { c with nextId := c.nextId + 1 } ∧ fault = .notAStatement value := by
  have hgrow : ∀ location order,
      ((c.grow value location order).1, (c.grow value location order).2.map Answer.id) =
          (after, .error fault) ↔ value.toStatement? = none ∧
        after = { c with nextId := c.nextId + 1 } ∧ fault = .notAStatement value := by
    intro location order
    rw [Prod.mk.injEq, map_eq_error, ← Prod.mk.injEq]
    exact grow_eq_error
  cases hasks with
  | append _ location => exact hgrow (location.getD c.lastLocation) fun id => c.order ++ [id]
  | pushFirst _ location => exact hgrow (location.getD c.firstLocation) fun id => id :: c.order
  | insertBefore hthere _ location =>
    obtain ⟨slot, hslot⟩ := exists_find_iff.2 hthere
    rw [run_insertBefore, Canvas.insertBefore, hslot]
    exact hgrow _ _

namespace Fails

theorem of_findLive {e : Edit} (haddress : e.address? = some (.variable v))
    (hneeds : e.needsLive = true) (h : c.findLive v = .error fault) : c.Fails e c fault := by
  rcases findLive_eq_error.1 h with ⟨hnone, rfl⟩ | ⟨slot, hslot, hdeleted, rfl⟩
  · exact .missing haddress hnone
  · exact .deleted haddress hneeds hslot hdeleted

/-- An edit fails because it is given no variable, or because its operation does. -/
theorem of_target {e : Edit} {target : Value} (htarget : e.target? = some target)
    {operation : Variable → Except Fault Canvas}
    (hfails : target.asAddress.bind operation = .error fault)
    (hoperation : ∀ v, target = .variable v → operation v = .error fault → c.Fails e c fault) :
    c.Fails e c fault := by
  rcases target.asAddress_cases with ⟨v, rfl⟩ | hbad
  · exact hoperation v rfl hfails
  · rw [hbad] at hfails
    obtain rfl := Except.error.inj hfails
    exact .address htarget (Value.asAddress_eq_error.1 hbad).1

theorem of_place {value location : Value} (h : c.place v value location = .error fault) :
    c.Fails (.place (.variable v) value location) c fault := by
  rw [Lawful.place_eq] at h
  split at h
  case isFalse hout =>
    obtain rfl := Except.error.inj h
    exact .notReserved hout value location
  case isTrue hin =>
    split at h
    case isTrue hthere =>
      obtain rfl := Except.error.inj h
      exact .alreadyPlaced hin (Std.TreeMap.mem_iff_contains.2 hthere) value location
    case isFalse hfree =>
      rw [map_eq_error] at h
      obtain ⟨hbad, rfl⟩ := Value.asStatement_eq_error.1 h
      exact .placed hin (fun hthere => hfree (Std.TreeMap.mem_iff_contains.1 hthere)) hbad location

end Fails

theorem renumber_eq_error {strict : Bool} : c.renumber strict = .error fault ↔
    strict = true ∧ c.renumbering.dangling ≠ [] ∧ fault = .dangling c.renumbering.dangling := by
  rw [renumber]
  cases strict with
  | false => exact iff_of_false (ok_ne_error _ fault) fun h => Bool.false_ne_true h.1
  | true =>
    cases hd : c.renumbering.dangling with
    | nil => simp
    | cons d rest => simp [eq_comm]

theorem renumber_true_eq_ok {outcome : Renumbering} : c.renumber true = .ok (after, outcome) ↔
    c.renumber false = .ok (after, outcome) ∧ outcome.dangling = [] := by
  have hlenient : c.renumber false = .ok (c.renumbered, c.renumbering) := rfl
  rw [hlenient, Except.ok.injEq, Prod.mk.injEq, renumber]
  cases hd : c.renumbering.dangling with
  | nil =>
    constructor
    · intro h
      obtain ⟨rfl, rfl⟩ := Prod.mk.inj (Except.ok.inj h)
      exact ⟨⟨rfl, rfl⟩, hd⟩
    · rintro ⟨⟨rfl, rfl⟩, -⟩
      rfl
  | cons d rest =>
    refine iff_of_false (ok_ne_error _ _).symm ?_
    rintro ⟨⟨-, rfl⟩, hnone⟩
    rw [hd] at hnone
    cases hnone

namespace Lawful

theorem fails_of_run (h : c.Lawful) {e : Edit} (hrun : c.run e = (after, .error fault)) :
    c.Fails e after fault := by
  have hasked : ∀ {value}, c.AsksFor e value → c.Fails e after fault := by
    intro value hasks
    obtain ⟨hbad, rfl, rfl⟩ := hasks.run_eq_error.1 hrun
    exact .wasted hasks hbad
  cases e with
  | append value location => exact hasked (.append value location)
  | pushFirst value location => exact hasked (.pushFirst value location)
  | insertBefore anchor value location =>
    rcases anchor.asAddress_cases with ⟨v, rfl⟩ | hbad
    · by_cases hthere : v.id ∈ c.slots
      · exact hasked (.insertBefore hthere value location)
      · have hfind := find_eq_error.2 ⟨hthere, rfl⟩
        rw [run_insertBefore, Canvas.insertBefore, hfind] at hrun
        obtain ⟨rfl, hfault⟩ := Prod.mk.inj hrun
        obtain rfl := Except.error.inj hfault
        exact .missing rfl hthere
    · rw [run, hbad] at hrun
      obtain ⟨rfl, hfault⟩ := Prod.mk.inj hrun
      obtain rfl := Except.error.inj hfault
      exact .address rfl (Value.asAddress_eq_error.1 hbad).1
  | place target value location =>
    rcases target.asAddress_cases with ⟨v, rfl⟩ | hbad
    · obtain ⟨rfl, hplace⟩ := settle_eq_error.1 hrun
      exact .of_place hplace
    · rw [run, hbad] at hrun
      obtain ⟨rfl, hfault⟩ := Prod.mk.inj hrun
      obtain rfl := Except.error.inj hfault
      exact .address rfl (Value.asAddress_eq_error.1 hbad).1
  | set target value =>
    obtain ⟨rfl, hset⟩ := settle_eq_error.1 hrun
    refine .of_target rfl hset ?_
    rintro v rfl hset
    rcases set_eq_error.1 hset with ⟨hnone, rfl⟩ | ⟨hthere, hbad, rfl⟩
    · exact .missing rfl hnone
    · exact .set hthere hbad
  | delete target =>
    obtain ⟨rfl, hdelete⟩ := settle_eq_error.1 hrun
    refine .of_target rfl hdelete ?_
    rintro v rfl hdelete
    exact .of_findLive rfl rfl (delete_eq_error.1 hdelete)
  | setLocation target location =>
    obtain ⟨rfl, hset⟩ := settle_eq_error.1 hrun
    refine .of_target rfl hset ?_
    rintro v rfl hset
    exact .of_findLive rfl rfl (setLocation_eq_error.1 hset)
  | renumber strict =>
    rw [run] at hrun
    cases hrenumber : c.renumber strict with
    | ok done =>
      rw [hrenumber] at hrun
      cases hrun
    | error cause =>
      rw [hrenumber] at hrun
      obtain ⟨rfl, hfault⟩ := Prod.mk.inj hrun
      obtain rfl := Except.error.inj hfault
      obtain ⟨rfl, hsome, rfl⟩ := renumber_eq_error.1 hrenumber
      rw [h.dangling_eq] at hsome ⊢
      exact .dangling hsome

theorem run_of_fails (h : c.Lawful) {e : Edit} (hfails : c.Fails e after fault) :
    c.run e = (after, .error fault) := by
  cases hfails with
  | @address _ v htarget hbad =>
    have haddress := Value.asAddress_eq_error.2 ⟨hbad, rfl⟩
    cases e with
    | append _ _ | pushFirst _ _ | renumber _ => cases htarget
    | insertBefore _ _ _ | place _ _ _ =>
      obtain rfl := Option.some.inj htarget
      rw [run, haddress]
    | set _ _ | delete _ | setLocation _ _ =>
      obtain rfl := Option.some.inj htarget
      rw [run, haddress]
      rfl
  | missing haddress hnone =>
    have hfind := find_eq_error.2 ⟨hnone, rfl⟩
    have hfindLive := findLive_eq_error.2 (Or.inl ⟨hnone, rfl⟩)
    cases e with
    | append _ _ | pushFirst _ _ | place _ _ _ | renumber _ => cases haddress
    | insertBefore _ _ _ =>
      obtain rfl := Option.some.inj haddress
      rw [run_insertBefore, Canvas.insertBefore, hfind]
      rfl
    | set _ _ =>
      obtain rfl := Option.some.inj haddress
      exact settle_eq_error.2 ⟨rfl, set_eq_error.2 (Or.inl ⟨hnone, rfl⟩)⟩
    | delete _ =>
      obtain rfl := Option.some.inj haddress
      exact settle_eq_error.2 ⟨rfl, delete_eq_error.2 hfindLive⟩
    | setLocation _ _ =>
      obtain rfl := Option.some.inj haddress
      exact settle_eq_error.2 ⟨rfl, setLocation_eq_error.2 hfindLive⟩
  | deleted haddress hneeds hslot hdeleted =>
    have hfindLive := findLive_eq_error.2 (Or.inr ⟨_, hslot, hdeleted, rfl⟩)
    cases e with
    | append _ _ | pushFirst _ _ | insertBefore _ _ _ | place _ _ _ | set _ _ | renumber _ =>
      cases hneeds
    | delete _ =>
      obtain rfl := Option.some.inj haddress
      exact settle_eq_error.2 ⟨rfl, delete_eq_error.2 hfindLive⟩
    | setLocation _ _ =>
      obtain rfl := Option.some.inj haddress
      exact settle_eq_error.2 ⟨rfl, setLocation_eq_error.2 hfindLive⟩
  | notReserved hout value location =>
    refine settle_eq_error.2 ⟨rfl, ?_⟩
    rw [place_eq, if_neg hout]
  | alreadyPlaced hin hthere value location =>
    refine settle_eq_error.2 ⟨rfl, ?_⟩
    rw [place_eq, if_pos hin, if_pos (Std.TreeMap.mem_iff_contains.1 hthere)]
  | placed hin hfree hbad location =>
    refine settle_eq_error.2 ⟨rfl, ?_⟩
    rw [place_eq, if_pos hin, if_neg fun hthere => hfree (Std.TreeMap.mem_iff_contains.2 hthere),
      map_eq_error]
    exact Value.asStatement_eq_error.2 ⟨hbad, rfl⟩
  | set hthere hbad =>
    exact settle_eq_error.2 ⟨rfl, set_eq_error.2 (Or.inr ⟨hthere, hbad, rfl⟩)⟩
  | wasted hasks hbad => exact hasks.run_eq_error.2 ⟨hbad, rfl, rfl⟩
  | dangling hsome =>
    rw [← h.dangling_eq] at hsome
    rw [run, renumber_eq_error.2 ⟨rfl, hsome, rfl⟩, h.dangling_eq]

end Lawful

/-! ## Atomicity -/

/-- What failing does to a canvas. -/
structure Atomic (c : Canvas) : Prop where
  /-- There are no other ways to fail than those that are listed. -/
  fails : ∀ e after fault, c.run e = (after, .error fault) ↔ c.Fails e after fault
  /-- Everything but the next fresh id is what it was. -/
  kept : ∀ e after fault, c.run e = (after, .error fault) →
    after = { c with nextId := after.nextId }
  /-- That id is the same, or the one after it. -/
  nextId : ∀ e after fault, c.run e = (after, .error fault) →
    after.nextId = c.nextId ∨ after.nextId = c.nextId + 1
  /-- It is the one after exactly if the edit asked for an id for something that is no
  statement, and then the edit does fail. -/
  wasted : ∀ e, (∃ after fault, c.run e = (after, .error fault) ∧ after.nextId = c.nextId + 1) ↔
    ∃ value, c.AsksFor e value ∧ value.toStatement? = none
  /-- A strict renumbering fails exactly if the lenient one notes a dangling reference, and
  then with all that it notes. -/
  strict : ∀ fault, c.renumber true = .error fault ↔ ∃ after outcome,
    c.renumber false = .ok (after, outcome) ∧ outcome.dangling ≠ [] ∧
      fault = .dangling outcome.dangling
  /-- If it does not fail it does the same. -/
  lenient : ∀ after outcome, c.renumber true = .ok (after, outcome) ↔
    c.renumber false = .ok (after, outcome) ∧ outcome.dangling = []

theorem Lawful.atomic (h : c.Lawful) : c.Atomic where
  fails _ _ _ := ⟨h.fails_of_run, h.run_of_fails⟩
  kept e after fault hrun := by
    rcases (h.fails_of_run hrun).kept with rfl | ⟨rfl, -⟩
    · rfl
    · rfl
  nextId e after fault hrun := by
    rcases (h.fails_of_run hrun).kept with rfl | ⟨rfl, -⟩
    · exact Or.inl rfl
    · exact Or.inr rfl
  wasted e := by
    constructor
    · rintro ⟨after, fault, hrun, hnext⟩
      rcases (h.fails_of_run hrun).kept with rfl | ⟨-, hasked⟩
      · exact absurd hnext (Nat.ne_of_lt (Nat.lt_succ_self _))
      · exact hasked
    · rintro ⟨value, hasks, hbad⟩
      exact ⟨_, _, hasks.run_eq_error.2 ⟨hbad, rfl, rfl⟩, rfl⟩
  strict fault := by
    rw [renumber_eq_error, and_iff_right rfl]
    constructor
    · exact fun ⟨hsome, hfault⟩ => ⟨_, _, rfl, hsome, hfault⟩
    · rintro ⟨after, outcome, hlenient, hsome, rfl⟩
      obtain ⟨-, rfl⟩ := Prod.mk.inj (Except.ok.inj hlenient)
      exact ⟨hsome, rfl⟩
  lenient _ _ := renumber_true_eq_ok

/-- On any canvas that edits can lead to, an edit that fails leaves everything as it was,
but that it may have used up a fresh id for a value that is no statement. -/
theorem runAll_atomic (reserved : Nat) (edits : List Edit) :
    ((empty reserved).runAll edits).Atomic :=
  ((empty_lawful reserved).runAll_lawful edits).atomic

end Canvas
end SsaEdit
