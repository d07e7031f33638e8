/-
A canvas is a plain list of entries.

`Roll` is that list with the two numbers that decide about ids, and `Roll.run` says
what every edit does to it: a new entry is put at one place, or the entry under an id
is replaced where it stands.  `Lawful.roll_run` shows that a lawful canvas does the
same as its roll and gives the same answer, so by `roll_runAll` a canvas and a roll
that start empty stay in step through any edits.  `Roll.run_gives` reads off which ids an
edit adds.
-/
import SsaEdit.Proofs.Canvas.Bookkeeping
import SsaEdit.Proofs.Results

namespace SsaEdit

namespace Canvas

/-- Statements in program order, deleted ones included, with the number of ids that
are set aside and the next fresh id. -/
structure Roll where
  entries : List (Nat × Slot)
  reserved : Nat
  nextId : Nat

/-- The roll of a canvas. -/
def roll (c : Canvas) : Roll := ⟨c.entries, c.reserved, c.nextId⟩

namespace Roll

def empty (reserved : Nat) : Roll := ⟨[], reserved, reserved + 1⟩

/-! ## Reading a roll -/

/-- The entries that are not deleted. -/
def live (r : Roll) : List (Nat × Slot) := r.entries.filter fun entry => !entry.2.deleted

/-- The slot under an id, deleted or not. -/
def find (r : Roll) (v : Variable) : Except Fault Slot :=
  match r.entries.lookup v.id with
  | some slot => .ok slot
  | none => .error (.notOnCanvas v)

def findLive (r : Roll) (v : Variable) : Except Fault Slot :=
  match r.entries.lookup v.id with
  | some slot => if slot.deleted then .error (.deleted v) else .ok slot
  | none => .error (.notOnCanvas v)

def get (r : Roll) (v : Variable) : Except Fault Statement := (r.findLive v).map Slot.statement

def location (r : Roll) (v : Variable) : Except Fault Value := (r.findLive v).map Slot.location

/-- Whether there is a live entry under an id. -/
def contains (r : Roll) (v : Variable) : Bool := r.live.any fun entry => entry.1 = v.id

/-- The location of the last live entry, or 0 if there is none. -/
def lastLocation (r : Roll) : Value :=
  (r.live.getLast?.map fun entry => entry.2.location).getD (.int 0)

/-- The location of the first entry, deleted or not, or 0 if there is none. -/
def firstLocation (r : Roll) : Value :=
  (r.entries.head?.map fun entry => entry.2.location).getD (.int 0)

/-! ## Editing a roll -/

/-- Put an entry directly before the one under an id. -/
def putBefore (id : Nat) (new : Nat × Slot) (entries : List (Nat × Slot)) : List (Nat × Slot) :=
  entries.flatMap fun entry => if entry.1 = id then [new, entry] else [entry]

/-- Add a live entry under the next fresh id.  The id is used up also when the value is
no statement, and then the entries stay as they are. -/
def add (r : Roll) (value location : Value) (place : Nat × Slot → List (Nat × Slot)) :
    Roll × Except Fault Answer :=
  match value.asStatement with
  | .ok s =>
    (⟨place (r.nextId, ⟨s, location, false⟩), r.reserved, r.nextId + 1⟩, .ok (.id ⟨r.nextId⟩))
  | .error fault => (⟨r.entries, r.reserved, r.nextId + 1⟩, .error fault)

/-- Take other entries, unless there was a fault. -/
def settle (r : Roll) (answer : Answer) :
    Except Fault (List (Nat × Slot)) → Roll × Except Fault Answer
  | .ok entries => (⟨entries, r.reserved, r.nextId⟩, .ok answer)
  | .error fault => (r, .error fault)

/-- The entries after another slot was put in the place of a live one. -/
def revise (r : Roll) (v : Variable) (change : Slot → Slot) : Except Fault (List (Nat × Slot)) :=
  (r.findLive v).map fun slot => replaceSlot v.id (change slot) r.entries

/-- The entries after a statement was replaced, with the entry live again where it
stood. -/
def overwrite (r : Roll) (v : Variable) (value : Value) : Except Fault (List (Nat × Slot)) := do
  let slot ← r.find v
  let s ← value.asStatement
  return replaceSlot v.id { slot with statement := s, deleted := false } r.entries

/-- The entries after one was put at the end under an id that is set aside and free. -/
def place (r : Roll) (v : Variable) (value location : Value) :
    Except Fault (List (Nat × Slot)) :=
  if 1 ≤ v.id ∧ v.id ≤ r.reserved then
    match r.entries.lookup v.id with
    | some _ => .error (.alreadyPlaced v)
    | none => value.asStatement.map fun s => r.entries ++ [(v.id, ⟨s, location, false⟩)]
  else .error (.notReserved v)

/-- What a renumbering would do: the live entries get the numbers from 1 on. -/
def renumbering (r : Roll) : Renumbering where
  mapping := (r.live.map (·.1)).zip (List.range' 1 r.live.length)
  dangling := r.live.flatMap fun (id, slot) => Renumbering.danglingIn
    ((r.live.map (·.1)).zip (List.range' 1 r.live.length)) id slot.statement.node
  dropped := (r.entries.filter fun entry => entry.2.deleted).length

/-- The roll after a renumbering: the live entries alone, and no id is set aside. -/
def renumbered (r : Roll) : Roll where
  entries := (List.range' 1 r.live.length).zip
    (r.live.map fun entry => entry.2.renumbered r.renumbering.mapping)
  reserved := 0
  nextId := r.live.length + 1

/-- Perform an edit. -/
def run (r : Roll) : Edit → Roll × Except Fault Answer
  | .append value location =>
    r.add value (location.getD r.lastLocation) fun new => r.entries ++ [new]
  | .pushFirst value location =>
    r.add value (location.getD r.firstLocation) fun new => new :: r.entries
  | .insertBefore anchor value location =>
    match anchor.asAddress with
    | .error fault => (r, .error fault)
    | .ok v =>
      match r.find v with
      | .error fault => (r, .error fault)
      | .ok slot =>
        r.add value (location.getD slot.location) fun new => putBefore v.id new r.entries
  | .place target value location =>
    match target.asAddress with
    | .error fault => (r, .error fault)
    | .ok v => r.settle (.id v) (r.place v value location)
  | .set target value => r.settle .done (target.asAddress.bind fun v => r.overwrite v value)
  | .delete target =>
    r.settle .done (target.asAddress.bind fun v => r.revise v fun slot =>
      { slot with deleted := true })
  | .setLocation target location =>
    r.settle .done (target.asAddress.bind fun v => r.revise v fun slot =>
      { slot with location := location })
  | .renumber strict =>
    if strict && !r.renumbering.dangling.isEmpty then (r, .error (.dangling r.renumbering.dangling))
    else (r.renumbered, .ok (.renumbered r.renumbering))

/-- The roll after some edits, whether they failed or not. -/
def runAll (r : Roll) (edits : List Edit) : Roll := edits.foldl (fun r e => (r.run e).1) r

end Roll

/-! ## Looking up in the list -/

theorem lookup_of_mem {entries : List (Nat × Slot)} (hnd : (entries.map Prod.fst).Nodup) {id : Nat}
    {slot : Slot} (hmem : (id, slot) ∈ entries) : entries.lookup id = some slot := by
  induction entries with
  | nil => cases hmem
  | cons entry rest ih =>
    rw [List.map_cons, List.nodup_cons] at hnd
    rw [List.lookup_cons]
    by_cases h : id = entry.1
    · have hsame : entry = (id, slot) := by
        rcases List.mem_cons.1 hmem with heq | hrest
        · exact heq.symm
        · exact absurd (h ▸ List.mem_map.2 ⟨_, hrest, rfl⟩) hnd.1
      simp [hsame]
    · have hrest : (id, slot) ∈ rest := by
        rcases List.mem_cons.1 hmem with heq | hrest
        · exact absurd (congrArg Prod.fst heq) h
        · exact hrest
      have hbeq : (id == entry.1) = false := by simpa using h
      rw [hbeq]
      exact ih hnd.2 hrest

theorem lookup_of_not_mem {entries : List (Nat × Slot)} {id : Nat}
    (hnot : id ∉ entries.map Prod.fst) : entries.lookup id = none := by
  rw [List.lookup_eq_none_iff]
  intro entry hentry
  have hne : id ≠ entry.1 := fun e => hnot (List.mem_map.2 ⟨entry, hentry, e.symm⟩)
  simpa using hne

theorem putBefore_of_not_mem {id : Nat} {entries : List (Nat × Slot)}
    (hnot : id ∉ entries.map Prod.fst) (new : Nat × Slot) :
    Roll.putBefore id new entries = entries := by
  induction entries with
  | nil => rfl
  | cons entry rest ih =>
    rw [List.map_cons, List.mem_cons, not_or] at hnot
    have hrest : Roll.putBefore id new rest = rest := ih hnot.2
    show (if entry.1 = id then [new, entry] else [entry]) ++ Roll.putBefore id new rest = _
    rw [if_neg (Ne.symm hnot.1), hrest]
    rfl

/-- Before the one entry under an id stands what was put there. -/
theorem putBefore_of_split {id : Nat} {slot : Slot} {pre post : List (Nat × Slot)}
    (hpre : id ∉ pre.map Prod.fst) (hpost : id ∉ post.map Prod.fst) (new : Nat × Slot) :
    Roll.putBefore id new (pre ++ (id, slot) :: post) = pre ++ new :: (id, slot) :: post := by
  have happend : Roll.putBefore id new (pre ++ (id, slot) :: post) =
      Roll.putBefore id new pre ++ ([new, (id, slot)] ++ Roll.putBefore id new post) := by
    simp [Roll.putBefore, List.flatMap_append]
  rw [happend, putBefore_of_not_mem hpre, putBefore_of_not_mem hpost]
  rfl

theorem lastLocation_eq (c : Canvas) : c.lastLocation = c.roll.lastLocation := by
  show _ = (c.liveEntries.getLast?.map fun entry => entry.2.location).getD (.int 0)
  rw [lastLocation]
  cases c.liveEntries.getLast? <;> rfl

theorem firstLocation_eq (c : Canvas) : c.firstLocation = c.roll.firstLocation := by
  show _ = (c.entries.head?.map fun entry => entry.2.location).getD (.int 0)
  rw [firstLocation]
  cases c.entries.head? <;> rfl

namespace Lawful

variable {c : Canvas}

/-- The table and the list hold the same under an id. -/
theorem lookup_entries (h : c.Lawful) (id : Nat) : c.entries.lookup id = c.slots[id]? := by
  cases hs : c.slots[id]? with
  | some slot => exact lookup_of_mem h.keys_nodup (h.mem_entries.2 hs)
  | none =>
    apply lookup_of_not_mem
    intro hid
    obtain ⟨⟨k, slot⟩, hmem, rfl⟩ := List.mem_map.1 hid
    rw [h.mem_entries.1 hmem] at hs
    cases hs

theorem find_eq (h : c.Lawful) (v : Variable) : c.find v = c.roll.find v := by
  have hlookup : c.roll.entries.lookup v.id = c.slots[v.id]? := h.lookup_entries v.id
  cases hs : c.slots[v.id]? <;> simp [find, Roll.find, hlookup, hs]

theorem findLive_eq (h : c.Lawful) (v : Variable) : c.findLive v = c.roll.findLive v := by
  have hlookup : c.roll.entries.lookup v.id = c.slots[v.id]? := h.lookup_entries v.id
  cases hs : c.slots[v.id]? with
  | none => simp [findLive, Roll.findLive, find, hlookup, hs, bind, Except.bind]
  | some slot =>
    cases hd : slot.deleted <;> simp [findLive, Roll.findLive, find, hlookup, hs, hd, bind,
      Except.bind, pure, Except.pure, throw, throwThe, MonadExceptOf.throw]

theorem contains_eq (h : c.Lawful) (v : Variable) : c.contains v = c.roll.contains v := by
  have hids : v.id ∈ c.liveIds ↔ c.contains v = true := h.mem_liveIds
  rw [Bool.eq_iff_iff, ← hids]
  show v.id ∈ c.liveEntries.map Prod.fst ↔ c.liveEntries.any (fun entry => entry.1 = v.id) = true
  simp

/-! ## The same edits -/

/-- A new entry of the canvas is the new entry of the roll, at the same place. -/
theorem grow_eq (h : c.Lawful) (value location : Value) (order : Nat → List Nat)
    {pre post : List Nat} (horder : c.order = pre ++ post)
    (hnew : order c.nextId = pre ++ c.nextId :: post) {place : Nat × Slot → List (Nat × Slot)}
    (hplace : ∀ new, place new = entriesOf c.slots pre ++ new :: entriesOf c.slots post) :
    ((c.grow value location order).1.roll, (c.grow value location order).2.map Answer.id) =
      c.roll.add value location place := by
  rw [Roll.add]
  cases hs : value.asStatement with
  | ok s =>
    obtain ⟨after, hgrow, hgrown⟩ := h.grow_grown hs location order horder hnew
    have hroll : after.roll = ⟨place (c.nextId, ⟨s, location, false⟩), c.reserved, c.nextId + 1⟩ := by
      rw [hplace, ← hgrown.entries, ← hgrown.nextId, ← hgrown.reserved]
      rfl
    rw [hgrow, hroll]
    rfl
  | error fault =>
    rw [(h.grow_refused hs location order).1]
    rfl

theorem insertBefore_eq (h : c.Lawful) (v : Variable) (value : Value) (location : Option Value) :
    ((c.insertBefore v value location).1.roll, (c.insertBefore v value location).2.map Answer.id) =
      match c.roll.find v with
      | .error fault => (c.roll, .error fault)
      | .ok slot =>
        c.roll.add value (location.getD slot.location) fun new =>
          Roll.putBefore v.id new c.entries := by
  rw [← h.find_eq]
  cases hv : c.slots[v.id]? with
  | none =>
    rw [insertBefore, find, hv]
    rfl
  | some anchor =>
    obtain ⟨pre, post, horder, hnew⟩ := h.exists_split_order hv
    have hnodup := h.nodup
    rw [horder, List.nodup_middle, List.nodup_cons, List.mem_append, not_or] at hnodup
    have hsplit : c.entries =
        entriesOf c.slots pre ++ (v.id, anchor) :: entriesOf c.slots post := by
      rw [← entriesOf_cons hv, ← entriesOf_append, ← horder]
      rfl
    have hpart : ∀ part : List Nat, v.id ∉ part → v.id ∉ (entriesOf c.slots part).map Prod.fst := by
      intro part hnot hmem
      obtain ⟨⟨id, slot⟩, hentry, hid⟩ := List.mem_map.1 hmem
      exact hnot (hid ▸ (mem_entriesOf.1 hentry).1)
    rw [insertBefore, find_ok hv]
    refine h.grow_eq value _ _ horder (hnew c.nextId) fun new => ?_
    rw [hsplit, putBefore_of_split (hpart pre hnodup.1.1) (hpart post hnodup.1.2),
      entriesOf_cons hv]

end Lawful

/-- An outcome on a canvas and the one on its roll are the same. -/
inductive Tracks (c : Canvas) : Except Fault Canvas → Except Fault (List (Nat × Slot)) → Prop
  | ok {after : Canvas} {entries : List (Nat × Slot)}
    (roll : after.roll = ⟨entries, c.reserved, c.nextId⟩) : Tracks c (.ok after) (.ok entries)
  | error (fault : Fault) : Tracks c (.error fault) (.error fault)

namespace Tracks

variable {c : Canvas}

theorem settle_eq {outcome : Except Fault Canvas} {listed : Except Fault (List (Nat × Slot))}
    (h : c.Tracks outcome listed) (answer : Answer) :
    ((c.settle answer outcome).1.roll, (c.settle answer outcome).2) =
      c.roll.settle answer listed := by
  cases h with
  | ok hroll =>
    rw [settle, hroll]
    rfl
  | error fault => rfl

/-- A value that is no address is refused by both. -/
theorem bind_address {onCanvas : Variable → Except Fault Canvas}
    {onRoll : Variable → Except Fault (List (Nat × Slot))}
    (h : ∀ v, c.Tracks (onCanvas v) (onRoll v)) (target : Value) :
    c.Tracks (target.asAddress.bind onCanvas) (target.asAddress.bind onRoll) := by
  cases target.asAddress with
  | error fault => exact .error fault
  | ok v => exact h v

theorem of_revised {id : Nat} {new : Slot} {after : Canvas} (h : c.Revised id new after) :
    c.Tracks (.ok after) (.ok (replaceSlot id new c.entries)) := by
  refine .ok ?_
  rw [← h.entries, ← h.nextId, ← h.reserved]
  rfl

end Tracks

namespace Lawful

variable {c : Canvas}

theorem set_tracks (h : c.Lawful) (v : Variable) (value : Value) :
    c.Tracks (c.set v value) (c.roll.overwrite v value) := by
  rw [Roll.overwrite, ← h.find_eq]
  cases hv : c.slots[v.id]? with
  | none =>
    rw [set, find, hv]
    exact .error _
  | some old =>
    cases hs : value.asStatement with
    | error fault =>
      rw [set, find_ok hv, hs]
      exact .error fault
    | ok s =>
      obtain ⟨after, hset, hrevised⟩ := h.set_revised hv hs
      rw [hset, find_ok hv]
      exact .of_revised hrevised

/-- A live slot is changed in the table as in the list. -/
theorem revise_tracks (h : c.Lawful) {v : Variable} {change : Slot → Slot}
    {outcome : Except Fault Canvas}
    (hdead : ∀ fault, c.findLive v = .error fault → outcome = .error fault)
    (hlive : ∀ old, c.slots[v.id]? = some old → old.deleted = false →
      ∃ after, outcome = .ok after ∧ c.Revised v.id (change old) after) :
    c.Tracks outcome (c.roll.revise v change) := by
  rw [Roll.revise, ← h.findLive_eq]
  cases hfind : c.findLive v with
  | error fault =>
    rw [hdead fault hfind]
    exact .error fault
  | ok old =>
    obtain ⟨hold, hnot⟩ := findLive_eq_ok hfind
    obtain ⟨after, houtcome, hrevised⟩ := hlive old hold hnot
    rw [houtcome]
    exact .of_revised hrevised

theorem delete_tracks (h : c.Lawful) (v : Variable) :
    c.Tracks (c.delete v) (c.roll.revise v fun slot => { slot with deleted := true }) := by
  refine h.revise_tracks ?_ fun old hold hlive => h.delete_revised hold hlive
  intro fault hfind
  simp [delete, hfind, bind, Except.bind]

theorem setLocation_tracks (h : c.Lawful) (v : Variable) (location : Value) :
    c.Tracks (c.setLocation v location)
      (c.roll.revise v fun slot => { slot with location := location }) := by
  refine h.revise_tracks ?_ fun old hold hlive => h.setLocation_revised hold hlive location
  intro fault hfind
  simp [setLocation, hfind, bind, Except.bind]

theorem place_tracks (h : c.Lawful) (v : Variable) (value location : Value) :
    c.Tracks (c.place v value location) (c.roll.place v value location) := by
  have hlookup : c.roll.entries.lookup v.id = c.slots[v.id]? := h.lookup_entries v.id
  have hcontains : c.slots.contains v.id = (c.slots[v.id]?).isSome :=
    Std.TreeMap.contains_eq_isSome_getElem?
  rw [Roll.place, hlookup]
  by_cases hrange : 1 ≤ v.id ∧ v.id ≤ c.reserved
  case neg =>
    rw [place_eq, if_neg hrange, if_neg (show ¬ (1 ≤ v.id ∧ v.id ≤ c.roll.reserved) from hrange)]
    exact .error _
  rw [if_pos (show 1 ≤ v.id ∧ v.id ≤ c.roll.reserved from hrange)]
  cases hv : c.slots[v.id]? with
  | some slot =>
    rw [place_eq, if_pos hrange, hcontains, hv]
    exact .error _
  | none =>
    have hfree : v.id ∉ c.order := by
      rw [h.mem_order]
      rintro ⟨slot, hslot⟩
      rw [hv] at hslot
      cases hslot
    cases hs : value.asStatement with
    | error fault =>
      rw [place_eq, if_pos hrange, hcontains, hv, hs]
      exact .error fault
    | ok s =>
      obtain ⟨after, hplace, -, hentries, hnext, hreserved⟩ :=
        h.place_ok hrange.1 hrange.2 hfree hs location
      rw [hplace]
      refine .ok ?_
      rw [← hnext, ← hreserved]
      show (⟨after.entries, _, _⟩ : Roll) = _
      rw [hentries]
      rfl

end Lawful

theorem roll_renumbered (c : Canvas) : c.renumbered.roll = c.roll.renumbered := by
  have hentries : c.renumbered.entries = c.roll.renumbered.entries := c.entries_renumbered
  have hnext : c.renumbered.nextId = c.roll.renumbered.nextId := by
    show (List.map _ _).length + 1 = _
    rw [List.length_map]
    rfl
  rw [roll, hentries, hnext]
  rfl

theorem renumber_eq (c : Canvas) (strict : Bool) :
    ((c.run (.renumber strict)).1.roll, (c.run (.renumber strict)).2) =
      c.roll.run (.renumber strict) := by
  have hsame : c.roll.renumbering = c.renumbering := rfl
  rw [run, renumber, Roll.run, hsame]
  cases hstop : (strict && !c.renumbering.dangling.isEmpty) with
  | true => rfl
  | false =>
    simp only [Bool.false_eq_true, if_false]
    rw [roll_renumbered]

namespace Lawful

variable {c : Canvas}

/-- Every edit does to a lawful canvas what it does to its roll, and answers the
same. -/
theorem roll_run (h : c.Lawful) (e : Edit) :
    ((c.run e).1.roll, (c.run e).2) = c.roll.run e := by
  cases e with
  | append value location =>
    show _ = c.roll.add value (location.getD c.roll.lastLocation) fun new => c.entries ++ [new]
    rw [← c.lastLocation_eq]
    exact h.grow_eq value _ (fun id => c.order ++ [id]) (List.append_nil c.order).symm rfl
      fun _ => rfl
  | pushFirst value location =>
    show _ = c.roll.add value (location.getD c.roll.firstLocation) fun new => new :: c.entries
    rw [← c.firstLocation_eq]
    exact h.grow_eq value _ (fun id => id :: c.order) (List.nil_append c.order).symm rfl
      fun _ => rfl
  | insertBefore anchor value location =>
    rw [run, Roll.run]
    cases anchor.asAddress with
    | error fault => rfl
    | ok v => exact h.insertBefore_eq v value location
  | place target value location =>
    rw [run, Roll.run]
    cases target.asAddress with
    | error fault => rfl
    | ok v => exact (h.place_tracks v value location).settle_eq _
  | set target value => exact (Tracks.bind_address (h.set_tracks · value) target).settle_eq _
  | delete target => exact (Tracks.bind_address h.delete_tracks target).settle_eq _
  | setLocation target location =>
    exact (Tracks.bind_address (h.setLocation_tracks · location) target).settle_eq _
  | renumber strict => exact c.renumber_eq strict

theorem roll_runAll (h : c.Lawful) (edits : List Edit) :
    (c.runAll edits).roll = c.roll.runAll edits := by
  induction edits generalizing c with
  | nil => rfl
  | cons e rest ih =>
    have hstep : (c.run e).1.roll = (c.roll.run e).1 := congrArg Prod.fst (h.roll_run e)
    have hrest : ((c.run e).1.runAll rest).roll = (c.run e).1.roll.runAll rest := ih (h.run_lawful e)
    rw [hstep] at hrest
    exact hrest

end Lawful

/-! ## The ids of a roll -/

/-- The id that an answer gives, if it gives one. -/
def givenId : Except Fault Answer → Option Variable
  | .ok (.id v) => some v
  | _ => none

namespace Roll

variable {r : Roll}

/-- An outcome has the ids of before and the one that its answer gives, which is the
next fresh one. -/
structure Gives (r : Roll) (outcome : Roll × Except Fault Answer) : Prop where
  ids : (outcome.1.entries.map Prod.fst).Perm
    (r.entries.map Prod.fst ++ (givenId outcome.2).toList.map Variable.id)
  fresh : ∀ v, givenId outcome.2 = some v → v = ⟨r.nextId⟩

theorem gives_of_error (fault : Fault) : r.Gives (r, .error fault) where
  ids := by simp [givenId]
  fresh _ hgiven := nomatch hgiven

theorem putBefore_perm {id : Nat} {slot : Slot} {entries : List (Nat × Slot)}
    (hnd : (entries.map Prod.fst).Nodup) (hlookup : entries.lookup id = some slot)
    (new : Nat × Slot) : (putBefore id new entries).Perm (entries ++ [new]) := by
  obtain ⟨pre, post, rfl, -⟩ := List.lookup_eq_some_iff.1 hlookup
  rw [List.map_append, List.map_cons, List.nodup_middle, List.nodup_cons, List.mem_append,
    not_or] at hnd
  rw [putBefore_of_split hnd.1.1 hnd.1.2]
  exact List.perm_middle.trans (List.perm_append_singleton new _).symm

theorem add_gives (value location : Value) {place : Nat × Slot → List (Nat × Slot)}
    (hplace : ∀ new, (place new).Perm (r.entries ++ [new])) :
    r.Gives (r.add value location place) := by
  rw [add]
  cases value.asStatement with
  | error fault => exact ⟨by simp [givenId], fun _ hgiven => nomatch hgiven⟩
  | ok s =>
    refine ⟨?_, fun v hgiven => (Option.some.inj hgiven).symm⟩
    simpa [givenId] using (hplace (r.nextId, ⟨s, location, false⟩)).map Prod.fst

/-- Another slot in the place of one moves no id and gives none. -/
theorem settle_gives (target : Value) {listed : Variable → Except Fault (List (Nat × Slot))}
    (hlisted : ∀ v entries, listed v = .ok entries →
      ∃ id slot, entries = replaceSlot id slot r.entries) :
    r.Gives (r.settle .done (target.asAddress.bind listed)) := by
  cases target.asAddress with
  | error fault => exact gives_of_error fault
  | ok v =>
    show r.Gives (r.settle .done (listed v))
    cases hentries : listed v with
    | error fault => exact gives_of_error fault
    | ok entries =>
      obtain ⟨id, slot, rfl⟩ := hlisted v entries hentries
      refine ⟨?_, fun _ hgiven => nomatch hgiven⟩
      simp [settle, givenId, map_fst_replaceSlot]

theorem exists_overwrite {v : Variable} {value : Value} {entries : List (Nat × Slot)}
    (h : r.overwrite v value = .ok entries) :
    ∃ id slot, entries = replaceSlot id slot r.entries := by
  obtain ⟨slot, -, h⟩ := bind_eq_ok.1 h
  obtain ⟨s, -, h⟩ := bind_eq_ok.1 h
  injection h with h
  exact ⟨_, _, h.symm⟩

theorem exists_revise {v : Variable} {change : Slot → Slot} {entries : List (Nat × Slot)}
    (h : r.revise v change = .ok entries) :
    ∃ id slot, entries = replaceSlot id slot r.entries := by
  obtain ⟨slot, -, h⟩ := bind_eq_ok.1 h
  injection h with h
  exact ⟨_, _, h.symm⟩

/-- An edit that places nothing by hand and renumbers nothing loses no id, and adds the
one that it answers. -/
theorem run_gives (hnd : (r.entries.map Prod.fst).Nodup) {e : Edit} (ho : e.isOrdinary = true) :
    r.Gives (r.run e) := by
  cases e with
  | append value location => exact add_gives _ _ fun new => .refl _
  | pushFirst value location =>
    exact add_gives _ _ fun new => (List.perm_append_singleton new _).symm
  | insertBefore anchor value location =>
    rw [run]
    cases anchor.asAddress with
    | error fault => exact gives_of_error fault
    | ok v =>
      dsimp only
      rw [find]
      cases hlookup : r.entries.lookup v.id with
      | none => exact gives_of_error _
      | some slot => exact add_gives _ _ (putBefore_perm hnd hlookup)
  | set target value => exact settle_gives target fun v entries => exists_overwrite
  | delete target | setLocation target _ =>
    exact settle_gives target fun v entries => exists_revise
  | place _ _ _ | renumber _ => exact absurd ho Bool.false_ne_true

end Roll

/-- The same of an edit of a canvas. -/
theorem Lawful.run_gives {c : Canvas} (h : c.Lawful) {e : Edit} (ho : e.isOrdinary = true) :
    c.roll.Gives ((c.run e).1.roll, (c.run e).2) := by
  rw [h.roll_run]
  exact Roll.run_gives h.keys_nodup ho

end Canvas
end SsaEdit
