/-
A canvas refines its roll.

What a reader asks of a canvas is read off the list of its entries, every edit acts on
that list as `Roll.run` says, and an address is refused exactly if the list does not
hold what the operation needs: a live entry to read, delete or move a statement, any
entry to overwrite it or to insert before it, and none to place it.  `runAll_refines`
puts this together for a canvas after any edits.
-/
import SsaEdit.Proofs.Canvas.Roll

namespace SsaEdit

/-- The faults of an address at which there is nothing, or nothing may be put. -/
def Fault.isOutOfRange (fault : Fault) : Bool := fault.kind = .indexOutOfRange

namespace Canvas

/-! ## Refused addresses -/

/-- An operation was refused because of its address. -/
def Refused {α : Type} (outcome : Except Fault α) : Prop :=
  ∃ fault, outcome = .error fault ∧ fault.isOutOfRange = true

section Refusals

variable {α : Type} {c : Canvas} {v : Variable}

theorem refused_error {fault : Fault} :
    Refused (.error fault : Except Fault α) ↔ fault.isOutOfRange = true := by
  constructor
  · rintro ⟨same, hsame, hrange⟩
    injection hsame with hsame
    exact hsame ▸ hrange
  · exact fun hrange => ⟨fault, rfl, hrange⟩

theorem not_refused_ok (x : α) : ¬ Refused (.ok x : Except Fault α) := by
  rintro ⟨fault, h, -⟩
  cases h

/-- A value that is no statement is no matter of the address. -/
theorem not_refused_statement {value : Value} {fault : Fault}
    (h : value.asStatement = .error fault) : ¬ Refused (.error fault : Except Fault α) := by
  rw [refused_error]
  unfold Value.asStatement at h
  split at h
  · cases h
  · injection h with h
    subst h
    exact Bool.false_ne_true

theorem find_refused {fault : Fault} (h : c.find v = .error fault) :
    Refused (.error fault : Except Fault α) := by
  rw [refused_error]
  unfold find at h
  split at h
  · cases h
  · injection h with h
    subst h
    rfl

theorem findLive_refused {fault : Fault} (h : c.findLive v = .error fault) :
    Refused (.error fault : Except Fault α) := by
  cases hfind : c.find v with
  | error first =>
    have hsame : first = fault := by simpa [findLive, hfind, bind, Except.bind] using h
    exact hsame ▸ find_refused hfind
  | ok slot =>
    rw [refused_error]
    cases hd : slot.deleted with
    | false => simp [findLive, hfind, hd, bind, Except.bind, pure, Except.pure] at h
    | true =>
      simp only [findLive, hfind, hd, bind, Except.bind, throw, throwThe,
        MonadExceptOf.throw, if_true] at h
      injection h with h
      subst h
      rfl

end Refusals

/-- A canvas and its roll refuse an address together. -/
theorem Tracks.refused_iff {c : Canvas} {outcome : Except Fault Canvas}
    {listed : Except Fault (List (Nat × Slot))} (h : c.Tracks outcome listed) :
    Refused outcome ↔ Refused listed := by
  cases h with
  | ok hroll => exact iff_of_false (not_refused_ok _) (not_refused_ok _)
  | error fault => rw [refused_error, refused_error]

/-- The operations under a variable are refused for its address exactly if the roll has
no entry, or no live one, for them.  A placing is refused if there is one. -/
structure Addressed (c : Canvas) (v : Variable) : Prop where
  get : Refused (c.get v) ↔ ¬ ∃ slot, (v.id, slot) ∈ c.roll.live
  location : Refused (c.location v) ↔ ¬ ∃ slot, (v.id, slot) ∈ c.roll.live
  delete : Refused (c.delete v) ↔ ¬ ∃ slot, (v.id, slot) ∈ c.roll.live
  setLocation : ∀ location, Refused (c.setLocation v location) ↔
    ¬ ∃ slot, (v.id, slot) ∈ c.roll.live
  set : ∀ value, Refused (c.set v value) ↔ ¬ ∃ slot, (v.id, slot) ∈ c.roll.entries
  insertBefore : ∀ value location, Refused (c.insertBefore v value location).2 ↔
    ¬ ∃ slot, (v.id, slot) ∈ c.roll.entries
  place : ∀ value location, Refused (c.place v value location) ↔
    ¬ (1 ≤ v.id ∧ v.id ≤ c.reserved) ∨ ∃ slot, (v.id, slot) ∈ c.roll.entries

namespace Lawful

variable {c : Canvas}

theorem entry_iff (h : c.Lawful) (v : Variable) :
    (∃ slot, (v.id, slot) ∈ c.roll.entries) ↔ ∃ slot, c.find v = .ok slot := by
  constructor
  · rintro ⟨slot, hmem⟩
    exact ⟨slot, find_ok (h.mem_entries.1 hmem)⟩
  · rintro ⟨slot, hfind⟩
    exact ⟨slot, h.mem_entries.2 (find_eq_ok hfind)⟩

theorem live_iff (h : c.Lawful) (v : Variable) :
    (∃ slot, (v.id, slot) ∈ c.roll.live) ↔ ∃ slot, c.findLive v = .ok slot := by
  constructor
  · rintro ⟨slot, hmem⟩
    obtain ⟨hentry, hlive⟩ := mem_liveEntries.1 hmem
    exact ⟨slot, findLive_ok (h.mem_entries.1 hentry) hlive⟩
  · rintro ⟨slot, hfind⟩
    obtain ⟨hslot, hlive⟩ := findLive_eq_ok hfind
    exact ⟨slot, mem_liveEntries.2 ⟨h.mem_entries.2 hslot, hlive⟩⟩

/-- An operation that needs a live slot and then succeeds. -/
theorem refused_live (h : c.Lawful) {α : Type} {v : Variable} {outcome : Except Fault α}
    (hdead : ∀ fault, c.findLive v = .error fault → outcome = .error fault)
    (hlive : ∀ slot, c.findLive v = .ok slot → ∃ x, outcome = .ok x) :
    Refused outcome ↔ ¬ ∃ slot, (v.id, slot) ∈ c.roll.live := by
  rw [h.live_iff]
  cases hfind : c.findLive v with
  | ok slot =>
    obtain ⟨x, rfl⟩ := hlive slot hfind
    exact iff_of_false (not_refused_ok x) fun hnone => hnone ⟨slot, rfl⟩
  | error fault =>
    rw [hdead fault hfind]
    refine iff_of_true (findLive_refused hfind) ?_
    rintro ⟨_, hok⟩
    cases hok

/-- An operation that needs a slot and then succeeds or finds no statement to store. -/
theorem refused_entry (h : c.Lawful) {α : Type} {v : Variable} (value : Value)
    {outcome : Except Fault α}
    (hmissing : ∀ fault, c.find v = .error fault → outcome = .error fault)
    (hbad : ∀ slot fault, c.find v = .ok slot → value.asStatement = .error fault →
      outcome = .error fault)
    (hgood : ∀ slot s, c.find v = .ok slot → value.asStatement = .ok s →
      ∃ x, outcome = .ok x) :
    Refused outcome ↔ ¬ ∃ slot, (v.id, slot) ∈ c.roll.entries := by
  rw [h.entry_iff]
  cases hfind : c.find v with
  | error fault =>
    rw [hmissing fault hfind]
    refine iff_of_true (find_refused hfind) ?_
    rintro ⟨_, hok⟩
    cases hok
  | ok slot =>
    refine iff_of_false ?_ fun hnone => hnone ⟨slot, rfl⟩
    cases hs : value.asStatement with
    | error fault =>
      rw [hbad slot fault hfind hs]
      exact not_refused_statement hs
    | ok s =>
      obtain ⟨x, rfl⟩ := hgood slot s hfind hs
      exact not_refused_ok x

theorem refused_place (h : c.Lawful) (v : Variable) (value location : Value) :
    Refused (c.place v value location) ↔
      ¬ (1 ≤ v.id ∧ v.id ≤ c.reserved) ∨ ∃ slot, (v.id, slot) ∈ c.roll.entries := by
  rw [(h.place_tracks v value location).refused_iff, Roll.place]
  have hentry : (∃ slot, (v.id, slot) ∈ c.roll.entries) ↔
      ∃ slot, c.roll.entries.lookup v.id = some slot := by
    show (∃ slot, (v.id, slot) ∈ c.entries) ↔ ∃ slot, c.entries.lookup v.id = some slot
    rw [h.lookup_entries]
    exact exists_congr fun slot => h.mem_entries
  rw [hentry]
  by_cases hrange : 1 ≤ v.id ∧ v.id ≤ c.reserved
  · rw [if_pos (show 1 ≤ v.id ∧ v.id ≤ c.roll.reserved from hrange)]
    cases c.roll.entries.lookup v.id with
    | some slot => exact iff_of_true ⟨_, rfl, rfl⟩ (Or.inr ⟨slot, rfl⟩)
    | none =>
      refine iff_of_false ?_ ?_
      · cases hs : value.asStatement with
        | ok s => exact not_refused_ok _
        | error fault => exact not_refused_statement hs
      · rintro (hnot | ⟨_, hslot⟩)
        · exact hnot hrange
        · cases hslot
  · rw [if_neg (show ¬ (1 ≤ v.id ∧ v.id ≤ c.roll.reserved) from hrange)]
    exact iff_of_true ⟨_, rfl, rfl⟩ (Or.inl hrange)

theorem addressed (h : c.Lawful) (v : Variable) : c.Addressed v where
  get := by
    refine h.refused_live (fun fault hfind => ?_) fun slot hfind => ?_
    · rw [Canvas.get, hfind]
      rfl
    · exact ⟨slot.statement, by rw [Canvas.get, hfind]; rfl⟩
  location := by
    refine h.refused_live (fun fault hfind => ?_) fun slot hfind => ?_
    · rw [Canvas.location, hfind]
      rfl
    · exact ⟨slot.location, by rw [Canvas.location, hfind]; rfl⟩
  delete := by
    refine h.refused_live (fun fault hfind => ?_) fun slot hfind => ?_
    · rw [Canvas.delete, hfind]
      rfl
    · exact ⟨_, by rw [Canvas.delete, hfind]; rfl⟩
  setLocation location := by
    refine h.refused_live (fun fault hfind => ?_) fun slot hfind => ?_
    · rw [Canvas.setLocation, hfind]
      rfl
    · exact ⟨_, by rw [Canvas.setLocation, hfind]; rfl⟩
  set value := by
    refine h.refused_entry value (fun fault hfind => ?_) (fun slot fault hfind hs => ?_)
      fun slot s hfind hs => ?_
    · rw [Canvas.set, hfind]
      rfl
    · rw [Canvas.set, hfind, hs]
      rfl
    · exact ⟨_, by rw [Canvas.set, hfind, hs]; rfl⟩
  insertBefore value location := by
    refine h.refused_entry value (fun fault hfind => ?_) (fun slot fault hfind hs => ?_)
      fun slot s hfind hs => ?_
    · rw [Canvas.insertBefore, hfind]
    · rw [Canvas.insertBefore, hfind]
      show (c.grow _ _ _).2 = _
      rw [grow, hs]
    · refine ⟨⟨c.nextId⟩, ?_⟩
      rw [Canvas.insertBefore, hfind]
      show (c.grow _ _ _).2 = _
      rw [grow, hs]
  place := h.refused_place v

end Lawful

/-! ## The two side by side -/

/-- A canvas stands for a roll: every edit does the same to both and answers the same,
every question has the same answer, and the addresses that are refused are read off
the roll. -/
structure Refines (c : Canvas) (r : Roll) : Prop where
  roll : c.roll = r
  run : ∀ e, ((c.run e).1.roll, (c.run e).2) = r.run e
  get : ∀ v, c.get v = r.get v
  location : ∀ v, c.location v = r.location v
  contains : ∀ v, c.contains v = r.contains v
  iteration : c.liveEntries = r.live
  statements : c.statements = r.live.map fun entry => entry.2.statement
  locations : c.locations = r.live.map fun entry => entry.2.location
  addressed : ∀ v, c.Addressed v

theorem Lawful.refines {c : Canvas} (h : c.Lawful) : c.Refines c.roll where
  roll := rfl
  run := h.roll_run
  get v := congrArg (Except.map Slot.statement) (h.findLive_eq v)
  location v := congrArg (Except.map Slot.location) (h.findLive_eq v)
  contains := h.contains_eq
  iteration := rfl
  statements := rfl
  locations := rfl
  addressed := h.addressed

/-- A new canvas stands for an empty roll, and the two stay together through any edits,
in any order and whether they failed or not. -/
theorem runAll_refines (reserved : Nat) (edits : List Edit) :
    ((empty reserved).runAll edits).Refines ((Roll.empty reserved).runAll edits) := by
  have hlawful := empty_lawful reserved
  have hroll : ((empty reserved).runAll edits).roll = (Roll.empty reserved).runAll edits :=
    hlawful.roll_runAll edits
  rw [← hroll]
  exact (hlawful.runAll_lawful edits).refines

end Canvas
end SsaEdit
