/-
Ids are permanent between two renumberings.

As long as no renumbering succeeds, an edit never takes an id out of program order and
never moves one past another; it puts in at most one id, which is a fresh one or one that
was set aside.  `Extends` is what one edit keeps and what composes along a run, so any two
moments of a run stand in it.  Fresh ids come from a counter that never goes back, also
when the insertion that asked for the id failed.
-/
import SsaEdit.Proofs.Canvas.Roll

namespace SsaEdit
namespace Canvas

/-! ## Runs without a renumbering -/

/-- Whether an outcome is that of a renumbering that was carried out. -/
def isRenumbered : Except Fault Answer → Bool
  | .ok (.renumbered _) => true
  | _ => false

/-- Whether no edit of a run renumbers the canvas.  A renumbering that is refused does
not count. -/
def keepsIds (c : Canvas) : List Edit → Bool
  | [] => true
  | e :: rest => !isRenumbered (c.run e).2 && (c.run e).1.keepsIds rest

theorem runAll_append (c : Canvas) (first second : List Edit) :
    c.runAll (first ++ second) = (c.runAll first).runAll second :=
  List.foldl_append

theorem keepsIds_append (c : Canvas) (first second : List Edit) :
    c.keepsIds (first ++ second) = (c.keepsIds first && (c.runAll first).keepsIds second) := by
  induction first generalizing c with
  | nil => rfl
  | cons e rest ih =>
    rw [List.cons_append, keepsIds, keepsIds, ih, Bool.and_assoc]
    rfl

/-! ## Program order -/

/-- A later state of a canvas: all ids of the earlier one are there and in the same order,
as many are set aside, and the fresh ones begin no earlier. -/
structure Extends (c after : Canvas) : Prop where
  order : c.order.Sublist after.order
  reserved : after.reserved = c.reserved
  nextId_le : c.nextId ≤ after.nextId

namespace Extends

variable {c after later : Canvas}

theorem refl (c : Canvas) : c.Extends c := ⟨.refl _, rfl, Nat.le_refl _⟩

theorem trans (h : c.Extends after) (h' : after.Extends later) : c.Extends later where
  order := h.order.trans h'.order
  reserved := h'.reserved.trans h.reserved
  nextId_le := Nat.le_trans h.nextId_le h'.nextId_le

end Extends

/-- What an ordinary edit does to the entries takes none out and moves none. -/
theorem Change.keys_sublist {c after : Canvas} {overwritten : Option Variable}
    (change : c.Change after overwritten) :
    (c.entries.map Prod.fst).Sublist (after.entries.map Prod.fst) := by
  cases change with
  | kept hentries => rw [hentries]
  | grown hgrown =>
    rw [hgrown.before, hgrown.entries]
    exact ((List.sublist_cons_self _ _).append_left _).map Prod.fst
  | marked _ _ hrevised => rw [hrevised.entries, map_fst_replaceSlot]
  | overwritten hrevised => rw [hrevised.entries, map_fst_replaceSlot]

theorem Step.extended {c after : Canvas} {overwritten : Option Variable}
    (step : c.Step after overwritten) (h : c.Lawful) : c.Extends after where
  order := by
    rw [← h.keys, ← step.lawful.keys]
    exact step.change.keys_sublist
  reserved := step.reserved
  nextId_le := step.nextId_le

namespace Lawful

variable {c : Canvas}

theorem place_extends (h : c.Lawful) {v : Variable} {value location : Value} {after : Canvas}
    (hplace : c.place v value location = .ok after) : c.Extends after := by
  obtain ⟨hpos, hle, hfree, s, hs⟩ := h.of_place hplace
  obtain ⟨placed, hok, hlawful, hentries, hnext, hreserved⟩ := h.place_ok hpos hle hfree hs location
  obtain rfl := Except.ok.inj (hok.symm.trans hplace)
  refine ⟨?_, hreserved, Nat.le_of_eq hnext.symm⟩
  rw [← h.keys, ← hlawful.keys, hentries]
  exact (List.sublist_append_left _ _).map Prod.fst

/-- The step: whatever an edit does, and whether it fails or not, the ids of before stay
in their order, unless it renumbers the canvas. -/
theorem run_extends (h : c.Lawful) {e : Edit} (hkeeps : isRenumbered (c.run e).2 = false) :
    c.Extends (c.run e).1 := by
  cases e with
  | place target value location =>
    rcases target.asAddress_cases with ⟨v, rfl⟩ | hbad
    · show c.Extends (c.settle (.id v) (c.place v value location)).1
      cases hplace : c.place v value location with
      | ok after => exact h.place_extends hplace
      | error fault => exact .refl c
    · simp only [run, hbad]
      exact .refl c
  | renumber strict =>
    rw [run] at hkeeps ⊢
    cases hrenumber : c.renumber strict with
    | ok done =>
      rw [hrenumber] at hkeeps
      exact absurd hkeeps.symm Bool.false_ne_true
    | error fault => exact .refl c
  | append _ _ | pushFirst _ _ | insertBefore _ _ _ | set _ _ | delete _ | setLocation _ _ =>
    exact (h.run_step rfl).extended h

/-- The run. -/
theorem runAll_extends (h : c.Lawful) {edits : List Edit} (hkeeps : c.keepsIds edits = true) :
    c.Extends (c.runAll edits) := by
  induction edits generalizing c with
  | nil => exact .refl c
  | cons e rest ih =>
    rw [keepsIds, Bool.and_eq_true, Bool.not_eq_true'] at hkeeps
    exact (h.run_extends hkeeps.1).trans (ih (h.run_lawful e) hkeeps.2)

end Lawful

/-! ## Fresh ids -/

/-- Whether an edit asks for a fresh id. -/
def Edit.asksForId : Edit → Bool
  | .append .. | .pushFirst .. | .insertBefore .. => true
  | _ => false

/-- The fresh id that an edit gives, if it gives one. -/
def freshId (c : Canvas) (e : Edit) : Option Nat :=
  if e.asksForId then (givenId (c.run e).2).map Variable.id else none

/-- The id under which an edit places a statement, if it places one. -/
def placedId (c : Canvas) (e : Edit) : Option Nat :=
  match e with
  | .place .. => (givenId (c.run e).2).map Variable.id
  | _ => none

/-- The fresh ids that some edits give, in order. -/
def freshIds (c : Canvas) : List Edit → List Nat
  | [] => []
  | e :: rest => (c.freshId e).toList ++ (c.run e).1.freshIds rest

/-- The ids under which some edits place statements, in order. -/
def placedIds (c : Canvas) : List Edit → List Nat
  | [] => []
  | e :: rest => (c.placedId e).toList ++ (c.run e).1.placedIds rest

theorem Edit.isOrdinary_of_asksForId {e : Edit} (h : e.asksForId = true) : e.isOrdinary = true := by
  cases e with
  | append _ _ | pushFirst _ _ | insertBefore _ _ _ => rfl
  | place _ _ _ | set _ _ | delete _ | setLocation _ _ | renumber _ =>
    exact absurd h Bool.false_ne_true

namespace Lawful

variable {c : Canvas}

/-- The id that is given is the next one of the counter, which goes on. -/
theorem freshId_spec (h : c.Lawful) {e : Edit} {id : Nat} (hid : c.freshId e = some id) :
    id = c.nextId ∧ id < (c.run e).1.nextId := by
  rw [freshId] at hid
  split at hid
  case isFalse => cases hid
  case isTrue hasks =>
    obtain ⟨v, hgiven, rfl⟩ := Option.map_eq_some_iff.1 hid
    have hgives := h.run_gives (Edit.isOrdinary_of_asksForId hasks)
    have hafter := h.run_lawful e
    refine ⟨congrArg Variable.id (hgives.fresh v hgiven), hafter.lt_nextId v.id ?_⟩
    rw [← hafter.keys]
    refine hgives.ids.mem_iff.2 (List.mem_append_right _ ?_)
    rw [hgiven]
    exact List.mem_cons_self

/-- A statement is placed under an id that is set aside. -/
theorem placedId_le (h : c.Lawful) {e : Edit} {id : Nat} (hid : c.placedId e = some id) :
    id ≤ c.reserved := by
  cases e with
  | place target value location =>
    obtain ⟨v, hgiven, rfl⟩ := Option.map_eq_some_iff.1 hid
    rcases target.asAddress_cases with ⟨w, rfl⟩ | hbad
    · have hrun : c.run (.place (.variable w) value location) =
          c.settle (.id w) (c.place w value location) := rfl
      rw [hrun] at hgiven
      cases hplace : c.place w value location with
      | error fault =>
        rw [hplace] at hgiven
        cases hgiven
      | ok after =>
        rw [hplace] at hgiven
        obtain rfl := Option.some.inj hgiven
        exact (h.of_place hplace).2.1
    · simp only [run, hbad] at hgiven
      cases hgiven
  | append _ _ | pushFirst _ _ | insertBefore _ _ _ | set _ _ | delete _ | setLocation _ _
  | renumber _ => cases hid

/-- Fresh ids come in increasing order, and none before the next one of the counter. -/
theorem freshIds_increasing (h : c.Lawful) {edits : List Edit} (hkeeps : c.keepsIds edits = true) :
    (c.freshIds edits).Pairwise (· < ·) ∧ ∀ id ∈ c.freshIds edits, c.nextId ≤ id := by
  induction edits generalizing c with
  | nil => exact ⟨.nil, fun _ hid => absurd hid List.not_mem_nil⟩
  | cons e rest ih =>
    rw [keepsIds, Bool.and_eq_true, Bool.not_eq_true'] at hkeeps
    obtain ⟨hincreasing, hafter⟩ := ih (h.run_lawful e) hkeeps.2
    have hnext := (h.run_extends hkeeps.1).nextId_le
    rw [freshIds]
    cases hid : c.freshId e with
    | none =>
      rw [Option.toList_none, List.nil_append]
      exact ⟨hincreasing, fun id hmem => Nat.le_trans hnext (hafter id hmem)⟩
    | some id =>
      obtain ⟨hgiven, hlt⟩ := h.freshId_spec hid
      rw [Option.toList_some, List.singleton_append]
      refine ⟨List.pairwise_cons.2 ⟨fun later hmem => ?_, hincreasing⟩, fun later hmem => ?_⟩
      · exact Nat.lt_of_lt_of_le hlt (hafter later hmem)
      · rcases List.mem_cons.1 hmem with rfl | hmem
        · exact Nat.le_of_eq hgiven.symm
        · exact Nat.le_trans hnext (hafter later hmem)

theorem placedIds_le (h : c.Lawful) {edits : List Edit} (hkeeps : c.keepsIds edits = true) :
    ∀ id ∈ c.placedIds edits, id ≤ c.reserved := by
  induction edits generalizing c with
  | nil => exact fun _ hid => absurd hid List.not_mem_nil
  | cons e rest ih =>
    rw [keepsIds, Bool.and_eq_true, Bool.not_eq_true'] at hkeeps
    intro id hid
    rw [placedIds, List.mem_append, Option.mem_toList] at hid
    rcases hid with hfirst | hrest
    · exact h.placedId_le hfirst
    · rw [← (h.run_extends hkeeps.1).reserved]
      exact ih (h.run_lawful e) hkeeps.2 id hrest

end Lawful

/-! ## Any two moments -/

/-- One id stands before another one in program order. -/
def Precedes (c : Canvas) (a b : Nat) : Prop := [a, b].Sublist c.order

theorem Lawful.precedes_asymm {c : Canvas} (h : c.Lawful) {a b : Nat} (hab : c.Precedes a b) :
    ¬ c.Precedes b a := by
  have hnodup := h.nodup
  rw [Precedes] at hab ⊢
  generalize c.order = ids at hab hnodup
  intro hba
  induction ids with
  | nil => cases hab
  | cons first rest ih =>
    rw [List.nodup_cons] at hnodup
    cases hab with
    | cons _ hab =>
      cases hba with
      | cons _ hba => exact ih hab hnodup.2 hba
      | cons_cons _ hba => exact hnodup.1 (hab.subset (List.mem_cons_of_mem _ List.mem_cons_self))
    | cons_cons _ hab =>
      cases hba with
      | cons _ hba => exact hnodup.1 (hba.subset (List.mem_cons_of_mem _ List.mem_cons_self))
      | cons_cons _ hba => exact hnodup.1 (hab.subset List.mem_cons_self)

/-- What a run that renumbers nothing keeps.  Its moments are the states after the first
so many edits. -/
structure Permanent (c : Canvas) (edits : List Edit) : Prop where
  /-- Program order at one moment is a part of program order at any later one. -/
  order : ∀ {early late : List Edit}, early <+: late → late <+: edits →
    (c.runAll early).order.Sublist (c.runAll late).order
  /-- No slot disappears. -/
  slots : ∀ {early late : List Edit}, early <+: late → late <+: edits →
    ∀ id ∈ (c.runAll early).slots, id ∈ (c.runAll late).slots
  /-- No two statements change places. -/
  precedes : ∀ {early late : List Edit}, early <+: late → late <+: edits →
    ∀ a b, (c.runAll early).Precedes a b →
      (c.runAll late).Precedes a b ∧ ¬ (c.runAll late).Precedes b a
  reserved : ∀ {early : List Edit}, early <+: edits → (c.runAll early).reserved = c.reserved
  increasing : (c.freshIds edits).Pairwise (· < ·)
  /-- A fresh id is none of those that were set aside, and no statement is ever placed
  under it. -/
  beyond : ∀ id ∈ c.freshIds edits, c.reserved < id ∧ id ∉ c.placedIds edits
  /-- When it is given there is no slot under it, live or deleted, and there was none at
  any moment before. -/
  unused : ∀ {early late : List Edit} {e : Edit}, early <+: late → late ++ [e] <+: edits →
    ∀ id, (c.runAll late).freshId e = some id → id ∉ (c.runAll early).slots

namespace Lawful

variable {c : Canvas}

/-- A later moment extends an earlier one. -/
theorem extends_of_prefix (h : c.Lawful) {edits : List Edit} (hkeeps : c.keepsIds edits = true)
    {early late : List Edit} (hearly : early <+: late) (hlate : late <+: edits) :
    (c.runAll early).Extends (c.runAll late) := by
  obtain ⟨between, rfl⟩ := hearly
  obtain ⟨rest, rfl⟩ := hlate
  rw [keepsIds_append, keepsIds_append, Bool.and_eq_true, Bool.and_eq_true] at hkeeps
  rw [runAll_append]
  exact (h.runAll_lawful early).runAll_extends hkeeps.1.2

theorem permanent (h : c.Lawful) {edits : List Edit} (hkeeps : c.keepsIds edits = true) :
    Permanent c edits where
  order hearly hlate := (h.extends_of_prefix hkeeps hearly hlate).order
  slots {early late} hearly hlate id hid := by
    rw [← (h.runAll_lawful early).mem_order_iff] at hid
    rw [← (h.runAll_lawful late).mem_order_iff]
    exact (h.extends_of_prefix hkeeps hearly hlate).order.subset hid
  precedes {early late} hearly hlate a b hab := by
    have hlater : (c.runAll late).Precedes a b :=
      hab.trans (h.extends_of_prefix hkeeps hearly hlate).order
    exact ⟨hlater, (h.runAll_lawful late).precedes_asymm hlater⟩
  reserved hearly := (h.extends_of_prefix hkeeps (List.nil_prefix) hearly).reserved
  increasing := (h.freshIds_increasing hkeeps).1
  beyond id hid := by
    have hlt : c.reserved < id :=
      Nat.lt_of_lt_of_le h.reserved_lt ((h.freshIds_increasing hkeeps).2 id hid)
    exact ⟨hlt, fun hplaced => Nat.not_le.2 hlt (h.placedIds_le hkeeps id hplaced)⟩
  unused {early late e} hearly hlate id hid hslot := by
    have hbefore := h.extends_of_prefix hkeeps hearly ((List.prefix_append late [e]).trans hlate)
    rw [← (h.runAll_lawful early).mem_order_iff] at hslot
    rw [((h.runAll_lawful late).freshId_spec hid).1] at hslot
    exact (h.runAll_lawful late).nextId_not_mem (hbefore.order.subset hslot)

end Lawful

/-- From any canvas that edits can lead to, as long as no renumbering is carried out:
program order only grows, so that no slot disappears and no two statements change places,
and the ids that insertions give increase and are never ids that were in use, set aside or
placed. -/
theorem runAll_permanent (reserved : Nat) {before edits : List Edit}
    (h : ((empty reserved).runAll before).keepsIds edits = true) :
    Permanent ((empty reserved).runAll before) edits :=
  ((empty_lawful reserved).runAll_lawful before).permanent h

/-- A placed statement with others around it: one insertion fails and uses up its id, a
renumbering is refused because of a dangling reference, and the placed statement is
deleted and brought back. -/
def revival : List Edit :=
  [.place (.variable ⟨1⟩) (.node (.const .null)) (.int 0),
    .append (.node (.ret (.variable ⟨2⟩))) none, .renumber true, .append (.int 5) none,
    .delete (.variable ⟨1⟩), .insertBefore (.variable ⟨1⟩) (.node (.const .null)) none,
    .set (.variable ⟨1⟩) (.node (.const .null))]

theorem runAll_permanent_revival :
    ((empty 2).runAll []).keepsIds revival = true ∧ Permanent ((empty 2).runAll []) revival ∧
      (empty 2).freshIds revival = [3, 5] ∧ ((empty 2).runAll revival).order = [5, 1, 3] :=
  have hkeeps : ((empty 2).runAll []).keepsIds revival = true := by decide +kernel
  ⟨hkeeps, runAll_permanent 2 hkeeps, by decide +kernel, by decide +kernel⟩

end Canvas
end SsaEdit
