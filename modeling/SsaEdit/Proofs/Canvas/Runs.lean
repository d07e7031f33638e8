/-
Edits in a row around one copy.

The edits of a plan go to the last statement of the canvas: some are put before it,
it is overwritten or deleted, and more go to the end.  `Lawful.plan_runs` says that
they all succeed and what stands on the canvas then, as the pieces of the plan.
-/
import SsaEdit.Proofs.Canvas.Edits
import SsaEdit.Proofs.Session.Plan

namespace SsaEdit
namespace Canvas

/-- Edits performed one after the other, none of which fails. -/
inductive Runs : Canvas → List Edit → Canvas → Prop
  | nil (c : Canvas) : Runs c [] c
  | cons {c mid after : Canvas} {e : Edit} {rest : List Edit} {answer : Answer}
    (head : c.run e = (mid, .ok answer)) (tail : Runs mid rest after) : Runs c (e :: rest) after

theorem Runs.one {c after : Canvas} {e : Edit} {answer : Answer}
    (h : c.run e = (after, .ok answer)) : Runs c [e] after :=
  .cons h (.nil after)

theorem Runs.append {c mid after : Canvas} {first second : List Edit} (h : Runs c first mid)
    (h' : Runs mid second after) : Runs c (first ++ second) after := by
  induction h with
  | nil _ => exact h'
  | cons head _ ih => exact .cons head (ih h')

/-! ## Entries as pieces -/

/-- What a live entry is in the result, when the ids up to `n` are those of the
source. -/
def pieceOf (n : Nat) (entry : Nat × Slot) : Piece :=
  ⟨if entry.1 ≤ n then some entry.1 else none, entry.2.statement, entry.2.location⟩

/-- The live ones among some entries as pieces. -/
def piecesOf (n : Nat) (entries : List (Nat × Slot)) : List Piece :=
  (entries.filter fun entry => !entry.2.deleted).map (pieceOf n)

@[simp] theorem piecesOf_append (n : Nat) (a b : List (Nat × Slot)) :
    piecesOf n (a ++ b) = piecesOf n a ++ piecesOf n b := by
  rw [piecesOf, List.filter_append, List.map_append]
  rfl

theorem piecesOf_deleted {n id : Nat} {slot : Slot} (h : slot.deleted = true) :
    piecesOf n [(id, slot)] = [] := by
  simp [piecesOf, h]

theorem piecesOf_source {n id : Nat} {slot : Slot} (hlive : slot.deleted = false) (hid : id ≤ n) :
    piecesOf n [(id, slot)] = [⟨some id, slot.statement, slot.location⟩] := by
  simp [piecesOf, pieceOf, hlive, hid]

theorem piecesOf_fresh {n id : Nat} (hid : n < id) (s : Statement) (location : Value) :
    piecesOf n [(id, ⟨s, location, false⟩)] = [.fresh s location] := by
  simp [piecesOf, pieceOf, Piece.fresh, Nat.not_le.2 hid]

theorem map_origin_piecesOf (n : Nat) (c : Canvas) :
    (piecesOf n c.entries).map Piece.origin =
      (c.liveEntries.map Prod.fst).map fun id => if id ≤ n then some id else none := by
  rw [piecesOf, List.map_map, List.map_map]
  rfl

namespace Lawful

variable {c : Canvas} {pre : List (Nat × Slot)} {id : Nat} {slot : Slot}

/-- No other entry has the id of one. -/
theorem not_mem_around (h : c.Lawful) {post : List (Nat × Slot)}
    (hsplit : c.entries = pre ++ (id, slot) :: post) :
    id ∉ pre.map Prod.fst ∧ id ∉ post.map Prod.fst := by
  have hkeys := h.keys_nodup
  rw [hsplit, List.map_append, List.map_cons, List.nodup_middle, List.nodup_cons,
    List.mem_append, not_or] at hkeys
  exact hkeys.1

theorem split_unique (h : c.Lawful) (hlast : c.entries = pre ++ [(id, slot)])
    {pre' post : List (Nat × Slot)} (hsplit : c.entries = pre' ++ (id, slot) :: post) :
    pre' = pre ∧ post = [] := by
  obtain ⟨hfront, hback⟩ := h.not_mem_around hsplit
  have hfront : (id, slot) ∉ pre' := fun hmem => hfront (List.mem_map.2 ⟨_, hmem, rfl⟩)
  have hback : (id, slot) ∉ post := fun hmem => hback (List.mem_map.2 ⟨_, hmem, rfl⟩)
  rw [hlast] at hsplit
  obtain ⟨hpre, -, hpost⟩ := (List.append_cons_inj_of_notMem hfront hback).1 hsplit.symm
  exact ⟨hpre, hpost⟩

/-- An entry at the end can be read. -/
theorem getElem?_last (h : c.Lawful) (hlast : c.entries = pre ++ [(id, slot)]) :
    c.slots[id]? = some slot := by
  rw [← h.mem_entries, hlast]
  exact List.mem_append_right _ List.mem_cons_self

theorem replaceSlot_last (h : c.Lawful) (hlast : c.entries = pre ++ [(id, slot)]) (new : Slot) :
    replaceSlot id new c.entries = pre ++ [(id, new)] := by
  rw [hlast, replaceSlot_append, replaceSlot_of_not_mem (h.not_mem_around hlast).1]
  simp [replaceSlot]

/-! ## The three parts of a plan -/

/-- Statements put before the last one stand there in order, at its location. -/
theorem insertAll_runs (h : c.Lawful) (hlast : c.entries = pre ++ [(id, slot)])
    (items : List Statement) :
    ∃ after mid, c.Runs (items.map fun s => .insertBefore (.variable ⟨id⟩) s.toValue none) after ∧
      after.Lawful ∧ after.reserved = c.reserved ∧ after.entries = mid ++ [(id, slot)] ∧
      piecesOf c.reserved mid =
        piecesOf c.reserved pre ++ items.map (Piece.fresh · slot.location) := by
  induction items generalizing c pre with
  | nil => exact ⟨c, pre, .nil c, h, rfl, hlast, (List.append_nil _).symm⟩
  | cons s rest ih =>
    obtain ⟨next, pre', post, hrun, hgrown⟩ :=
      h.insertBefore_grown (v := ⟨id⟩) (h.getElem?_last hlast)
        (show s.toValue.asStatement = .ok s from rfl) none
    obtain ⟨hpre, hpost⟩ := h.split_unique hlast hgrown.before
    subst hpre hpost
    have hentries : next.entries =
        (pre' ++ [(c.nextId, ⟨s, slot.location, false⟩)]) ++ [(id, slot)] := by
      rw [hgrown.entries, List.append_assoc]
      rfl
    obtain ⟨after, mid, hruns, hlawful, hreserved, hafter, hpieces⟩ := ih hgrown.lawful hentries
    have hhead : c.run (.insertBefore (.variable ⟨id⟩) s.toValue none) =
        (next, .ok (.id ⟨c.nextId⟩)) := by
      simp [run, Value.asAddress, hrun, Except.map]
    rw [hgrown.reserved] at hreserved hpieces
    refine ⟨after, mid, .cons hhead hruns, hlawful, hreserved, hafter, ?_⟩
    rw [hpieces, piecesOf_append, piecesOf_fresh h.reserved_lt, List.append_assoc]
    rfl

theorem action_runs (h : c.Lawful) (hlast : c.entries = pre ++ [(id, slot)])
    (hlive : slot.deleted = false) (hid : id ≤ c.reserved) (action : Action) :
    ∃ after new, c.Runs (action.edits ⟨id⟩) after ∧ after.Lawful ∧
      after.reserved = c.reserved ∧ after.entries = pre ++ [(id, new)] ∧
      piecesOf c.reserved [(id, new)] =
        (action.outcome slot.statement).toList.map (⟨some id, ·, slot.location⟩) := by
  have hslot := h.getElem?_last hlast
  cases action with
  | keep => exact ⟨c, slot, .nil c, h, rfl, hlast, piecesOf_source hlive hid⟩
  | replace s =>
    obtain ⟨after, hset, hrevised⟩ := h.set_revised (v := ⟨id⟩) hslot
      (show s.toValue.asStatement = .ok s from rfl)
    have hrun : c.run (.set (.variable ⟨id⟩) s.toValue) = (after, .ok .done) := by
      simp [run, Value.asAddress, Except.bind, hset, settle]
    refine ⟨after, _, .one hrun, hrevised.lawful, hrevised.reserved,
      hrevised.entries.trans (h.replaceSlot_last hlast _), ?_⟩
    exact piecesOf_source rfl hid
  | delete =>
    obtain ⟨after, hdelete, hrevised⟩ := h.delete_revised (v := ⟨id⟩) hslot hlive
    have hrun : c.run (.delete (.variable ⟨id⟩)) = (after, .ok .done) := by
      simp [run, Value.asAddress, Except.bind, hdelete, settle]
    refine ⟨after, _, .one hrun, hrevised.lawful, hrevised.reserved,
      hrevised.entries.trans (h.replaceSlot_last hlast _), ?_⟩
    exact piecesOf_deleted rfl

theorem appendAll_runs (h : c.Lawful) (items : List (Statement × Value)) :
    ∃ after, c.Runs (items.map fun item => .append item.1.toValue (some item.2)) after ∧
      after.Lawful ∧ after.reserved = c.reserved ∧
      piecesOf c.reserved after.entries =
        piecesOf c.reserved c.entries ++ items.map fun item => .fresh item.1 item.2 := by
  induction items generalizing c with
  | nil => exact ⟨c, .nil c, h, rfl, (List.append_nil _).symm⟩
  | cons item rest ih =>
    obtain ⟨next, hrun, hgrown⟩ :=
      h.append_grown (show item.1.toValue.asStatement = .ok item.1 from rfl) (some item.2)
    obtain ⟨after, hruns, hlawful, hreserved, hpieces⟩ := ih hgrown.lawful
    have hhead : c.run (.append item.1.toValue (some item.2)) =
        (next, .ok (.id ⟨c.nextId⟩)) := by
      simp [run, hrun, Except.map]
    rw [hgrown.reserved] at hreserved hpieces
    refine ⟨after, .cons hhead hruns, hlawful, hreserved, ?_⟩
    rw [hpieces, hgrown.entries, piecesOf_append, Option.getD_some,
      piecesOf_fresh h.reserved_lt, List.append_assoc]
    rfl

/-- The edits of a plan at the last statement of the canvas. -/
theorem plan_runs (h : c.Lawful) (hlast : c.entries = pre ++ [(id, slot)])
    (hlive : slot.deleted = false) (hid : id ≤ c.reserved) (p : StepPlan) :
    ∃ after, c.Runs (p.edits ⟨id⟩) after ∧
      piecesOf c.reserved after.entries =
        piecesOf c.reserved pre ++ p.pieces id slot.statement slot.location := by
  obtain ⟨c₁, mid, hruns₁, hlawful₁, hreserved₁, hlast₁, hpieces₁⟩ :=
    h.insertAll_runs hlast p.before
  rw [← hreserved₁] at hid
  obtain ⟨c₂, new, hruns₂, hlawful₂, hreserved₂, hlast₂, hpieces₂⟩ :=
    hlawful₁.action_runs hlast₁ hlive hid p.action
  obtain ⟨c₃, hruns₃, -, -, hpieces₃⟩ := hlawful₂.appendAll_runs p.after
  refine ⟨c₃, (hruns₁.append hruns₂).append hruns₃, ?_⟩
  rw [hreserved₂, hreserved₁] at hpieces₃
  rw [hreserved₁] at hpieces₂
  rw [hpieces₃, hlast₂, piecesOf_append, hpieces₁, hpieces₂]
  simp only [StepPlan.pieces, List.append_assoc]

end Lawful
end Canvas
end SsaEdit
