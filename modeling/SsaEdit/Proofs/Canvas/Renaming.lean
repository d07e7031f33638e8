/-
A canvas under other ids.

`Roll.renamed σ` is a roll whose entries have other ids, and nothing else about them is
changed, the numbers in their references included.  A renumbering does not see the
difference as long as the references are to ids that stay: by `Roll.renumbered_renamed`
the same entries are left, and by `Roll.dangling_renamed` the same references are noted,
under the other ids of their statements.
-/
import Mathlib.Algebra.Group.End
import SsaEdit.Proofs.Canvas.Roll
import SsaEdit.Proofs.Node.Rewriting

namespace SsaEdit

/-- A record whose statement has another id. -/
def Dangling.renamed (σ : Equiv.Perm Nat) (d : Dangling) : Dangling := ⟨⟨σ d.user.id⟩, d.ref⟩

namespace Canvas

section Lists

variable {α : Type} (σ : Equiv.Perm Nat)

/-- The items under other ids. -/
def renameIds (items : List (Nat × α)) : List (Nat × α) := items.map (Prod.map σ id)

@[simp] theorem map_fst_renameIds (items : List (Nat × α)) :
    (renameIds σ items).map Prod.fst = (items.map Prod.fst).map σ := by
  rw [renameIds, List.map_map, List.map_map]
  rfl

@[simp] theorem length_renameIds (items : List (Nat × α)) :
    (renameIds σ items).length = items.length :=
  List.length_map _

/-- What stands under an id stands under the other one. -/
@[simp] theorem lookup_renameIds (items : List (Nat × α)) (id : Nat) :
    (renameIds σ items).lookup (σ id) = items.lookup id := by
  induction items with
  | nil => rfl
  | cons item rest ih =>
    have hsame : (σ id == σ item.1) = (id == item.1) := by
      rw [Bool.eq_iff_iff, beq_iff_eq, beq_iff_eq, σ.apply_eq_iff_eq]
    show List.lookup (σ id) ((σ item.1, item.2) :: renameIds σ rest) = _
    rw [List.lookup_cons, List.lookup_cons, hsame, ih]

theorem filter_renameIds (p : α → Bool) (items : List (Nat × α)) :
    (renameIds σ items).filter (fun item => p item.2) =
      renameIds σ (items.filter fun item => p item.2) :=
  List.filter_map

theorem renameIds_of_forall {σ : Equiv.Perm Nat} {items : List (Nat × α)}
    (h : ∀ id ∈ items.map Prod.fst, σ id = id) : renameIds σ items = items := by
  refine (List.map_congr_left fun item hitem => ?_).trans items.map_id
  exact Prod.ext (h _ (List.mem_map_of_mem hitem)) rfl

theorem putBefore_renameIds (anchor : Nat) (new : Nat × Slot) (entries : List (Nat × Slot)) :
    Roll.putBefore (σ anchor) (Prod.map σ id new) (renameIds σ entries) =
      renameIds σ (Roll.putBefore anchor new entries) := by
  rw [Roll.putBefore, Roll.putBefore, renameIds, renameIds, List.flatMap_map, List.map_flatMap]
  refine List.flatMap_congr fun entry _ => ?_
  by_cases h : entry.1 = anchor
  · have hσ : (Prod.map σ id entry).1 = σ anchor := congrArg σ h
    rw [if_pos h, if_pos hσ]
    rfl
  · have hσ : ¬ (Prod.map σ id entry).1 = σ anchor := fun hσ => h (σ.injective hσ)
    rw [if_neg h, if_neg hσ]
    rfl

end Lists

namespace Roll

/-- The roll with its entries under other ids. -/
def renamed (σ : Equiv.Perm Nat) (r : Roll) : Roll := ⟨renameIds σ r.entries, r.reserved, r.nextId⟩

variable {σ τ : Equiv.Perm Nat} {r : Roll}

theorem renamed_one (r : Roll) : r.renamed 1 = r :=
  congrArg (fun entries => (⟨entries, r.reserved, r.nextId⟩ : Roll))
    (renameIds_of_forall fun _ _ => rfl)

theorem renamed_renamed : (r.renamed σ).renamed τ = r.renamed (τ * σ) :=
  congrArg (fun entries => (⟨entries, r.reserved, r.nextId⟩ : Roll)) List.map_map

/-! ## Renumbering -/

/-- The references of live entries are to ids that stay. -/
def RefersToFixed (σ : Equiv.Perm Nat) (r : Roll) : Prop :=
  ∀ entry ∈ r.live, ∀ ref ∈ entry.2.statement.node.references, σ ref.id = ref.id

theorem live_renamed : (r.renamed σ).live = renameIds σ r.live :=
  filter_renameIds σ (fun slot : Slot => !slot.deleted) r.entries

theorem mapping_renamed :
    (r.renamed σ).renumbering.mapping = renameIds σ r.renumbering.mapping := by
  show List.zip _ _ = renameIds σ (List.zip _ _)
  rw [live_renamed]
  rw [map_fst_renameIds, length_renameIds, renameIds, ← List.zip_map_left]

theorem lookup_mapping_renamed (id : Nat) :
    (r.renamed σ).renumbering.mapping.lookup (σ id) = r.renumbering.mapping.lookup id := by
  rw [mapping_renamed, lookup_renameIds]

theorem lookup_mapping_of_fixed {id : Nat} (h : σ id = id) :
    (r.renamed σ).renumbering.mapping.lookup id = r.renumbering.mapping.lookup id := by
  conv_lhs => rw [← h]
  exact lookup_mapping_renamed id

theorem dropped_renamed :
    (r.renamed σ).renumbering.dropped = r.renumbering.dropped := by
  show (List.filter _ (renameIds σ r.entries)).length = _
  rw [filter_renameIds σ Slot.deleted, length_renameIds]
  rfl

theorem target_of_fixed {id : Nat} (h : σ id = id) :
    Renumbering.target (r.renamed σ).renumbering.mapping id =
      Renumbering.target r.renumbering.mapping id :=
  congrArg (·.getD danglingId) (lookup_mapping_of_fixed h)

/-- The same entries are left, ids included. -/
theorem renumbered_renamed (h : r.RefersToFixed σ) : (r.renamed σ).renumbered = r.renumbered := by
  have hslots : ((r.renamed σ).live.map fun entry =>
      entry.2.renumbered (r.renamed σ).renumbering.mapping) =
        r.live.map fun entry => entry.2.renumbered r.renumbering.mapping := by
    rw [live_renamed, renameIds, List.map_map]
    refine List.map_congr_left fun entry hentry => ?_
    have hnode := Node.mapIds_congr fun ref href =>
      target_of_fixed (r := r) (h entry hentry ref href)
    simp only [Function.comp_apply, Prod.map_snd, id_eq, Slot.renumbered, hnode]
  have hlength : (r.renamed σ).live.length = r.live.length := by rw [live_renamed, length_renameIds]
  rw [renumbered, renumbered, hslots, hlength]

theorem danglingIn_renamed {n : Node} (h : ∀ ref ∈ n.references, σ ref.id = ref.id) (id : Nat) :
    Renumbering.danglingIn (r.renamed σ).renumbering.mapping (σ id) n =
      (Renumbering.danglingIn r.renumbering.mapping id n).map (Dangling.renamed σ) := by
  have hsame : ∀ ref ∈ n.rewriteOrder,
      ((r.renamed σ).renumbering.mapping.lookup ref.id).isNone =
        (r.renumbering.mapping.lookup ref.id).isNone := fun ref href => by
    rw [lookup_mapping_of_fixed (h ref (n.rewriteOrder_perm.mem_iff.1 href))]
  rw [Renumbering.danglingIn, Renumbering.danglingIn, List.filter_congr hsame, List.map_map]
  rfl

/-- The same references are noted, in the same order. -/
theorem dangling_renamed (h : r.RefersToFixed σ) : (r.renamed σ).renumbering.dangling =
    r.renumbering.dangling.map (Dangling.renamed σ) := by
  have hflat : ∀ s : Roll, s.renumbering.dangling = s.live.flatMap fun entry =>
      Renumbering.danglingIn s.renumbering.mapping entry.1 entry.2.statement.node := fun _ => rfl
  rw [hflat, hflat, live_renamed, renameIds, List.flatMap_map, List.map_flatMap]
  exact List.flatMap_congr fun entry hentry => danglingIn_renamed (h entry hentry) entry.1

end Roll
end Canvas
end SsaEdit
