/-
Basic blocks are entered at their first statement only.

A statement that begins no block follows the one before it, which leads nowhere else,
and nothing else leads to it.  So control goes straight through a block: its first
statement reaches all others (`transGen_of_inBlock`).  And a path into a block passes
its first statement (`leader_mem_path`): going back along the path from its end, one
statement before the other, one does not leave the block until the first is met.
-/
import Mathlib.Data.List.Chain
import Mathlib.Data.Nat.Find
import Mathlib.Order.Bounds.Basic
import SsaEdit.Proofs.Flow.Blocks
import SsaEdit.Samples

namespace SsaEdit
namespace IR

variable {ir : IR} {i l : Nat}

theorem mem_leaders : i ∈ ir.leaders ↔ ir.StartsBlock i := by
  rw [leaders, List.mem_filter, isLeader_iff, and_iff_right_iff_imp]
  intro hstart
  rw [← isLeader_iff, isLeader, Bool.and_eq_true] at hstart
  exact mem_ids.2 hstart.1

/-- Past the first statement of all, blocks begin where a branch jumps to and after
branches and returns. -/
theorem startsBlock_iff (hi : 1 < i) : ir.StartsBlock i ↔ i ≤ ir.size ∧
    ((∃ k target cond, ir.node? k = some (.branch target cond) ∧ target.id = i) ∨
      (∃ target cond, ir.node? (i - 1) = some (.branch target cond)) ∨
      ∃ value, ir.node? (i - 1) = some (.ret value)) := by
  have hne : i ≠ 1 := Nat.ne_of_gt hi
  have hpos : 1 ≤ i := Nat.le_of_lt hi
  rw [← isLeader_iff, isLeader]
  simp only [Bool.and_eq_true, Bool.or_eq_true, beq_iff_eq, inRange_iff, isTarget_iff,
    endsBlock_iff, hne, hpos, false_or, true_and]

/-! ## Statements that begin no block -/

section Inside

variable (hi : 2 ≤ i) (hsize : i ≤ ir.size) (hinside : ¬ ir.StartsBlock i)
include hi hsize hinside

/-- What stands before a statement that begins no block goes on to it. -/
theorem exists_node_before : ∃ n, ir.node? (i - 1) = some n ∧ n.isTerminator = false ∧
    ir.successors (i - 1) = [i] := by
  have hsucc : i - 1 + 1 = i := by omega
  have hlt : i - 1 < ir.size := by omega
  obtain ⟨n, hn⟩ := exists_node (inRange_iff.2 ⟨show 1 ≤ i - 1 by omega, Nat.le_of_lt hlt⟩)
  refine ⟨n, hn, ?_⟩
  cases n with
  | branch target cond => exact absurd (hsucc ▸ .afterBranch hn hlt) hinside
  | ret value => exact absurd (hsucc ▸ .afterReturn hn hlt) hinside
  | call _ _ | phi _ | const _ | global _ | argument _ =>
    refine ⟨rfl, ?_⟩
    simp only [successors, hn, Node.isTerminator, Bool.false_eq_true, if_false, if_pos hlt, hsucc]

/-- Only the statement before it leads to a statement that begins no block. -/
theorem flows_iff_before {k : Nat} : ir.Flows k i ↔ k = i - 1 := by
  constructor
  · intro hflow
    cases hflow with
    | jump here there => exact absurd (.target here there) hinside
    | next _ _ _ => rfl
  · rintro rfl
    obtain ⟨n, hn, hpasses, -⟩ := exists_node_before hi hsize hinside
    have hflow : ir.Flows (i - 1) (i - 1 + 1) := .next hn hpasses (by omega)
    rwa [show i - 1 + 1 = i by omega] at hflow

end Inside

/-! ## The statements of a block -/

/-- A block holds what stands from its leader up to the next. -/
structure InBlock (ir : IR) (l i : Nat) : Prop where
  leader : l ∈ ir.leaders
  behind : l ≤ i
  size : i ≤ ir.size
  before : ∀ next ∈ ir.leaders, l < next → i < next

theorem InBlock.not_startsBlock (h : ir.InBlock l i) (hlt : l < i) : ¬ ir.StartsBlock i :=
  fun hstart => Nat.lt_irrefl i (h.before i (mem_leaders.2 hstart) hlt)

theorem InBlock.one_le (h : ir.InBlock l i) : 1 ≤ l :=
  (inRange_iff.1 (mem_ids.1 (List.mem_of_mem_filter h.leader))).1

theorem InBlock.mono (h : ir.InBlock l i) {k : Nat} (hlk : l ≤ k) (hki : k ≤ i) :
    ir.InBlock l k :=
  ⟨h.leader, hlk, hki.trans h.size, fun next hnext hlt =>
    Nat.lt_of_le_of_lt hki (h.before next hnext hlt)⟩

/-- Inside a block control comes from the statement before. -/
theorem InBlock.flows_iff (h : ir.InBlock l i) (hlt : l < i) {k : Nat} :
    ir.Flows k i ↔ k = i - 1 := by
  have hpos := h.one_le
  exact flows_iff_before (by omega) h.size (h.not_startsBlock hlt)

/-- The first statement of a block reaches all others. -/
theorem transGen_of_inBlock (h : ir.InBlock l i) (hlt : l < i) :
    Relation.TransGen ir.Flows l i := by
  induction i, hlt using Nat.le_induction with
  | base => exact .single ((h.flows_iff (Nat.lt_succ_self l)).2 rfl)
  | succ k hlk ih =>
    have hbefore : ir.InBlock l k := h.mono (Nat.le_of_lt hlk) (Nat.le_succ k)
    exact (ih hbefore).tail ((h.flows_iff (Nat.lt_succ_of_lt hlk)).2 rfl)

/-- A path from outside a block to a statement of it passes the first statement of the
block. -/
theorem leader_mem_path {path : List Nat} (hpath : path.IsChain ir.Flows) (h : ir.InBlock l i)
    (hfirst : ∀ s ∈ path.head?, ¬ ir.InBlock l s) (hlast : path.getLast? = some i) :
    l ∈ path := by
  induction path using List.reverseRecOn generalizing i with
  | nil => cases hlast
  | append_singleton before last ih =>
    rw [List.getLast?_concat] at hlast
    obtain rfl := Option.some.inj hlast
    rcases Nat.eq_or_lt_of_le h.behind with rfl | hlt
    · exact List.mem_append_right _ List.mem_cons_self
    · cases hbefore : before.getLast? with
      | none =>
        rw [List.getLast?_eq_none_iff] at hbefore
        subst hbefore
        exact absurd h (hfirst last rfl)
      | some previous =>
        obtain ⟨hchain, -, hedge⟩ := List.isChain_append.1 hpath
        have hprevious : previous = last - 1 :=
          (h.flows_iff hlt).1 (hedge previous hbefore last rfl)
        have hin : ir.InBlock l previous := h.mono (by omega) (by omega)
        have hhead : ∀ s ∈ before.head?, ¬ ir.InBlock l s := fun s hs =>
          hfirst s (List.head?_append_of_ne_nil before (by rintro rfl; cases hs) ▸ hs)
        exact List.mem_append_left _ (ih hchain hin hhead hbefore)

/-! ## Leaders and flow -/

/-- Every statement is in the block of the greatest leader that is not behind it. -/
theorem exists_greatest_leader (hpos : 1 ≤ i) (hsize : i ≤ ir.size) :
    ∃ l, IsGreatest {k | k ∈ ir.leaders ∧ k ≤ i} l := by
  have hone : 1 ∈ ir.leaders := mem_leaders.2 (.first (hpos.trans hsize))
  refine ⟨Nat.findGreatest (· ∈ ir.leaders) i, ⟨?_, Nat.findGreatest_le i⟩, ?_⟩
  · exact Nat.findGreatest_spec hpos hone
  · rintro k ⟨hk, hki⟩
    exact Nat.le_findGreatest hki hk

theorem inBlock_of_isGreatest (hsize : i ≤ ir.size)
    (h : IsGreatest {k | k ∈ ir.leaders ∧ k ≤ i} l) : ir.InBlock l i := by
  obtain ⟨⟨hleader, hle⟩, hgreatest⟩ := h
  refine ⟨hleader, hle, hsize, fun next hnext hlt => ?_⟩
  by_contra hnot
  exact absurd (hgreatest ⟨hnext, Nat.le_of_not_lt hnot⟩) (Nat.not_le.2 hlt)

/-- Past the first statement, leaders are where branches jump to and what stands after
branches and returns; any other statement and the one before it lead to each other
alone.  So the greatest leader up to a statement reaches all from there to the
statement, and every path to the statement from outside the block of that leader passes
through it. -/
theorem leaders_singleEntry (ir : IR) :
    (∀ i, 2 ≤ i → i ≤ ir.size → i ∉ ir.leaders →
      (∀ k, i ∈ ir.successors k ↔ k = i - 1) ∧ ir.successors (i - 1) = [i]) ∧
    (∀ i, 1 < i → (i ∈ ir.leaders ↔ i ≤ ir.size ∧
      ((∃ k target cond, ir.node? k = some (.branch target cond) ∧ target.id = i) ∨
        (∃ target cond, ir.node? (i - 1) = some (.branch target cond)) ∨
        ∃ value, ir.node? (i - 1) = some (.ret value)))) ∧
    ∀ i, 1 ≤ i → i ≤ ir.size → ∃ l, IsGreatest {k | k ∈ ir.leaders ∧ k ≤ i} l ∧
      (∀ k, l < k → k ≤ i → Relation.TransGen ir.Flows l k) ∧
      ∀ path : List Nat, path.IsChain ir.Flows → (∀ s ∈ path.head?, ¬ ir.InBlock l s) →
        path.getLast? = some i → l ∈ path := by
  refine ⟨fun i hi hsize hinside => ?_, fun i hi => mem_leaders.trans (startsBlock_iff hi),
    fun i hpos hsize => ?_⟩
  · rw [mem_leaders] at hinside
    obtain ⟨n, -, -, hsuccessors⟩ := exists_node_before hi hsize hinside
    exact ⟨fun k => mem_successors.trans (flows_iff_before hi hsize hinside), hsuccessors⟩
  · obtain ⟨l, hgreatest⟩ := exists_greatest_leader hpos hsize
    have hblock := inBlock_of_isGreatest hsize hgreatest
    refine ⟨l, hgreatest, fun k hlk hki => ?_, fun path hpath hfirst hlast => ?_⟩
    · exact transGen_of_inBlock (hblock.mono (Nat.le_of_lt hlk) hki) hlk
    · exact leader_mem_path hpath hblock hfirst hlast

/-- The blocks of the counting loop. -/
example : Samples.countingLoop.leaders = [1, 2, 5, 7] := by decide +kernel

end IR
end SsaEdit
