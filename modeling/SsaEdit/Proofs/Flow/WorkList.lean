/-
The search over the successors, turn by turn.

A work list holds what a search has met and what still waits in its queue.  A turn takes
the first of the queue off; unless it was met before, it is met now, and what follows it
waits behind the others.  The queue may hold a statement more than once and it grows
while it is consumed.  But a turn pays for what it adds: the queue, together with all
that the statements not yet met would still add to it, gets shorter by one
(`cost_turn`).  So the turns come to an end, and what is met by then is what the search
of `IR.reachableFrom` finds, because both go through the same queues (`search_turn`).
-/
import Mathlib.Algebra.BigOperators.Group.List.Basic
import Mathlib.Algebra.Order.BigOperators.Group.List
import Mathlib.Algebra.Order.Group.Nat
import Mathlib.Data.List.Cycle
import SsaEdit.Proofs.Flow.Reachability
import SsaEdit.Samples

namespace SsaEdit
namespace IR

/-- What a search has met, in the order of meeting, and what waits to be met. -/
structure WorkList where
  met : List Nat
  queue : List Nat
  deriving DecidableEq

namespace WorkList

/-- One turn of a search.  Nothing happens once the queue is empty. -/
def turn (next : Nat → List Nat) (w : WorkList) : WorkList :=
  match w.queue with
  | [] => w
  | i :: rest => if i ∈ w.met then ⟨w.met, rest⟩ else ⟨w.met ++ [i], rest ++ next i⟩

/-- The statements that were not met yet. -/
def unmet (ids : List Nat) (w : WorkList) : List Nat := ids.filter fun i => i ∉ w.met

/-- How many turns a search may still take: one for each entry of the queue, and one for
each that is yet to be added. -/
def cost (next : Nat → List Nat) (ids : List Nat) (w : WorkList) : Nat :=
  w.queue.length + ((w.unmet ids).flatMap next).length

variable {next : Nat → List Nat} {ids : List Nat}

theorem turn_nil (met : List Nat) : turn next ⟨met, []⟩ = ⟨met, []⟩ := rfl

theorem turn_met {met rest : List Nat} {i : Nat} (h : i ∈ met) :
    turn next ⟨met, i :: rest⟩ = ⟨met, rest⟩ := if_pos h

theorem turn_new {met rest : List Nat} {i : Nat} (h : i ∉ met) :
    turn next ⟨met, i :: rest⟩ = ⟨met ++ [i], rest ++ next i⟩ := if_neg h

/-- Meeting a statement takes it from those not met yet. -/
theorem unmet_new (hnd : ids.Nodup) (met queue queue' : List Nat) (i : Nat) :
    unmet ids ⟨met ++ [i], queue⟩ = (unmet ids ⟨met, queue'⟩).erase i := by
  rw [unmet, unmet, (hnd.filter _).erase_eq_filter, List.filter_filter]
  apply List.filter_congr
  intro j _
  by_cases hji : j = i
  · simp [hji]
  · simp [hji]

/-! ## Every turn costs one -/

/-- A turn that finds something in the queue leaves one turn less to be taken, also when
it adds to the queue. -/
theorem cost_turn (hnd : ids.Nodup) (hout : ∀ i, i ∉ ids → next i = []) {w : WorkList}
    (hqueue : w.queue ≠ []) : (w.turn next).cost next ids + 1 = w.cost next ids := by
  obtain ⟨met, queue⟩ := w
  cases queue with
  | nil => exact absurd rfl hqueue
  | cons i rest =>
    by_cases hmet : i ∈ met
    · rw [turn_met hmet]
      simp only [cost, unmet, List.length_cons]
      omega
    · rw [turn_new hmet]
      have hsum : ((unmet ids ⟨met ++ [i], rest ++ next i⟩).flatMap next).length +
          (next i).length = ((unmet ids ⟨met, i :: rest⟩).flatMap next).length := by
        rw [unmet_new hnd met _ (i :: rest) i, List.length_flatMap, List.length_flatMap]
        by_cases hi : i ∈ ids
        · have hmem : i ∈ unmet ids ⟨met, i :: rest⟩ :=
            List.mem_filter.2 ⟨hi, decide_eq_true hmet⟩
          rw [Nat.add_comm]
          exact List.sum_map_erase (fun i => (next i).length) hmem
        · have hmem : i ∉ unmet ids ⟨met, i :: rest⟩ := fun h => hi (List.mem_of_mem_filter h)
          rw [List.erase_of_not_mem hmem, hout i hi, List.length_nil, Nat.add_zero]
      simp only [cost, List.length_append, List.length_cons]
      omega

theorem iterate_turn_nil {w : WorkList} (h : w.queue = []) (k : Nat) : (turn next)^[k] w = w := by
  obtain ⟨met, queue⟩ := w
  subst h
  exact Function.iterate_fixed (turn_nil met) k

/-- The queue is empty after as many turns as the search may take. -/
theorem queue_eq_nil (hnd : ids.Nodup) (hout : ∀ i, i ∉ ids → next i = []) (w : WorkList) :
    ((turn next)^[w.cost next ids] w).queue = [] := by
  induction hcost : w.cost next ids generalizing w with
  | zero =>
    rw [cost, Nat.add_eq_zero_iff, List.length_eq_zero_iff] at hcost
    exact hcost.1
  | succ k ih =>
    by_cases hqueue : w.queue = []
    · rw [iterate_turn_nil hqueue]
      exact hqueue
    · have hless := cost_turn hnd hout hqueue
      rw [Function.iterate_succ_apply]
      exact ih (w.turn next) (by omega)

/-! ## What is met in the end -/

/-- A turn is one unfolding of the search over the statements not met yet. -/
theorem search_turn (hnd : ids.Nodup) (hout : ∀ i, i ∉ ids → next i = []) (w : WorkList) :
    search next ((w.turn next).unmet ids) (w.turn next).queue =
      search next (w.unmet ids) w.queue := by
  obtain ⟨met, queue⟩ := w
  cases queue with
  | nil => rfl
  | cons i rest =>
    by_cases hmet : i ∈ met
    · have hmem : i ∉ unmet ids ⟨met, i :: rest⟩ := fun h =>
        of_decide_eq_true (List.mem_filter.1 h).2 hmet
      rw [turn_met hmet, search_cons_of_not_mem hmem]
      rfl
    · rw [turn_new hmet, unmet_new hnd met _ (i :: rest) i]
      by_cases hi : i ∈ ids
      · have hmem : i ∈ unmet ids ⟨met, i :: rest⟩ :=
          List.mem_filter.2 ⟨hi, decide_eq_true hmet⟩
        rw [search_cons_of_mem hmem]
      · have hmem : i ∉ unmet ids ⟨met, i :: rest⟩ := fun h => hi (List.mem_of_mem_filter h)
        rw [search_cons_of_not_mem hmem, List.erase_of_not_mem hmem, hout i hi, List.append_nil]

theorem search_iterate_turn (hnd : ids.Nodup) (hout : ∀ i, i ∉ ids → next i = []) (k : Nat)
    (w : WorkList) :
    search next (((turn next)^[k] w).unmet ids) ((turn next)^[k] w).queue =
      search next (w.unmet ids) w.queue := by
  induction k generalizing w with
  | zero => rfl
  | succ k ih =>
    rw [Function.iterate_succ_apply, ih (w.turn next), search_turn hnd hout]

/-- Nothing is met twice, and whatever is met or waits is one of some statements. -/
structure Within (ids : List Nat) (w : WorkList) : Prop where
  nodup : w.met.Nodup
  met : ∀ i ∈ w.met, i ∈ ids
  queue : ∀ i ∈ w.queue, i ∈ ids

theorem Within.turn (hnext : ∀ i, ∀ j ∈ next i, j ∈ ids) {w : WorkList} (h : w.Within ids) :
    (w.turn next).Within ids := by
  obtain ⟨met, queue⟩ := w
  obtain ⟨hnodup, hmets, hqueue⟩ := h
  cases queue with
  | nil => exact ⟨hnodup, hmets, hqueue⟩
  | cons i rest =>
    obtain ⟨hi, hrest⟩ := List.forall_mem_cons.1 hqueue
    by_cases hmet : i ∈ met
    · rw [turn_met hmet]
      exact ⟨hnodup, hmets, hrest⟩
    · rw [turn_new hmet]
      refine ⟨?_, ?_, List.forall_mem_append.2 ⟨hrest, hnext i⟩⟩
      · exact List.nodup_append_comm.1 (List.nodup_cons.2 ⟨hmet, hnodup⟩)
      · exact List.forall_mem_append.2 ⟨hmets, List.forall_mem_singleton.2 hi⟩

theorem Within.iterate_turn (hnext : ∀ i, ∀ j ∈ next i, j ∈ ids) (k : Nat) {w : WorkList}
    (h : w.Within ids) : ((WorkList.turn next)^[k] w).Within ids := by
  induction k generalizing w with
  | zero => exact h
  | succ k ih =>
    rw [Function.iterate_succ_apply]
    exact ih (h.turn hnext)

end WorkList

/-! ## The successors of statements -/

variable {ir : IR}

theorem length_successors (i : Nat) : (ir.successors i).length ≤ 2 := by
  have hfollowing : (if i < ir.size then [i + 1] else []).length ≤ 1 := by
    split <;> simp
  cases hn : ir.node? i with
  | none => simp [successors, hn]
  | some n =>
    cases n with
    | branch target cond =>
      have hjump : (if ir.inRange target.id then [target.id] else []).length ≤ 1 := by
        split <;> simp
      have hpass : (if cond.isNull then [] else if i < ir.size then [i + 1] else []).length ≤ 1 := by
        split
        · simp
        · exact hfollowing
      simp only [successors, hn, List.length_append]
      omega
    | ret _ => simp [successors, hn, Node.isTerminator]
    | call _ _ | phi _ | const _ | global _ | argument _ =>
      simp only [successors, hn, Node.isTerminator, Bool.false_eq_true, if_false]
      omega

theorem successors_of_not_mem (ir : IR) (i : Nat) (h : i ∉ List.range' 1 ir.size) :
    ir.successors i = [] := by
  rw [mem_ids, Bool.not_eq_true] at h
  simp [successors, node?_eq_none h]

theorem mem_ids_of_mem_successors (ir : IR) (i j : Nat) (h : j ∈ ir.successors i) :
    j ∈ List.range' 1 ir.size :=
  mem_ids.2 (mem_successors.1 h).inRange_right

/-- The search from a statement before its first turn. -/
def searchFrom (ir : IR) (start : Nat) : WorkList := ⟨[], ir.successors start⟩

theorem unmet_searchFrom (start : Nat) :
    (ir.searchFrom start).unmet (List.range' 1 ir.size) = List.range' 1 ir.size := by
  simp [searchFrom, WorkList.unmet]

theorem cost_searchFrom (start : Nat) :
    (ir.searchFrom start).cost ir.successors (List.range' 1 ir.size) ≤ 2 * ir.size + 2 := by
  have hsum : ((List.range' 1 ir.size).flatMap ir.successors).length ≤
      ((List.range' 1 ir.size).map fun i => (ir.successors i).length).length * 2 := by
    rw [List.length_flatMap]
    refine List.sum_le_card_nsmul _ 2 fun len hlen => ?_
    obtain ⟨i, -, rfl⟩ := List.mem_map.1 hlen
    exact length_successors i
  rw [List.length_map, List.length_range'] at hsum
  have hfirst : (ir.searchFrom start).queue.length ≤ 2 := length_successors start
  rw [WorkList.cost, unmet_searchFrom]
  omega

/-- When the queue is empty, the statements that were met are those found. -/
theorem perm_reachableFrom {start k : Nat}
    (hdone : ((WorkList.turn ir.successors)^[k] (ir.searchFrom start)).queue = []) :
    ((WorkList.turn ir.successors)^[k] (ir.searchFrom start)).met.Perm
      (ir.reachableFrom start) := by
  have hids : (List.range' 1 ir.size).Nodup := List.nodup_range'
  have hwithin : (ir.searchFrom start).Within (List.range' 1 ir.size) :=
    ⟨List.nodup_nil, fun _ h => absurd h List.not_mem_nil, ir.mem_ids_of_mem_successors start⟩
  have hend := hwithin.iterate_turn ir.mem_ids_of_mem_successors k
  have hsearch := WorkList.search_iterate_turn hids ir.successors_of_not_mem k (ir.searchFrom start)
  rw [hdone, search_nil, unmet_searchFrom] at hsearch
  refine (List.perm_ext_iff_of_nodup hend.nodup (hids.filter _)).2 fun j => ?_
  have hleft : j ∈ search ir.successors (List.range' 1 ir.size) (ir.successors start) ↔
      j ∈ List.range' 1 ir.size ∧
        j ∉ ((WorkList.turn ir.successors)^[k] (ir.searchFrom start)).met := by
    rw [show search ir.successors (List.range' 1 ir.size) (ir.successors start) = _ from
      hsearch.symm, WorkList.unmet, List.mem_filter, decide_eq_true_eq]
  rw [List.mem_filter, Bool.not_eq_true', ← Bool.not_eq_true, List.contains_iff_mem, hleft]
  constructor
  · exact fun hmet => ⟨hend.met j hmet, fun hnot => hnot.2 hmet⟩
  · exact fun ⟨hj, hnot⟩ => not_not.1 fun hmet => hnot ⟨hj, hmet⟩

/-! ## Cycles -/

/-- A statement reaches itself exactly if it lies on a cycle. -/
theorem transGen_self_iff {start : Nat} : Relation.TransGen ir.Flows start start ↔
    ∃ c : Cycle Nat, start ∈ c ∧ c.Chain ir.Flows := by
  constructor
  · intro hpath
    obtain ⟨last, hreach, hback⟩ := Relation.TransGen.tail'_iff.1 hpath
    obtain ⟨others, hchain, hlast⟩ :=
      List.exists_isChain_cons_of_relationReflTransGen hreach
    refine ⟨(start :: others : List Nat), List.mem_cons_self, ?_⟩
    rw [Cycle.chain_coe_cons, ← List.cons_append, List.isChain_append]
    refine ⟨hchain, .singleton start, fun x hx y hy => ?_⟩
    rw [List.getLast?_eq_some_getLast (List.cons_ne_nil start others), hlast] at hx
    cases hx
    cases hy
    exact hback
  · rintro ⟨c, hmem, hchain⟩
    have hclosed : c.Chain (Relation.TransGen ir.Flows) := hchain.imp fun _ _ => .single
    exact Cycle.chain_iff_pairwise.1 hclosed start hmem start hmem

/-- The search ends, after two turns for every statement and two more at most, and what it
has met by then are the statements that can be reached from the start over at least one
edge, each once.  The start is among them exactly if it lies on a cycle.  The start need
not be a statement; what is found is one. -/
theorem reachableFrom_exact (ir : IR) (start : Nat) :
    (∃ k ≤ 2 * ir.size + 2, ∃ met,
      (WorkList.turn ir.successors)^[k] ⟨[], ir.successors start⟩ = ⟨met, []⟩ ∧
        met.Perm (ir.reachableFrom start)) ∧
    (∀ j, j ∈ ir.reachableFrom start ↔ Relation.TransGen ir.Flows start j) ∧
    (start ∈ ir.reachableFrom start ↔ ∃ c : Cycle Nat, start ∈ c ∧ c.Chain ir.Flows) ∧
    ∀ j ∈ ir.reachableFrom start, 1 ≤ j ∧ j ≤ ir.size := by
  have hexact : ∀ j, j ∈ ir.reachableFrom start ↔ Relation.TransGen ir.Flows start j :=
    fun _ => mem_reachableFrom.trans reaches_iff
  refine ⟨?_, hexact, (hexact start).trans transGen_self_iff, fun j hj => ?_⟩
  · have hdone := WorkList.queue_eq_nil List.nodup_range' ir.successors_of_not_mem
      (ir.searchFrom start)
    refine ⟨_, cost_searchFrom start, _, ?_, perm_reachableFrom hdone⟩
    exact congrArg (WorkList.mk _) hdone
  · exact inRange_iff.1 (mem_ids.1 (List.mem_of_mem_filter hj))

/-- From the phi of the counting loop everything but the argument is met, the phi last. -/
example : (WorkList.turn Samples.countingLoop.successors)^[6] (Samples.countingLoop.searchFrom 2) =
    ⟨[3, 4, 7, 5, 6, 2], [3]⟩ := by
  decide +kernel

end IR
end SsaEdit
