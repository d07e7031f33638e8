/-
What the search over the successors finds.

`IR.search` keeps the statements that it has not met.  Everything that is met came
out of the queue, so it can be reached from there; and whatever follows a met
statement is met as well or still in the queue, so once the queue is empty
nothing reachable is left.  `IR.mem_reachableFrom` puts the two together.
-/
import Mathlib.Data.List.Nodup
import Mathlib.Logic.Relation
import SsaEdit.Flow

namespace SsaEdit
namespace IR

/-! ## The search -/

section Search

variable {next : Nat → List Nat}

theorem search_nil (unmet : List Nat) : search next unmet [] = unmet := by
  rw [search]

theorem search_cons_of_mem {unmet rest : List Nat} {i : Nat} (h : i ∈ unmet) :
    search next unmet (i :: rest) = search next (unmet.erase i) (rest ++ next i) := by
  rw [search, if_pos h]

theorem search_cons_of_not_mem {unmet rest : List Nat} {i : Nat} (h : i ∉ unmet) :
    search next unmet (i :: rest) = search next unmet rest := by
  rw [search, if_neg h]

/-- Whatever follows a met statement is met as well or waits in the queue. -/
def Closed (next : Nat → List Nat) (unmet queue : List Nat) : Prop :=
  ∀ i, i ∉ unmet → ∀ j ∈ next i, j ∉ unmet ∨ j ∈ queue

theorem Closed.expand {unmet rest : List Nat} {i : Nat} (h : Closed next unmet (i :: rest))
    (hnd : unmet.Nodup) : Closed next (unmet.erase i) (rest ++ next i) := by
  intro k hk j hj
  rw [hnd.mem_erase_iff, not_and] at hk
  by_cases hki : k = i
  · subst hki
    exact Or.inr (List.mem_append_right _ hj)
  · rcases h k (hk hki) j hj with hmet | hqueued
    · exact Or.inl fun hm => hmet (List.mem_of_mem_erase hm)
    · rcases List.mem_cons.1 hqueued with rfl | hrest
      · exact Or.inl fun hm => (hnd.mem_erase_iff.1 hm).1 rfl
      · exact Or.inr (List.mem_append_left _ hrest)

/-- What is unmet at the end was unmet before and is not in the queue, and the met
statements are closed under `next`. -/
theorem search_closed {unmet queue : List Nat} (hnd : unmet.Nodup)
    (h : Closed next unmet queue) :
    search next unmet queue ⊆ unmet ∧ (∀ i ∈ queue, i ∉ search next unmet queue) ∧
      Closed next (search next unmet queue) [] := by
  induction unmet, queue using search.induct next with
  | case1 unmet =>
    rw [search_nil]
    exact ⟨List.Subset.refl _, fun _ hi => absurd hi List.not_mem_nil, h⟩
  | case2 unmet i rest hmem ih =>
    obtain ⟨hsub, hqueue, hclosed⟩ := ih (hnd.erase i) (h.expand hnd)
    rw [search_cons_of_mem hmem]
    refine ⟨fun k hk => List.mem_of_mem_erase (hsub hk), ?_, hclosed⟩
    intro k hk
    rcases List.mem_cons.1 hk with rfl | hrest
    · exact fun hfound => (hnd.mem_erase_iff.1 (hsub hfound)).1 rfl
    · exact hqueue k (List.mem_append_left _ hrest)
  | case3 unmet i rest hmem ih =>
    have hrest : Closed next unmet rest := by
      intro k hk j hj
      rcases h k hk j hj with hmet | hqueued
      · exact Or.inl hmet
      · rcases List.mem_cons.1 hqueued with rfl | hrest
        · exact Or.inl hmem
        · exact Or.inr hrest
    obtain ⟨hsub, hqueue, hclosed⟩ := ih hnd hrest
    rw [search_cons_of_not_mem hmem]
    refine ⟨hsub, ?_, hclosed⟩
    intro k hk
    rcases List.mem_cons.1 hk with rfl | hrest
    · exact fun hfound => hmem (hsub hfound)
    · exact hqueue k hrest

/-- What the search meets can be reached from the queue. -/
theorem search_sound {unmet queue : List Nat} {j : Nat} (hj : j ∈ unmet)
    (hmet : j ∉ search next unmet queue) :
    ∃ i ∈ queue, Relation.ReflTransGen (fun a b => b ∈ next a) i j := by
  induction unmet, queue using search.induct next with
  | case1 unmet =>
    rw [search_nil] at hmet
    exact absurd hj hmet
  | case2 unmet i rest hmem ih =>
    rw [search_cons_of_mem hmem] at hmet
    by_cases hji : j = i
    · subst hji
      exact ⟨j, List.mem_cons_self, .refl⟩
    · obtain ⟨k, hk, hpath⟩ := ih ((List.mem_erase_of_ne hji).2 hj) hmet
      rcases List.mem_append.1 hk with hrest | hnext
      · exact ⟨k, List.mem_cons_of_mem i hrest, hpath⟩
      · exact ⟨i, List.mem_cons_self, .head hnext hpath⟩
  | case3 unmet i rest hmem ih =>
    rw [search_cons_of_not_mem hmem] at hmet
    obtain ⟨k, hk, hpath⟩ := ih hj hmet
    exact ⟨k, List.mem_cons_of_mem i hk, hpath⟩

end Search

/-! ## Successors -/

variable {ir : IR}

theorem node?_eq_none {i : Nat} (h : ir.inRange i = false) : ir.node? i = none := by
  rw [node?, statement?]
  split
  · rfl
  · rename_i hpos
    have hlen : ir.body.length ≤ i - 1 := by
      simp only [inRange, Bool.and_eq_false_iff, decide_eq_false_iff_not] at h
      show ir.size ≤ i - 1
      omega
    rw [List.getElem?_eq_none hlen]
    rfl

theorem exists_node {i : Nat} (h : ir.inRange i = true) : ∃ n, ir.node? i = some n := by
  rw [inRange_iff] at h
  have hlt : i - 1 < ir.body.length := by
    show i - 1 < ir.size
    omega
  rw [node?, statement?, if_neg (by omega), List.getElem?_eq_getElem hlt]
  exact ⟨_, rfl⟩

theorem inRange_of_node? {i : Nat} {n : Node} (h : ir.node? i = some n) : ir.inRange i = true := by
  cases hrange : ir.inRange i with
  | true => rfl
  | false =>
    rw [node?_eq_none hrange] at h
    injection h

/-- The list of successors is the relation of flows. -/
theorem mem_successors {i j : Nat} : j ∈ ir.successors i ↔ ir.Flows i j := by
  constructor
  · intro h
    cases hn : ir.node? i with
    | none =>
      simp only [successors, hn] at h
      exact absurd h List.not_mem_nil
    | some n =>
      cases n with
      | branch target cond =>
        simp only [successors, hn, List.mem_append, List.mem_ite_nil_right, List.mem_ite_nil_left,
          List.mem_singleton] at h
        rcases h with ⟨hrange, rfl⟩ | ⟨hcond, hlt, rfl⟩
        · exact .jump hn hrange
        · exact .next hn (Bool.eq_false_iff.2 hcond) hlt
      | ret _ =>
        simp only [successors, hn, Node.isTerminator, if_true] at h
        exact absurd h List.not_mem_nil
      | call _ _ | phi _ | const _ | global _ | argument _ =>
        simp only [successors, hn, Node.isTerminator, Bool.false_eq_true, if_false,
          List.mem_ite_nil_right, List.mem_singleton] at h
        obtain ⟨hlt, rfl⟩ := h
        exact .next hn rfl hlt
  · intro h
    cases h with
    | jump here there => simp [successors, here, there]
    | @next n here passes there =>
      cases n with
      | branch target cond =>
        have hcond : cond.isNull = false := passes
        simp [successors, here, hcond, there]
      | ret _ => exact absurd passes.symm Bool.false_ne_true
      | call _ _ | phi _ | const _ | global _ | argument _ =>
        simp [successors, here, Node.isTerminator, there]

theorem Flows.inRange_left {i j : Nat} (h : ir.Flows i j) : ir.inRange i = true := by
  cases h with
  | jump here _ => exact inRange_of_node? here
  | next here _ _ => exact inRange_of_node? here

theorem Flows.inRange_right {i j : Nat} (h : ir.Flows i j) : ir.inRange j = true := by
  cases h with
  | jump _ there => exact there
  | next _ _ there =>
    rw [inRange_iff]
    omega

theorem mem_ids {i : Nat} : i ∈ List.range' 1 ir.size ↔ ir.inRange i = true := by
  rw [List.mem_range'_1, inRange_iff]
  omega

/-- Control can get from one statement to another over at least one edge. -/
def Reaches (ir : IR) : Nat → Nat → Prop := Relation.TransGen fun i j => j ∈ ir.successors i

theorem reaches_iff {i j : Nat} : ir.Reaches i j ↔ Relation.TransGen ir.Flows i j := by
  have hflows : (fun i j => j ∈ ir.successors i) = ir.Flows :=
    funext₂ fun _ _ => propext mem_successors
  rw [Reaches, hflows]

/-- The search finds the statements that can be reached over at least one edge, and
no others. -/
theorem mem_reachableFrom {i j : Nat} : j ∈ ir.reachableFrom i ↔ ir.Reaches i j := by
  have hnd : (List.range' 1 ir.size).Nodup := List.nodup_range'
  have hstart : Closed ir.successors (List.range' 1 ir.size) (ir.successors i) := by
    intro k hk j hj
    exact absurd (mem_ids.2 (mem_successors.1 hj).inRange_left) hk
  obtain ⟨-, hqueue, hclosed⟩ := search_closed hnd hstart
  have hmem : j ∈ ir.reachableFrom i ↔ j ∈ List.range' 1 ir.size ∧
      j ∉ search ir.successors (List.range' 1 ir.size) (ir.successors i) := by
    rw [reachableFrom, List.mem_filter]
    simp
  rw [hmem]
  clear hmem
  constructor
  · rintro ⟨hj, hmet⟩
    obtain ⟨k, hk, hpath⟩ := search_sound hj hmet
    exact .head' hk hpath
  · intro hpath
    have hmet : j ∉ search ir.successors (List.range' 1 ir.size) (ir.successors i) := by
      induction hpath with
      | single hedge => exact hqueue _ hedge
      | tail _ hedge ih =>
        rcases hclosed _ ih _ hedge with hmet | hqueued
        · exact hmet
        · exact absurd hqueued List.not_mem_nil
    refine ⟨?_, hmet⟩
    cases hpath with
    | single hedge => exact mem_ids.2 (mem_successors.1 hedge).inRange_right
    | tail _ hedge => exact mem_ids.2 (mem_successors.1 hedge).inRange_right

instance (i j : Nat) : Decidable (Relation.TransGen ir.Flows i j) :=
  decidable_of_iff (j ∈ ir.reachableFrom i) (mem_reachableFrom.trans reaches_iff)

end IR
end SsaEdit
