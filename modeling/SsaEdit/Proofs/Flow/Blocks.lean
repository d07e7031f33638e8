/-
Where basic blocks begin.

`IR.StartsBlock` says it by the statements, and `IR.isLeader` computes it.  A phi may
stand at the head of a block only, with nothing but phis before it; `IR.InHead` says
so of a statement, and `IR.Continues` is the part of it that the statements before
decide.
-/
import SsaEdit.Proofs.Flow.Reachability

namespace SsaEdit
namespace IR

variable {ir : IR}

/-! ## Numbered statements -/

theorem length_code : ir.code.length = ir.size := List.length_map _

theorem getElem?_code (j : Nat) : ir.code[j]? = ir.node? (j + 1) := by
  rw [code, List.getElem?_map, node?, statement?, if_neg (Nat.succ_ne_zero j), Nat.add_sub_cancel]

theorem getLast?_code : ir.code.getLast? = ir.node? ir.size := by
  rw [List.getLast?_eq_getElem?, length_code]
  cases hsize : ir.size with
  | zero => rw [List.length_eq_zero_iff.1 (length_code.trans hsize)]; rfl
  | succ last => exact getElem?_code last

theorem mem_numbered {i : Nat} {n : Node} : (i, n) ∈ ir.numbered ↔ ir.node? i = some n := by
  rw [numbered, List.mem_iff_getElem?]
  constructor
  · rintro ⟨j, hj⟩
    obtain ⟨hi, hn⟩ := List.getElem?_zip_eq_some.1 hj
    obtain ⟨hlt, rfl⟩ := List.getElem?_eq_some_iff.1 hi
    rw [getElem?_code] at hn
    rw [List.getElem_range', Nat.one_mul, Nat.add_comm]
    exact hn
  · intro hn
    obtain ⟨hpos, hle⟩ := inRange_iff.1 (inRange_of_node? hn)
    have hi : i - 1 + 1 = i := Nat.sub_add_cancel hpos
    refine ⟨i - 1, List.getElem?_zip_eq_some.2 ⟨?_, ?_⟩⟩
    · rw [List.getElem?_range' (by omega), Nat.one_mul, Nat.add_comm, hi]
    · rw [getElem?_code, hi]
      exact hn

theorem mem_code {n : Node} : n ∈ ir.code ↔ ∃ i, ir.node? i = some n := by
  have hsnd : ir.numbered.map Prod.snd = ir.code :=
    List.map_snd_zip (Nat.le_of_eq (by rw [length_code, List.length_range']))
  rw [← hsnd, List.mem_map]
  constructor
  · rintro ⟨⟨i, n⟩, hmem, rfl⟩
    exact ⟨i, mem_numbered.1 hmem⟩
  · rintro ⟨i, hn⟩
    exact ⟨(i, n), mem_numbered.2 hn, rfl⟩

/-! ## The first statements of blocks -/

/-- Where a basic block begins: at the start, where some branch jumps to, and after
every branch and every return. -/
inductive StartsBlock (ir : IR) : Nat → Prop
  | first (there : 1 ≤ ir.size) : StartsBlock ir 1
  | target {i : Nat} {l : Label} {cond : Value} (here : ir.node? i = some (.branch l cond))
    (there : ir.inRange l.id = true) : StartsBlock ir l.id
  | afterBranch {i : Nat} {l : Label} {cond : Value} (here : ir.node? i = some (.branch l cond))
    (there : i < ir.size) : StartsBlock ir (i + 1)
  | afterReturn {i : Nat} {value : Value} (here : ir.node? i = some (.ret value))
    (there : i < ir.size) : StartsBlock ir (i + 1)

theorem isTarget_iff {i : Nat} :
    ir.isTarget i = true ↔ ∃ k l cond, ir.node? k = some (.branch l cond) ∧ l.id = i := by
  rw [isTarget, List.any_eq_true]
  constructor
  · rintro ⟨n, hmem, hn⟩
    obtain ⟨k, hk⟩ := mem_code.1 hmem
    cases n with
    | branch l cond => exact ⟨k, l, cond, hk, beq_iff_eq.1 hn⟩
    | call _ _ | ret _ | phi _ | const _ | global _ | argument _ =>
      exact absurd hn Bool.false_ne_true
  · rintro ⟨k, l, cond, hk, rfl⟩
    exact ⟨_, mem_code.2 ⟨k, hk⟩, beq_self_eq_true l.id⟩

theorem endsBlock_iff {i : Nat} : ir.endsBlock i = true ↔
    (∃ l cond, ir.node? i = some (.branch l cond)) ∨ ∃ value, ir.node? i = some (.ret value) := by
  unfold endsBlock
  split
  · rename_i l cond hn
    exact iff_of_true rfl (Or.inl ⟨l, cond, hn⟩)
  · rename_i value hn
    exact iff_of_true rfl (Or.inr ⟨value, hn⟩)
  · rename_i hbranch hret
    refine iff_of_false Bool.false_ne_true ?_
    rintro (⟨l, cond, hn⟩ | ⟨value, hn⟩)
    · exact hbranch l cond hn
    · exact hret value hn

/-- The leaders are the statements with which a block begins. -/
theorem isLeader_iff {i : Nat} : ir.isLeader i = true ↔ ir.StartsBlock i := by
  rw [isLeader, Bool.and_eq_true, Bool.or_eq_true, Bool.or_eq_true, beq_iff_eq, isTarget_iff,
    endsBlock_iff]
  constructor
  · rintro ⟨hrange, (rfl | ⟨k, l, cond, hk, rfl⟩) | hends⟩
    · exact .first (inRange_iff.1 hrange).2
    · exact .target hk hrange
    · have hrange := inRange_iff.1 hrange
      have hi : i - 1 + 1 = i := Nat.sub_add_cancel hrange.1
      have hlt : i - 1 < ir.size := by omega
      rw [← hi]
      rcases hends with ⟨l, cond, hn⟩ | ⟨value, hn⟩
      · exact .afterBranch hn hlt
      · exact .afterReturn hn hlt
  · intro h
    cases h with
    | first there => exact ⟨inRange_iff.2 ⟨Nat.le_refl 1, there⟩, Or.inl (Or.inl rfl)⟩
    | target here there => exact ⟨there, Or.inl (Or.inr ⟨_, _, _, here, rfl⟩)⟩
    | @afterBranch i l cond here there =>
      exact ⟨inRange_iff.2 ⟨Nat.le_add_left 1 i, there⟩, Or.inr (Or.inl ⟨l, cond, here⟩)⟩
    | @afterReturn i value here there =>
      exact ⟨inRange_iff.2 ⟨Nat.le_add_left 1 i, there⟩, Or.inr (Or.inr ⟨value, here⟩)⟩

/-! ## The heads of blocks -/

def IsPhi (ir : IR) (i : Nat) : Prop := ∃ incoming, ir.node? i = some (.phi incoming)

/-- Between statement `i` and the start of some block there are only phis. -/
def InHead (ir : IR) (i : Nat) : Prop :=
  ∃ l, ir.StartsBlock l ∧ l ≤ i ∧ ∀ k, l ≤ k → k < i → ir.IsPhi k

/-- Some block begins before statement `i`, and since then there were only phis. -/
def Continues (ir : IR) (i : Nat) : Prop :=
  ∃ l, ir.StartsBlock l ∧ l < i ∧ ∀ k, l ≤ k → k < i → ir.IsPhi k

theorem inHead_iff {i : Nat} : ir.InHead i ↔ ir.Continues i ∨ ir.StartsBlock i := by
  constructor
  · rintro ⟨l, hstart, hle, hphis⟩
    rcases Nat.lt_or_eq_of_le hle with hlt | rfl
    · exact Or.inl ⟨l, hstart, hlt, hphis⟩
    · exact Or.inr hstart
  · rintro (⟨l, hstart, hlt, hphis⟩ | hstart)
    · exact ⟨l, hstart, Nat.le_of_lt hlt, hphis⟩
    · exact ⟨i, hstart, Nat.le_refl i, fun k hle hlt => absurd hlt (Nat.not_lt.2 hle)⟩

/-- A head goes on after a phi and after nothing else. -/
theorem continues_succ_iff {i : Nat} : ir.Continues (i + 1) ↔ ir.InHead i ∧ ir.IsPhi i := by
  constructor
  · rintro ⟨l, hstart, hlt, hphis⟩
    have hle : l ≤ i := Nat.le_of_lt_succ hlt
    exact ⟨⟨l, hstart, hle, fun k hk hki => hphis k hk (Nat.lt_succ_of_lt hki)⟩,
      hphis i hle (Nat.lt_succ_self i)⟩
  · rintro ⟨⟨l, hstart, hle, hphis⟩, hphi⟩
    refine ⟨l, hstart, Nat.lt_succ_of_le hle, fun k hk hki => ?_⟩
    rcases Nat.lt_or_eq_of_le (Nat.le_of_lt_succ hki) with hlt | rfl
    · exact hphis k hk hlt
    · exact hphi

theorem not_continues_one : ¬ ir.Continues 1 := by
  rintro ⟨l, hstart, hlt, -⟩
  have hrange := (inRange_iff.1 (Bool.and_eq_true_iff.1 (isLeader_iff.2 hstart)).1).1
  omega

end IR
end SsaEdit
