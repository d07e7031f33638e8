/-
Straight-line edits keep the flow of control.

When a session only brings in statements that pass control on, and only deletes
statements that pass control on and are not jumped to, the source and the result
are the same line with different keys left out: all entries of the canvas in
order.  The source leaves out what was inserted, the result what was deleted, and
`Route.reaches_filter` says that neither matters between the statements that are
left in both.
-/
import SsaEdit.Proofs.Flow.Route
import SsaEdit.Proofs.Session.References

namespace SsaEdit

/-- Whether a node always passes control on to the next statement. -/
def Node.isStraight : Node → Bool
  | .branch .. | .ret _ => false
  | _ => true

namespace Node

theorem isTerminator_of_isStraight {n : Node} (h : n.isStraight = true) :
    n.isTerminator = false := by
  cases n with
  | branch _ _ => exact absurd h Bool.false_ne_true
  | ret _ => exact absurd h Bool.false_ne_true
  | call _ _ | phi _ | const _ | global _ | argument _ => rfl

theorem target?_of_isStraight {n : Node} (h : n.isStraight = true) : n.target? = none := by
  cases n with
  | branch _ _ => exact absurd h Bool.false_ne_true
  | ret _ | call _ _ | phi _ | const _ | global _ | argument _ => rfl

@[simp] theorem isTerminator_mapIds (f : Reference → Nat) (n : Node) :
    (n.mapIds f).isTerminator = n.isTerminator := by
  cases n with
  | branch _ cond => exact cond.isNull_mapId f
  | call _ _ | ret _ | phi _ | const _ | global _ | argument _ => rfl

@[simp] theorem target?_mapIds (f : Reference → Nat) (n : Node) :
    (n.mapIds f).target? = n.target?.map fun l => ⟨f (.label l)⟩ := by
  cases n <;> rfl

theorem Carries.isTerminator_eq {f : Reference → Nat} {source copy : Node}
    (h : source.Carries f copy) : copy.isTerminator = source.isTerminator := by
  cases hc : source.callsGlobal with
  | false => rw [(carries_of_callsGlobal_eq_false hc).1 h, isTerminator_mapIds]
  | true =>
    obtain ⟨_, _, rfl⟩ := callsGlobal_eq_true hc
    obtain ⟨_, rfl⟩ := h
    rfl

theorem Carries.target?_eq {f : Reference → Nat} {source copy : Node}
    (h : source.Carries f copy) : copy.target? = source.target?.map fun l => ⟨f (.label l)⟩ := by
  cases hc : source.callsGlobal with
  | false => rw [(carries_of_callsGlobal_eq_false hc).1 h, target?_mapIds]
  | true =>
    obtain ⟨_, _, rfl⟩ := callsGlobal_eq_true hc
    obtain ⟨_, rfl⟩ := h
    rfl

end Node

/-- How control moves between the statements of a body, under the ids that they
have on the canvas.  Other ids pass. -/
def IR.route (ir : IR) : Route where
  passes k :=
    match ir.node? k with
    | some n => !n.isTerminator
    | none => true
  jump k := ((ir.node? k).bind Node.target?).map fun l => ir.copiedId (.label l)

namespace IR

variable {ir : IR}

theorem route_passes {k : Nat} {n : Node} (h : ir.node? k = some n) :
    ir.route.passes k = !n.isTerminator := by
  simp only [route, h]

theorem route_jump {k : Nat} {n : Node} (h : ir.node? k = some n) :
    ir.route.jump k = n.target?.map fun l => ir.copiedId (.label l) := by
  simp only [route, h, Option.bind_some]

/-- An id that jumps is that of a branch of the body. -/
theorem exists_branch_of_jump {k t : Nat} (h : ir.route.jump k = some t) :
    ∃ target cond, ir.node? k = some (.branch target cond) ∧ ir.copiedId (.label target) = t := by
  cases hn : ir.node? k with
  | none =>
    simp only [route, hn, Option.bind_none, Option.map_none] at h
    injection h
  | some n =>
    rw [route_jump hn] at h
    obtain ⟨target, htarget, ht⟩ := Option.map_eq_some_iff.1 h
    obtain ⟨cond, rfl⟩ := Node.eq_branch_of_target? htarget
    exact ⟨target, cond, rfl, ht⟩

theorem route_jump_of_isStraight {k : Nat}
    (h : ∀ n, ir.node? k = some n → n.isStraight = true) : ir.route.jump k = none := by
  cases hjump : ir.route.jump k with
  | none => rfl
  | some t =>
    obtain ⟨_, _, hn, -⟩ := exists_branch_of_jump hjump
    exact absurd (h _ hn) Bool.false_ne_true

theorem route_passes_of_isStraight {k : Nat}
    (h : ∀ n, ir.node? k = some n → n.isStraight = true) : ir.route.passes k = true := by
  cases hn : ir.node? k with
  | none => simp only [route, hn]
  | some n => rw [route_passes hn, Node.isTerminator_of_isStraight (h n hn), Bool.not_false]

theorem copiedId_le (r : Reference) : ir.copiedId r ≤ ir.size := by
  rw [copiedId]
  split
  · rename_i h
    rw [inRange_iff] at h
    exact h.2
  · exact Nat.zero_le _

theorem node?_eq_none_of_lt {k : Nat} (h : ir.size < k) : ir.node? k = none :=
  node?_eq_none (by simp [inRange, h])

theorem getElem?_ids {i k : Nat} :
    (List.range' 1 ir.size)[i]? = some k ↔ k = i + 1 ∧ i < ir.size := by
  rw [List.getElem?_eq_some_iff]
  simp only [List.length_range', List.getElem_range']
  constructor
  · rintro ⟨hlt, rfl⟩
    exact ⟨by omega, hlt⟩
  · rintro ⟨rfl, hlt⟩
    exact ⟨hlt, by omega⟩

/-- A body is drawn by its own ids. -/
theorem route_draws (ir : IR) : ir.route.Draws (List.range' 1 ir.size) ir where
  nodup := List.nodup_range'
  length := List.length_range'
  passes := by
    intro i k n hk hn
    rw [(getElem?_ids.1 hk).1, route_passes hn]
  jumps := by
    intro i k n hk hn
    rw [(getElem?_ids.1 hk).1, route_jump hn]
    cases n.target? with
    | none => rfl
    | some target =>
      refine ⟨_, rfl, ?_, ?_⟩
      · intro hrange
        show (List.range' 1 ir.size)[target.id - 1]? = some (ir.copiedId (.label target))
        rw [copiedId, Reference.id, if_pos hrange, getElem?_ids]
        rw [inRange_iff] at hrange
        omega
      · intro hrange
        show ir.copiedId (.label target) ∉ _
        rw [copiedId, Reference.id, if_neg (Bool.eq_false_iff.1 hrange), List.mem_range'_1]
        exact fun hpos => absurd hpos.1 (Nat.not_succ_le_zero 0)

end IR

namespace Session

/-- What a session may have done to a canvas by its end.  Every source statement was
copied, and those that are live were not overwritten.  What was inserted and is
live, and what was deleted of the source, passes control on, and no branch of the
source jumps to what was deleted.  A callee that was a global is neither a variable
nor an argument now. -/
structure StraightLine (ir : IR) (overwritten : List Variable) (b : Builder) (c : Canvas) :
    Prop where
  copied : b.cursor = ir.size
  kept : ∀ id, id ≤ ir.size → c.contains ⟨id⟩ = true → ⟨id⟩ ∉ overwritten
  inserted : ∀ id slot, (id, slot) ∈ c.liveEntries → ir.size < id →
    slot.statement.node.isStraight = true
  deleted : ∀ id n, ir.node? id = some n → c.contains ⟨id⟩ = false → n.isStraight = true
  untargeted : ∀ k target cond, ir.node? k = some (.branch target cond) →
    ir.inRange target.id = true → c.contains ⟨target.id⟩ = true
  callees : ∀ id slot n, (id, slot) ∈ c.liveEntries → ir.node? id = some n →
    n.callsGlobal = true → ∀ callee args, slot.statement.node = .call callee args →
      callee.operandReferences = [] ∧ callee.argument? = none

/-! ## The three lines -/

variable {ir : IR} {overwritten : List Variable} {b : Builder} {c : Canvas}

namespace Copying

theorem zero_not_mem (h : Copying ir overwritten b c) : 0 ∉ c.entries.map Prod.fst := by
  rw [h.lawful.keys]
  exact fun hmem => Nat.not_succ_le_zero 0 (h.lawful.pos 0 hmem)

end Copying

namespace StraightLine

/-- An id that is not of the source passes and never jumps. -/
theorem route_of_inserted {id : Nat} (hlt : ir.size < id) :
    ir.route.passes id = true ∧ ir.route.jump id = none := by
  have hnone : ∀ n, ir.node? id = some n → n.isStraight = true := by
    intro n hn
    rw [IR.node?_eq_none_of_lt hlt] at hn
    injection hn
  exact ⟨IR.route_passes_of_isStraight hnone, IR.route_jump_of_isStraight hnone⟩

/-- Leaving out what was inserted. -/
theorem skips_inserted (c : Canvas) :
    ir.route.Skips (c.entries.map Prod.fst) fun id => decide (id ≤ ir.size) where
  passes k _ hk := (route_of_inserted (Nat.lt_of_not_le (of_decide_eq_false hk))).1
  jump_none k _ hk := (route_of_inserted (Nat.lt_of_not_le (of_decide_eq_false hk))).2
  target := by
    intro k _ t hjump _
    obtain ⟨_, _, -, rfl⟩ := IR.exists_branch_of_jump hjump
    exact decide_eq_true (IR.copiedId_le _)

/-- Leaving out what is not live. -/
theorem skips_deleted (hline : StraightLine ir overwritten b c)
    (h : Copying ir overwritten b c) :
    ir.route.Skips (c.entries.map Prod.fst) fun id => c.contains ⟨id⟩ where
  passes k _ hk := IR.route_passes_of_isStraight fun n hn => hline.deleted k n hn hk
  jump_none k _ hk := IR.route_jump_of_isStraight fun n hn => hline.deleted k n hn hk
  target := by
    intro k _ t hjump ht
    obtain ⟨target, cond, hn, rfl⟩ := IR.exists_branch_of_jump hjump
    cases hrange : ir.inRange target.id with
    | true =>
      rw [IR.copiedId, Reference.id, if_pos hrange]
      exact hline.untargeted k target cond hn hrange
    | false =>
      rw [IR.copiedId, Reference.id, if_neg (Bool.eq_false_iff.1 hrange)] at ht
      exact absurd ht h.zero_not_mem

theorem filter_contains (h : c.Lawful) :
    (c.entries.map Prod.fst).filter (fun id => c.contains ⟨id⟩) = c.liveIds := by
  rw [List.filter_map, Canvas.liveIds, Canvas.liveEntries]
  congr 1
  apply List.filter_congr
  rintro ⟨id, slot⟩ hmem
  have hslot := h.mem_entries.1 hmem
  simp [Canvas.contains, hslot]

/-- The result is drawn by the live ids, under the route of the source. -/
theorem draws_emit (hline : StraightLine ir overwritten b c)
    (h : Copying ir overwritten b c) :
    ir.route.Draws c.liveIds (Builder.emit ir c.renumbered) where
  nodup := h.lawful.liveIds_nodup
  length := (Canvas.size_emit ir c).symm
  passes := by
    intro i id n hid hn
    obtain ⟨slot, hmem, rfl⟩ := Canvas.node?_emit h.lawful ir hid hn
    rw [Node.isTerminator_mapIds]
    by_cases hle : id ≤ ir.size
    · obtain ⟨source, hsource, hcarries⟩ :=
        h.exists_copy hmem hle (hline.kept id hle (h.lawful.contains_of_mem_liveEntries hmem))
      rw [IR.route_passes hsource, hcarries.isTerminator_eq]
    · have hlt := Nat.lt_of_not_le hle
      rw [Node.isTerminator_of_isStraight (hline.inserted id slot hmem hlt)]
      exact (route_of_inserted hlt).1
  jumps := by
    intro i id n hid hn
    obtain ⟨slot, hmem, rfl⟩ := Canvas.node?_emit h.lawful ir hid hn
    rw [Node.target?_mapIds]
    by_cases hle : id ≤ ir.size
    · obtain ⟨source, hsource, hcarries⟩ :=
        h.exists_copy hmem hle (hline.kept id hle (h.lawful.contains_of_mem_liveEntries hmem))
      rw [IR.route_jump hsource, hcarries.target?_eq]
      cases source.target? with
      | none => rfl
      | some target =>
        -- The two rewritings of the target lead to the place of the id it has on the canvas.
        exact ⟨_, rfl, Canvas.getElem?_target h.lawful ir, Canvas.not_mem_of_target h.lawful ir⟩
    · have hlt := Nat.lt_of_not_le hle
      rw [Node.target?_of_isStraight (hline.inserted id slot hmem hlt)]
      exact (route_of_inserted hlt).2

/-- Between live source statements control moves in the result as in the source. -/
theorem reaches_iff (hline : StraightLine ir overwritten b c)
    (h : Copying ir overwritten b c) {i j k l : Nat} (hi : i ≤ ir.size) (hj : j ≤ ir.size)
    (hk : c.newIds.lookup i = some k) (hl : c.newIds.lookup j = some l) :
    ir.Reaches i j ↔ (Builder.emit ir c.renumbered).Reaches k l := by
  have hnd := h.lawful.keys_nodup
  have hlive : ∀ {id m}, c.newIds.lookup id = some m → c.contains ⟨id⟩ = true :=
    h.lawful.contains_of_newId
  have hkey : ∀ {id m}, c.newIds.lookup id = some m → id ∈ c.entries.map Prod.fst :=
    fun hm => h.lawful.keys.symm ▸ h.lawful.mem_order_of_contains (hlive hm)
  have hsource : ∀ {id m}, c.newIds.lookup id = some m → id ≤ ir.size →
      ∃ p, id = p + 1 ∧ (List.range' 1 ir.size)[p]? = some id := by
    intro id m hm hle
    have hpos := h.lawful.pos_of_contains (hlive hm)
    exact ⟨id - 1, by omega, IR.getElem?_ids.2 (by omega)⟩
  have hplaced : (c.entries.map Prod.fst).filter (fun id => decide (id ≤ ir.size)) =
      List.range' 1 ir.size := by
    rw [h.placed, hline.copied]
  obtain ⟨p, rfl, hp⟩ := hsource hk hi
  obtain ⟨q, rfl, hq⟩ := hsource hl hj
  obtain ⟨x, rfl, hx⟩ := h.lawful.lookup_newIds.1 hk
  obtain ⟨y, rfl, hy⟩ := h.lawful.lookup_newIds.1 hl
  rw [ir.route_draws.reaches_iff hp hq, (hline.draws_emit h).reaches_iff hx hy, ← hplaced,
    ← filter_contains h.lawful,
    Route.reaches_filter hnd (skips_inserted c) (hkey hk) (hkey hl) (decide_eq_true hi)
      (decide_eq_true hj),
    Route.reaches_filter hnd (hline.skips_deleted h) (hkey hk) (hkey hl) (hlive hk) (hlive hl)]

end StraightLine

end Session
end SsaEdit
