/-
Rewriting the references of a node.

`Node.mapIds` replaces the numbers of exactly the occurrences that
`Node.references` lists, in place and with their classes, so two rewritings in a
row are one, and two functions that agree on those occurrences do the same.
Everything else about a node stays: whether it ends the flow of control, and
which arguments it mentions.
-/
import SsaEdit.Value.Checked

namespace SsaEdit

/-! ## Operands -/

namespace Value

@[simp] theorem isNull_mapId (f : Reference → Nat) (v : Value) :
    (v.mapId f).isNull = v.isNull := by
  cases v <;> rfl

@[simp] theorem argument?_mapId (f : Reference → Nat) (v : Value) :
    (v.mapId f).argument? = v.argument? := by
  cases v <;> rfl

theorem mapId_mapId (f g : Reference → Nat) (v : Value) :
    (v.mapId f).mapId g = v.mapId fun r => g (r.withId (f r)) := by
  cases v <;> rfl

@[simp] theorem mapId_id (v : Value) : v.mapId Reference.id = v := by
  cases v <;> rfl

theorem operandReferences_mapId (f : Reference → Nat) (v : Value) :
    (v.mapId f).operandReferences = v.operandReferences.map fun r => r.withId (f r) := by
  cases v <;> rfl

theorem mapId_congr {f g : Reference → Nat} {v : Value}
    (h : ∀ r ∈ v.operandReferences, f r = g r) : v.mapId f = v.mapId g := by
  unfold mapId
  split
  · rw [h _ List.mem_cons_self]
  · rfl

end Value

/-! ## Nodes -/

namespace Node

theorem mapIds_mapIds (f g : Reference → Nat) (n : Node) :
    (n.mapIds f).mapIds g = n.mapIds fun r => g (r.withId (f r)) := by
  cases n with
  | call callee args =>
    simp only [mapIds, Value.mapId_mapId, List.map_map, Function.comp_def]
  | branch target cond =>
    simp only [mapIds, Value.mapId_mapId]
    rfl
  | ret value => simp only [mapIds, Value.mapId_mapId]
  | phi incoming =>
    simp only [mapIds, Value.mapId_mapId, List.map_map, Function.comp_def]
    rfl
  | const _ | global _ | argument _ => rfl

theorem references_mapIds (f : Reference → Nat) (n : Node) :
    (n.mapIds f).references = n.references.map fun r => r.withId (f r) := by
  cases n with
  | call callee args =>
    simp only [mapIds, references, Value.operandReferences_mapId, List.map_append,
      List.flatMap_map, List.map_flatMap]
  | branch target cond =>
    simp only [mapIds, references, Value.operandReferences_mapId, List.map_cons]
    rfl
  | ret value => exact Value.operandReferences_mapId f value
  | phi incoming =>
    simp only [mapIds, references, List.flatMap_map, List.map_flatMap, List.map_cons,
      Value.operandReferences_mapId]
    rfl
  | const _ | global _ | argument _ => rfl

/-- The same in the order of a rewriting. -/
theorem rewriteOrder_mapIds (f : Reference → Nat) (n : Node) :
    (n.mapIds f).rewriteOrder = n.rewriteOrder.map fun r => r.withId (f r) := by
  cases n with
  | branch target cond =>
    simp only [mapIds, rewriteOrder, Value.operandReferences_mapId, List.map_append]
    rfl
  | call callee args => exact references_mapIds f (.call callee args)
  | ret value => exact references_mapIds f (.ret value)
  | phi incoming => exact references_mapIds f (.phi incoming)
  | const _ | global _ | argument _ => rfl

/-- A rewriting meets the references that are listed, in its own order. -/
theorem rewriteOrder_perm (n : Node) : n.rewriteOrder.Perm n.references := by
  cases n with
  | branch target cond => exact List.perm_append_singleton (.label target) cond.operandReferences
  | call _ _ | ret _ | phi _ | const _ | global _ | argument _ => exact List.Perm.refl _

theorem mapIds_congr {f g : Reference → Nat} {n : Node} (h : ∀ r ∈ n.references, f r = g r) :
    n.mapIds f = n.mapIds g := by
  cases n with
  | call callee args =>
    have hcallee : callee.mapId f = callee.mapId g :=
      Value.mapId_congr fun r hr => h r (List.mem_append_left _ hr)
    have hargs : args.map (Value.mapId f) = args.map (Value.mapId g) := by
      apply List.map_congr_left
      intro arg harg
      exact Value.mapId_congr fun r hr =>
        h r (List.mem_append_right _ (List.mem_flatMap.2 ⟨arg, harg, hr⟩))
    simp only [mapIds, hcallee, hargs]
  | branch target cond =>
    have htarget : f (.label target) = g (.label target) := h _ List.mem_cons_self
    have hcond : cond.mapId f = cond.mapId g :=
      Value.mapId_congr fun r hr => h r (List.mem_cons_of_mem _ hr)
    simp only [mapIds, htarget, hcond]
  | ret value => simp only [mapIds, Value.mapId_congr h]
  | phi incoming =>
    have hedges : ∀ edge ∈ incoming, ((⟨f (.label edge.1)⟩ : Label), edge.2.mapId f) =
        (⟨g (.label edge.1)⟩, edge.2.mapId g) := by
      intro edge hedge
      have hlabel : f (.label edge.1) = g (.label edge.1) :=
        h _ (List.mem_flatMap.2 ⟨edge, hedge, List.mem_cons_self⟩)
      have hvalue : edge.2.mapId f = edge.2.mapId g := Value.mapId_congr fun r hr =>
        h r (List.mem_flatMap.2 ⟨edge, hedge, List.mem_cons_of_mem _ hr⟩)
      rw [hlabel, hvalue]
    simp only [mapIds, List.map_congr_left hedges]
  | const _ | global _ | argument _ => rfl

theorem mapIds_id (n : Node) : n.mapIds Reference.id = n := by
  cases n with
  | call callee args =>
    rw [mapIds, Value.mapId_id, List.map_congr_left fun arg _ => arg.mapId_id, List.map_id']
  | branch target cond =>
    rw [mapIds, Value.mapId_id]
    rfl
  | ret value => rw [mapIds, Value.mapId_id]
  | phi incoming =>
    have hedges : ∀ edge ∈ incoming, ((⟨Reference.id (.label edge.1)⟩ : Label),
        edge.2.mapId Reference.id) = edge := fun edge _ => by rw [Value.mapId_id]; rfl
    rw [mapIds, List.map_congr_left hedges, List.map_id']
  | const _ | global _ | argument _ => rfl

/-- A rewriting that leaves every reference of a node alone leaves the node alone. -/
theorem mapIds_of_forall {f : Reference → Nat} {n : Node} (h : ∀ r ∈ n.references, f r = r.id) :
    n.mapIds f = n :=
  (mapIds_congr h).trans n.mapIds_id

/-! ## Copies -/

theorem callsGlobal_eq_true {n : Node} (h : n.callsGlobal = true) :
    ∃ g args, n = .call (.node (.global g)) args := by
  unfold callsGlobal at h
  split at h
  · exact ⟨_, _, rfl⟩
  · exact absurd h Bool.false_ne_true

@[simp] theorem callsGlobal_mapIds (f : Reference → Nat) (n : Node) :
    (n.mapIds f).callsGlobal = n.callsGlobal := by
  cases n with
  | call callee args =>
    cases callee with
    | node n => cases n <;> rfl
    | _ => rfl
  | _ => rfl

/-- What the copy of a node keeps of it: everything, with the numbers of the
references replaced.  Only a callee that is a global may have become any other
value. -/
def Carries (f : Reference → Nat) : Node → Node → Prop
  | .call (.node (.global _)) args, copy =>
    ∃ callee, copy = .call callee (args.map (Value.mapId f))
  | source, copy => copy = source.mapIds f

theorem carries_of_callsGlobal_eq_false {f : Reference → Nat} {source copy : Node}
    (h : source.callsGlobal = false) : source.Carries f copy ↔ copy = source.mapIds f := by
  unfold Carries
  split
  · exact absurd h (by simp [callsGlobal])
  · rfl

/-- Rewriting a copy keeps what it carries. -/
theorem Carries.mapIds {f : Reference → Nat} {source copy : Node} (h : source.Carries f copy)
    (g : Reference → Nat) : source.Carries (fun r => g (r.withId (f r))) (copy.mapIds g) := by
  cases hc : source.callsGlobal with
  | false =>
    rw [carries_of_callsGlobal_eq_false hc] at h ⊢
    rw [h, mapIds_mapIds]
  | true =>
    obtain ⟨_, args, rfl⟩ := callsGlobal_eq_true hc
    obtain ⟨callee, rfl⟩ := h
    refine ⟨callee.mapId g, ?_⟩
    simp only [Node.mapIds, List.map_map, Function.comp_def, Value.mapId_mapId]

theorem Carries.congr {f g : Reference → Nat} {source copy : Node} (h : source.Carries f copy)
    (hfg : ∀ r, f r = g r) : source.Carries g copy := by
  rw [← funext hfg]
  exact h

end Node

namespace Environment

theorem bindCallee_of_callsGlobal_eq_false {env : Environment} {n : Node}
    (h : n.callsGlobal = false) : env.bindCallee n = .ok n := by
  unfold bindCallee
  split
  · exact absurd h (by simp [Node.callsGlobal])
  · rfl

/-- Binding the callee of a rewritten node makes a copy of the node. -/
theorem carries_of_bindCallee {env : Environment} {f : Reference → Nat} {source copy : Node}
    (h : env.bindCallee (source.mapIds f) = .ok copy) : source.Carries f copy := by
  cases hc : source.callsGlobal with
  | false =>
    rw [bindCallee_of_callsGlobal_eq_false ((Node.callsGlobal_mapIds f source).trans hc)] at h
    injection h with h
    exact (Node.carries_of_callsGlobal_eq_false hc).2 h.symm
  | true =>
    obtain ⟨g, args, rfl⟩ := Node.callsGlobal_eq_true hc
    have hbind : (env.resolve g).map (fun callee => Node.call callee (args.map (Value.mapId f))) =
        .ok copy := h
    cases hg : env.resolve g with
    | error fault =>
      rw [hg] at hbind
      injection hbind
    | ok callee =>
      rw [hg] at hbind
      injection hbind with hbind
      exact ⟨callee, hbind.symm⟩

end Environment
end SsaEdit
