/-
A node whose references have other numbers.

`Node.Relabelled` says it kind of node by kind of node: every reference stands where it
stood and is of the class it was, and the rest is the same.  `Node.mapIds` makes that
node and no other.

`Node.rewriteM` is the walk that a rewriting makes, with a callback that may do more at
a reference than give it another number.  `rewriteM_noting` says what is left behind by
a callback that takes notes: they come in the order of `Node.rewriteOrder`.
-/
import Mathlib.Data.List.Forall2
import SsaEdit.Proofs.Node.Rewriting

namespace SsaEdit

/-! ## The relation -/

/-- An operand with another number, if it is a variable. -/
inductive Value.Relabelled (f : Nat → Nat) : Value → Value → Prop
  | reference (v : Variable) : Relabelled f (.variable v) (.variable ⟨f v.id⟩)
  | other {v : Value} (h : ∀ w, v ≠ .variable w) : Relabelled f v v

/-- A node with other numbers in its references, and otherwise the same. -/
inductive Node.Relabelled (f : Nat → Nat) : Node → Node → Prop
  | call {callee callee' : Value} {args args' : List Value} (hcallee : callee.Relabelled f callee')
    (hargs : List.Forall₂ (Value.Relabelled f) args args') :
    Relabelled f (.call callee args) (.call callee' args')
  | branch {target : Label} {cond cond' : Value} (hcond : cond.Relabelled f cond') :
    Relabelled f (.branch target cond) (.branch ⟨f target.id⟩ cond')
  | ret {value value' : Value} (hvalue : value.Relabelled f value') :
    Relabelled f (.ret value) (.ret value')
  | phi {incoming incoming' : List (Label × Value)}
    (hedges : List.Forall₂ (fun edge edge' =>
      edge'.1 = ⟨f edge.1.id⟩ ∧ edge.2.Relabelled f edge'.2) incoming incoming') :
    Relabelled f (.phi incoming) (.phi incoming')
  | const (value : Value) : Relabelled f (.const value) (.const value)
  | global (ref : GlobalRef) : Relabelled f (.global ref) (.global ref)
  | argument (index : Int) : Relabelled f (.argument index) (.argument index)

/-- A relation that says which item it is relates a list to its image. -/
theorem forall₂_iff_eq_map {α β : Type} {r : α → β → Prop} {g : α → β}
    (h : ∀ a b, r a b ↔ b = g a) {xs : List α} {ys : List β} :
    List.Forall₂ r xs ys ↔ ys = xs.map g := by
  induction xs generalizing ys with
  | nil => rw [List.forall₂_nil_left_iff, List.map_nil]
  | cons x xs ih =>
    cases ys with
    | nil => simp
    | cons y ys => rw [List.forall₂_cons, h, ih, List.map_cons, List.cons.injEq]

variable {f : Nat → Nat}

theorem Value.mapId_of_ne_variable {v : Value} (h : ∀ w, v ≠ .variable w) (f : Reference → Nat) :
    v.mapId f = v := by
  unfold mapId
  split
  · exact absurd rfl (h _)
  · rfl

theorem Value.relabelled_iff {v v' : Value} :
    v.Relabelled f v' ↔ v' = v.mapId fun r => f r.id := by
  constructor
  · intro h
    cases h with
    | reference w => rfl
    | other hother => exact (mapId_of_ne_variable hother _).symm
  · rintro rfl
    by_cases h : ∃ w, v = .variable w
    · obtain ⟨w, rfl⟩ := h
      exact .reference w
    · rw [not_exists] at h
      rw [mapId_of_ne_variable h]
      exact .other h

theorem Node.relabelled_iff {n n' : Node} :
    n.Relabelled f n' ↔ n' = n.mapIds fun r => f r.id := by
  have hargs : ∀ args args' : List Value, List.Forall₂ (Value.Relabelled f) args args' ↔
      args' = args.map (Value.mapId fun r => f r.id) :=
    fun _ _ => forall₂_iff_eq_map fun _ _ => Value.relabelled_iff
  have hedges : ∀ incoming incoming' : List (Label × Value),
      List.Forall₂ (fun edge edge' => edge'.1 = ⟨f edge.1.id⟩ ∧ edge.2.Relabelled f edge'.2)
          incoming incoming' ↔
        incoming' = incoming.map fun edge => (⟨f edge.1.id⟩, edge.2.mapId fun r => f r.id) :=
    fun _ _ => forall₂_iff_eq_map fun _ _ => by rw [Value.relabelled_iff, Prod.ext_iff]
  constructor
  · intro h
    cases h with
    | call hcallee hrest =>
      rw [Value.relabelled_iff.1 hcallee, (hargs _ _).1 hrest]
      rfl
    | branch hcond =>
      rw [Value.relabelled_iff.1 hcond]
      rfl
    | ret hvalue =>
      rw [Value.relabelled_iff.1 hvalue]
      rfl
    | phi hincoming =>
      rw [(hedges _ _).1 hincoming]
      rfl
    | const _ | global _ | argument _ => rfl
  · rintro rfl
    cases n with
    | call callee args => exact .call (Value.relabelled_iff.2 rfl) ((hargs _ _).2 rfl)
    | branch target cond => exact .branch (Value.relabelled_iff.2 rfl)
    | ret value => exact .ret (Value.relabelled_iff.2 rfl)
    | phi incoming => exact .phi ((hedges _ _).2 rfl)
    | const value => exact .const value
    | global ref => exact .global ref
    | argument index => exact .argument index

/-! ## The walk -/

section Walk

variable {m : Type → Type} [Monad m]

/-- Give an operand the number that the callback says, if it is a variable. -/
def Value.rewriteM (callback : Reference → m Nat) : Value → m Value
  | .variable v => return .variable ⟨← callback (.value v)⟩
  | v => return v

/-- Give every reference the number that the callback says, one after the other. -/
def Node.rewriteM (callback : Reference → m Nat) : Node → m Node
  | .call callee args => do
    let callee ← callee.rewriteM callback
    let args ← args.mapM (Value.rewriteM callback)
    return .call callee args
  | .branch target cond => do
    let cond ← cond.rewriteM callback
    let id ← callback (.label target)
    return .branch ⟨id⟩ cond
  | .ret value => return .ret (← value.rewriteM callback)
  | .phi incoming => do
    let incoming ← incoming.mapM fun (edge, value) => do
      let id ← callback (.label edge)
      let value ← value.rewriteM callback
      return (⟨id⟩, value)
    return .phi incoming
  | n => return n

end Walk

section Notes

variable {α β γ : Type}

/-- Give an answer and leave some notes. -/
def noting (answer : β) (notes : List α) : StateM (List α) β := fun log => (answer, log ++ notes)

theorem noting_nil (answer : β) : (noting answer [] : StateM (List α) β) = pure answer :=
  funext fun log => congrArg (Prod.mk answer) (List.append_nil log)

theorem noting_bind {answer : β} {notes more : List α} {next : β → StateM (List α) γ} {last : γ}
    (h : next answer = noting last more) :
    (noting answer notes >>= next) = noting last (notes ++ more) := by
  funext log
  show next answer (log ++ notes) = _
  rw [h]
  exact congrArg (Prod.mk last) (List.append_assoc log notes more)

theorem noting_map (answer : β) (notes : List α) (f : β → γ) :
    (noting answer notes >>= fun b => pure (f b)) = noting (f answer) notes := rfl

/-- The notes of a list are those of its items. -/
theorem mapM_noting {f : β → StateM (List α) γ} {g : β → γ} {notes : β → List α} {xs : List β}
    (h : ∀ x ∈ xs, f x = noting (g x) (notes x)) :
    xs.mapM f = noting (xs.map g) (xs.flatMap notes) := by
  induction xs with
  | nil => exact (noting_nil []).symm
  | cons x xs ih =>
    rw [List.mapM_cons, h x List.mem_cons_self, ih fun y hy => h y (List.mem_cons_of_mem _ hy)]
    exact noting_bind (noting_map _ _ _)

variable (g : Reference → Nat) (notes : Reference → List α)

theorem Value.rewriteM_noting (v : Value) :
    (v.rewriteM fun r => noting (g r) (notes r)) =
      noting (v.mapId g) (v.operandReferences.flatMap notes) := by
  cases v with
  | «variable» v =>
    rw [operandReferences, List.flatMap_singleton]
    exact noting_map _ _ _
  | _ => exact (noting_nil _).symm

/-- The walk meets the references in the order of `rewriteOrder`. -/
theorem Node.rewriteM_noting (n : Node) :
    (n.rewriteM fun r => noting (g r) (notes r)) =
      noting (n.mapIds g) (n.rewriteOrder.flatMap notes) := by
  cases n with
  | call callee args =>
    have hargs : args.mapM (Value.rewriteM fun r => noting (g r) (notes r)) =
        noting (args.map (Value.mapId g))
          (args.flatMap fun arg => arg.operandReferences.flatMap notes) :=
      mapM_noting fun arg _ => arg.rewriteM_noting g notes
    have horder : (call callee args).rewriteOrder =
        callee.operandReferences ++ args.flatMap Value.operandReferences := rfl
    rw [rewriteM, Value.rewriteM_noting, hargs, horder, List.flatMap_append, List.flatMap_assoc]
    exact noting_bind (noting_map _ _ _)
  | branch target cond =>
    rw [rewriteM, Value.rewriteM_noting, rewriteOrder, List.flatMap_append, List.flatMap_singleton]
    exact noting_bind (noting_map _ _ _)
  | ret value =>
    rw [rewriteM, Value.rewriteM_noting]
    exact noting_map _ _ _
  | phi incoming =>
    have hedge : ∀ edge ∈ incoming, (do
        let id ← noting (g (.label edge.1)) (notes (.label edge.1))
        let value ← edge.2.rewriteM fun r => noting (g r) (notes r)
        return ((⟨id⟩ : Label), value)) =
          noting (⟨g (.label edge.1)⟩, edge.2.mapId g)
            (notes (.label edge.1) ++ edge.2.operandReferences.flatMap notes) := by
      intro edge _
      rw [edge.2.rewriteM_noting]
      exact noting_bind (noting_map _ _ _)
    have horder : (phi incoming).rewriteOrder =
        incoming.flatMap fun edge => .label edge.1 :: edge.2.operandReferences := rfl
    rw [horder, List.flatMap_assoc]
    show (_ >>= fun incoming => pure (phi incoming)) = _
    rw [mapM_noting hedge]
    exact noting_map _ _ _
  | const _ | global _ | argument _ => exact (noting_nil _).symm

end Notes
end SsaEdit
