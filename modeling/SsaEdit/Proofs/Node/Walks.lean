/-
The walks over a node agree.

The references, the operands, the variables and the rewriting of a node are found by four
walks, each with cases of its own.  `Node.WalksAgree` says that they see the same
occurrences: a rewriting applies its function once to every reference that is listed and
to nothing else, and the variables are the operands that are variables.

A rewriting by `f` is `Node.mapReferences f`.  A node has room for the number of a
reference only, so `f` has to keep classes.
-/
import SsaEdit.Proofs.Node.Relabelled

namespace SsaEdit

/-! ## Functions on references -/

/-- A function that turns variables into variables and labels into labels. -/
def KeepsClass (f : Reference → Reference) : Prop := ∀ r, (f r).isValue = r.isValue

/-- Such a function does no more than give other numbers. -/
theorem KeepsClass.withId_id {f : Reference → Reference} (hf : KeepsClass f) (r : Reference) :
    r.withId (f r).id = f r := by
  have hclass := hf r
  cases r with
  | value v =>
    cases hfr : f (.value v) with
    | value w => rfl
    | label l =>
      rw [hfr] at hclass
      cases hclass
  | label l =>
    cases hfr : f (.label l) with
    | value v =>
      rw [hfr] at hclass
      cases hclass
    | label k => rfl

/-- Replace every reference by its image, which stands in the same place. -/
def Node.mapReferences (f : Reference → Reference) (n : Node) : Node := n.mapIds fun r => (f r).id

/-! ## What a rewriting leaves as it is -/

/-- The variable that a value is. -/
def Value.variable? : Value → Option Variable
  | .variable v => some v
  | _ => none

/-- What may stand in the place of a value: a variable for a variable, and for any other
value that value alone. -/
inductive Value.Stands : Value → Value → Prop
  | reference (v w : Variable) : Stands (.variable v) (.variable w)
  | other {v : Value} (h : v.variable? = none) : Stands v v

/-- Nodes of one kind that have the same literals, arguments and globals in the same
places, so that nothing but their references may differ. -/
inductive Node.SameFrame : Node → Node → Prop
  | call {callee callee' : Value} {args args' : List Value} (hcallee : callee.Stands callee')
    (hargs : List.Forall₂ Value.Stands args args') :
    SameFrame (.call callee args) (.call callee' args')
  | branch {cond cond' : Value} (target target' : Label) (hcond : cond.Stands cond') :
    SameFrame (.branch target cond) (.branch target' cond')
  | ret {value value' : Value} (hvalue : value.Stands value') :
    SameFrame (.ret value) (.ret value')
  | phi {incoming incoming' : List (Label × Value)}
    (hedges : List.Forall₂ (fun edge edge' => edge.2.Stands edge'.2) incoming incoming') :
    SameFrame (.phi incoming) (.phi incoming')
  | const (value : Value) : SameFrame (.const value) (.const value)
  | global (ref : GlobalRef) : SameFrame (.global ref) (.global ref)
  | argument (index : Int) : SameFrame (.argument index) (.argument index)

theorem Value.stands_mapId (f : Reference → Nat) (v : Value) : v.Stands (v.mapId f) := by
  cases v with
  | «variable» v => exact .reference v _
  | _ => exact .other rfl

/-- A relation between every item and its image relates the lists. -/
theorem forall₂_map_right {α β : Type} {r : α → β → Prop} {g : α → β} (h : ∀ a, r a (g a))
    (xs : List α) : List.Forall₂ r xs (xs.map g) := by
  rw [List.forall₂_map_right_iff, List.forall₂_same]
  exact fun a _ => h a

theorem Node.sameFrame_mapIds (f : Reference → Nat) (n : Node) : n.SameFrame (n.mapIds f) := by
  cases n with
  | call callee args =>
    exact .call (callee.stands_mapId f) (forall₂_map_right (Value.stands_mapId f) args)
  | branch target cond => exact .branch target _ (cond.stands_mapId f)
  | ret value => exact .ret (value.stands_mapId f)
  | phi incoming => exact .phi (forall₂_map_right (fun edge => edge.2.stands_mapId f) incoming)
  | const value => exact .const value
  | global ref => exact .global ref
  | argument index => exact .argument index

/-- A branch keeps its condition or goes on without one. -/
theorem Node.isConditional_mapIds (f : Reference → Nat) (n : Node) :
    (n.mapIds f).isConditional = n.isConditional := by
  cases n with
  | branch target cond => exact congrArg (! ·) (Value.isNull_mapId f cond)
  | _ => rfl

/-! ## Variables among operands -/

theorem Value.operandReferences_eq (v : Value) :
    v.operandReferences = v.variable?.toList.map .value := by
  cases v <;> rfl

theorem Value.filter_operandReferences (v : Value) :
    v.operandReferences.filter Reference.isValue = v.operandReferences := by
  cases v <;> rfl

/-- The references of a list of operands are its variables. -/
theorem flatMap_operandReferences (vs : List Value) :
    vs.flatMap Value.operandReferences = (vs.filterMap Value.variable?).map .value := by
  induction vs with
  | nil => rfl
  | cons v vs ih =>
    rw [List.flatMap_cons, ih, v.operandReferences_eq, List.filterMap_cons]
    cases v.variable? <;> rfl

/-- Without the labels, the references of a node are those of its operands. -/
theorem Node.valueReferences_eq_flatMap (n : Node) :
    n.valueReferences = n.operands.flatMap Value.operandReferences := by
  cases n with
  | call callee args =>
    rw [valueReferences, references, List.filter_append, List.filter_flatMap]
    simp only [Value.filter_operandReferences]
    rfl
  | branch target cond =>
    show cond.operandReferences.filter Reference.isValue = (operands _).flatMap _
    rw [Value.filter_operandReferences, operands]
    cases cond <;> rfl
  | ret value =>
    rw [operands, List.flatMap_singleton]
    exact value.filter_operandReferences
  | phi incoming =>
    rw [valueReferences, references, operands, List.filter_flatMap, List.flatMap_map]
    refine List.flatMap_congr fun edge _ => ?_
    exact edge.2.filter_operandReferences
  | const _ | global _ | argument _ => rfl

/-! ## Agreement -/

/-- The walks over a node agree about two functions on references. -/
structure Node.WalksAgree (f g : Reference → Reference) (n : Node) : Prop where
  /-- Every reference becomes its image, in its place. -/
  references : (n.mapReferences f).references = n.references.map f
  identity : n.mapReferences id = n
  composition : (n.mapReferences f).mapReferences g = n.mapReferences (g ∘ f)
  /-- The function is applied once to each reference that is listed, and to nothing else: a
  callback that notes what it is given notes them all, a branch's target last. -/
  visits : (n.rewriteM fun r => noting (f r).id [r]) = noting (n.mapReferences f) n.rewriteOrder ∧
    n.rewriteOrder.Perm n.references
  /-- So functions that agree on these references give the same node. -/
  congr : ∀ h, (∀ r ∈ n.references, h r = f r) → n.mapReferences h = n.mapReferences f
  frame : n.SameFrame (n.mapReferences f)
  conditional : (n.mapReferences f).isConditional = n.isConditional
  /-- The variables that are listed are the operands that are variables, in their order. -/
  operands : n.valueReferences = (n.operands.filterMap Value.variable?).map .value

/-- All walks over a node see the same references, whatever its kind is. -/
theorem walks_agree {f : Reference → Reference} (hf : KeepsClass f) (g : Reference → Reference)
    (n : Node) : n.WalksAgree f g where
  references := by
    rw [Node.mapReferences, Node.references_mapIds]
    exact List.map_congr_left fun r _ => hf.withId_id r
  identity := n.mapIds_id
  composition := by
    rw [Node.mapReferences, Node.mapReferences, Node.mapIds_mapIds]
    simp only [hf.withId_id]
    rfl
  visits := by
    refine ⟨?_, n.rewriteOrder_perm⟩
    rw [Node.rewriteM_noting, List.flatMap_singleton']
    rfl
  congr := fun h hagree => Node.mapIds_congr fun r hr => congrArg Reference.id (hagree r hr)
  frame := n.sameFrame_mapIds _
  conditional := n.isConditional_mapIds _
  operands := by rw [n.valueReferences_eq_flatMap, flatMap_operandReferences]

/-- Every reference to the statement after the one it means. -/
def oneLater (r : Reference) : Reference := r.withId (r.id + 1)

/-- A merge of a variable, a text and the same variable again. -/
def repeatedMerge : Node :=
  .phi [(⟨1⟩, .variable ⟨4⟩), (⟨2⟩, .text ↑"four"), (⟨1⟩, .variable ⟨4⟩)]

theorem walks_agree_repeatedMerge :
    KeepsClass oneLater ∧ repeatedMerge.WalksAgree oneLater oneLater ∧
      (repeatedMerge.mapReferences oneLater).references =
        [.label ⟨2⟩, .value ⟨5⟩, .label ⟨3⟩, .label ⟨2⟩, .value ⟨5⟩] := by
  have hkeeps : KeepsClass oneLater := fun r => r.isValue_withId (r.id + 1)
  have hagree := walks_agree hkeeps oneLater repeatedMerge
  exact ⟨hkeeps, hagree, hagree.references⟩

end SsaEdit
