/-
Tokens without their places.

The grammar looks at the kinds of tokens only, and the value of a tree, if it has one,
depends on their kinds and characters.  Where tokens start matters for the faults alone.
So erasing the places commutes with every step of the automaton, and a tree and its erased
form have the same values.
-/
import SsaEdit.Proofs.Listing.Requirements

namespace SsaEdit
namespace Listing

/-! ## Erasing -/

def Token.unplaced (t : Token) : Token := { t with start := 0 }

def NodeTree.unplaced : NodeTree → NodeTree
  | .call callee args => .call callee.unplaced (args.map Token.unplaced)
  | .branch head target cond =>
    .branch head.unplaced target.unplaced (cond.map Token.unplaced)
  | .ret value => .ret value.unplaced
  | .phi edges => .phi (edges.map (Prod.map Token.unplaced Token.unplaced))
  | .plain value => .plain value.unplaced

def LineTree.unplaced (t : LineTree) : LineTree :=
  ⟨t.file.unplaced, t.line.unplaced, t.function.map Token.unplaced⟩

def StatementTree.unplaced (t : StatementTree) : StatementTree :=
  ⟨t.number.unplaced, t.node.unplaced, t.type.map Token.unplaced, t.location.map Token.unplaced⟩

def Item.unplaced : Item → Item
  | .line tree => .line tree.unplaced
  | .statement tree => .statement tree.unplaced

def Tree.unplaced (t : Tree) : Tree :=
  ⟨t.name.unplaced, t.slots.map Token.unplaced, t.items.map Item.unplaced⟩

def Spot.unplaced : Spot → Spot
  | .item => .item
  | .lineFile => .lineFile
  | .lineColon file => .lineColon file.unplaced
  | .lineNumber file => .lineNumber file.unplaced
  | .lineEnd file line => .lineEnd file.unplaced line.unplaced
  | .lineFunction file line => .lineFunction file.unplaced line.unplaced
  | .equals number => .equals number.unplaced
  | .operation number => .operation number.unplaced
  | .callCallee number => .callCallee number.unplaced
  | .openArgs number callee => .openArgs number.unplaced callee.unplaced
  | .firstArg number callee => .firstArg number.unplaced callee.unplaced
  | .nextArg number callee args =>
    .nextArg number.unplaced callee.unplaced (args.map Token.unplaced)
  | .argEnd number callee args =>
    .argEnd number.unplaced callee.unplaced (args.map Token.unplaced)
  | .branchTarget number head => .branchTarget number.unplaced head.unplaced
  | .targetEnd number head target => .targetEnd number.unplaced head.unplaced target.unplaced
  | .branchCond number head target => .branchCond number.unplaced head.unplaced target.unplaced
  | .result number => .result number.unplaced
  | .openEdges number => .openEdges number.unplaced
  | .firstEdge number => .firstEdge number.unplaced
  | .nextEdge number edges =>
    .nextEdge number.unplaced (edges.map (Prod.map Token.unplaced Token.unplaced))
  | .arrow number edges edge =>
    .arrow number.unplaced (edges.map (Prod.map Token.unplaced Token.unplaced)) edge.unplaced
  | .edgeValue number edges edge =>
    .edgeValue number.unplaced (edges.map (Prod.map Token.unplaced Token.unplaced)) edge.unplaced
  | .edgeEnd number edges =>
    .edgeEnd number.unplaced (edges.map (Prod.map Token.unplaced Token.unplaced))
  | .nodeEnd number node => .nodeEnd number.unplaced node.unplaced
  | .typeName number node => .typeName number.unplaced node.unplaced
  | .typeEnd number node type => .typeEnd number.unplaced node.unplaced type.unplaced
  | .locationNumber number node type =>
    .locationNumber number.unplaced node.unplaced (type.map Token.unplaced)

def Move.unplaced : Move → Move
  | .to spot => .to spot.unplaced
  | .close item => .close item.unplaced

def State.unplaced : State → State
  | .start => .start
  | .title => .title
  | .openSlots name => .openSlots name.unplaced
  | .firstSlot name => .firstSlot name.unplaced
  | .nextSlot name slots => .nextSlot name.unplaced (slots.map Token.unplaced)
  | .slotEnd name slots => .slotEnd name.unplaced (slots.map Token.unplaced)
  | .openBody name slots => .openBody name.unplaced (slots.map Token.unplaced)
  | .body tree spot => .body tree.unplaced spot.unplaced
  | .done tree => .done tree.unplaced

/-! ## Taking a token -/

variable {t : Token}

theorem Token.unplaced_kind (t : Token) : t.unplaced.kind = t.kind := rfl

theorem unplaced_expect (kind : Terminal) (t : Token) (move : Move) :
    (Spot.expect kind t move).map Move.unplaced =
      Spot.expect kind t.unplaced move.unplaced := by
  rw [Spot.expect, Spot.expect, Token.unplaced_kind]
  split <;> rfl

theorem unplaced_expectOperand (t : Token) (move : Move) :
    (Spot.expectOperand t move).map Move.unplaced =
      Spot.expectOperand t.unplaced move.unplaced := by
  rw [Spot.expectOperand, Spot.expectOperand, Token.unplaced_kind]
  split <;> rfl

theorem unplaced_expectName (t : Token) (move : Move) :
    (Spot.expectName t move).map Move.unplaced = Spot.expectName t.unplaced move.unplaced := by
  rw [Spot.expectName, Spot.expectName, Token.unplaced_kind]
  split <;> rfl

theorem unplaced_afterNode? (number : Token) (node : NodeTree) (t : Token) :
    (Spot.afterNode? number node t).map Move.unplaced =
      Spot.afterNode? number.unplaced node.unplaced t.unplaced := by
  rw [Spot.afterNode?, Spot.afterNode?, Token.unplaced_kind]
  split <;> rfl

theorem unplaced_beginNode? (number t : Token) :
    (Spot.beginNode? number t).map Move.unplaced =
      Spot.beginNode? number.unplaced t.unplaced := by
  rw [Spot.beginNode?, Spot.beginNode?, Token.unplaced_kind]
  split
  case h_5 => split <;> rfl
  all_goals rfl

theorem unplaced_move? (spot : Spot) (t : Token) :
    (spot.move? t).map Move.unplaced = spot.unplaced.move? t.unplaced := by
  cases spot with
  | item => rfl
  | lineFile | lineColon | lineNumber | lineEnd | equals | openArgs | branchTarget | openEdges
  | nextEdge | arrow | typeEnd | locationNumber => exact unplaced_expect _ t _
  | lineFunction | typeName => exact unplaced_expectName t _
  | operation number => exact unplaced_beginNode? number t
  | nodeEnd number node => exact unplaced_afterNode? number node t
  | callCallee | branchCond | result => exact unplaced_expectOperand t _
  | nextArg number callee args =>
    rw [Spot.move?, unplaced_expectOperand]
    simp [Spot.unplaced, Spot.move?, Move.unplaced]
  | edgeValue number edges edge =>
    rw [Spot.move?, unplaced_expectOperand]
    simp [Spot.unplaced, Spot.move?, Move.unplaced]
  | firstArg number callee =>
    rw [Spot.move?, Spot.unplaced, Spot.move?, Token.unplaced_kind]
    split
    · rfl
    · exact unplaced_expectOperand t _
  | targetEnd number head target =>
    rw [Spot.move?, Spot.unplaced, Spot.move?, Token.unplaced_kind]
    split
    · rfl
    · exact unplaced_afterNode? number (.branch head target none) t
  | argEnd | firstEdge | edgeEnd =>
    rw [Spot.move?, Spot.unplaced, Spot.move?, Token.unplaced_kind]
    split <;> rfl

theorem unplaced_complete? (spot : Spot) :
    spot.complete?.map Item.unplaced = spot.unplaced.complete? := by
  cases spot <;> rfl

theorem Tree.unplaced_push (tree : Tree) (item : Item) :
    (tree.push item).unplaced = tree.unplaced.push item.unplaced := by
  simp [Tree.unplaced, Tree.push]

theorem unplaced_settle? (tree : Tree) (spot : Spot) :
    (State.settle? tree spot).map Tree.unplaced =
      State.settle? tree.unplaced spot.unplaced := by
  have hitem : (spot.complete?.map tree.push).map Tree.unplaced =
      spot.unplaced.complete?.map tree.unplaced.push := by
    rw [← unplaced_complete?, Option.map_map, Option.map_map]
    exact Option.map_congr fun item _ => Tree.unplaced_push tree item
  cases spot with
  | item => rfl
  | _ => exact hitem

theorem unplaced_betweenItems? (tree : Tree) (t : Token) :
    (State.betweenItems? tree t).map State.unplaced =
      State.betweenItems? tree.unplaced t.unplaced := by
  rw [State.betweenItems?, State.betweenItems?, Token.unplaced_kind]
  split <;> rfl

/-- Taking a token does not depend on places. -/
theorem unplaced_advance? (state : State) (t : Token) :
    (state.advance? t).map State.unplaced = state.unplaced.advance? t.unplaced := by
  cases state with
  | start | title | openSlots =>
    rw [State.advance?, State.unplaced, State.advance?, Token.unplaced_kind]
    split <;> rfl
  | firstSlot name =>
    rw [State.advance?, State.unplaced, State.advance?, Token.unplaced_kind]
    split
    · rfl
    · split <;> rfl
  | nextSlot name slots =>
    rw [State.advance?, State.unplaced, State.advance?, Token.unplaced_kind]
    split
    · simp [State.unplaced]
    · rfl
  | slotEnd | openBody =>
    rw [State.advance?, State.unplaced, State.advance?, Token.unplaced_kind]
    split <;> rfl
  | body tree spot =>
    have hmove := unplaced_move? spot t
    rw [State.advance?, State.unplaced, State.advance?, ← hmove]
    cases spot.move? t with
    | some move =>
      cases move with
      | «to» next => rfl
      | close item =>
        exact congrArg (fun tree => some (State.body tree .item)) (Tree.unplaced_push tree item)
    | none =>
      show ((State.settle? tree spot).bind _).map _ = (State.settle? _ _).bind _
      rw [← unplaced_settle?]
      cases State.settle? tree spot with
      | none => rfl
      | some settled => exact unplaced_betweenItems? settled t
  | done tree => rfl

theorem unplaced_tree? (state : State) :
    state.tree?.map Tree.unplaced = state.unplaced.tree? := by
  cases state <;> rfl

/-! ## Alike states -/

/-- Two states that differ in the places of tokens at most take the same tokens. -/
theorem welcomes_of_unplaced {state other : State} (h : state.unplaced = other.unplaced) :
    state.welcomes = other.welcomes := by
  have hsome : ∀ state : State, ∀ kind,
      state.welcomes kind = (state.unplaced.advance? ⟨kind, [], 0⟩).isSome := by
    intro state kind
    have hstep := unplaced_advance? state ⟨kind, [], 0⟩
    rw [State.welcomes, ← Option.isSome_map, hstep]
    rfl
  funext kind
  rw [hsome, hsome, h]

theorem advance?_of_unplaced {state other next : State} (h : state.unplaced = other.unplaced)
    {kind : Terminal} {chars : List Char} {start : Nat}
    (hnext : state.advance? ⟨kind, chars, start⟩ = some next) (place : Nat) :
    ∃ after, other.advance? ⟨kind, chars, place⟩ = some after ∧ next.unplaced = after.unplaced := by
  have hstep := unplaced_advance? state ⟨kind, chars, start⟩
  have hother := unplaced_advance? other ⟨kind, chars, place⟩
  rw [hnext, h] at hstep
  obtain ⟨after, hafter, hsame⟩ := Option.map_eq_some_iff.1 (hother.trans hstep.symm)
  exact ⟨after, hafter, hsame.symm⟩

/-! ## Values -/

section Values

variable {home : Namespace} {text other : List Char}

theorem mapM_unplaced {α : Type} {f : Token → Except Fault α} (h : ∀ t, f t.unplaced = f t)
    (ts : List Token) : (ts.map Token.unplaced).mapM f = ts.mapM f := by
  rw [List.mapM_map]
  exact congrArg (fun g => ts.mapM g) (funext h)

theorem mapM_unplaced_option {α : Type} {f : Token → Except Fault α}
    (h : ∀ t, f t.unplaced = f t) (t : Option Token) :
    (t.map Token.unplaced).mapM f = t.mapM f := by
  cases t with
  | none => rfl
  | some t => exact congrArg (Except.map some) (h t)

/-- Places show in the fault of a branch on the absent value only. -/
theorem node_unplaced (tree : NodeTree) :
    (tree.unplaced.eval text home).toOption = (tree.eval other home).toOption := by
  cases tree with
  | call callee args =>
    have hargs : (args.map Token.unplaced).mapM (Token.operand home) =
        args.mapM (Token.operand home) := mapM_unplaced (fun _ => rfl) args
    rw [NodeTree.unplaced, NodeTree.eval, NodeTree.eval, hargs]
    rfl
  | branch head target cond =>
    cases cond with
    | none => rfl
    | some cond =>
      show (target.label >>= _).toOption = (target.label >>= _).toOption
      rw [toOption_bind, toOption_bind]
      refine Option.bind_congr fun l _ => ?_
      show (cond.operand home >>= _).toOption = (cond.operand home >>= _).toOption
      rw [toOption_bind, toOption_bind]
      refine Option.bind_congr fun value _ => ?_
      cases hnull : value.isNull <;> rfl
  | ret value => rfl
  | phi edges =>
    have hedges : (edges.map (Prod.map Token.unplaced Token.unplaced)).mapM (NodeTree.edge home) =
        edges.mapM (NodeTree.edge home) := by
      rw [List.mapM_map]
      rfl
    rw [NodeTree.unplaced, NodeTree.eval, NodeTree.eval, hedges]
  | plain value => rfl

theorem line_unplaced (tree : LineTree) : tree.unplaced.eval = tree.eval := by
  have hfunction : (tree.function.map Token.unplaced).mapM Token.text =
      tree.function.mapM Token.text := mapM_unplaced_option (fun _ => rfl) tree.function
  rw [LineTree.eval, LineTree.eval, LineTree.unplaced, hfunction]
  rfl

theorem statement_unplaced (tree : StatementTree) (expected : Nat) :
    (tree.unplaced.eval text home expected).toOption =
      (tree.eval other home expected).toOption := by
  have htype : (tree.type.map Token.unplaced).mapM Token.text = tree.type.mapM Token.text :=
    mapM_unplaced_option (fun _ => rfl) tree.type
  have hlocation : ((tree.location.map Token.unplaced).mapM fun digits => natOf digits.chars) =
      tree.location.mapM fun digits => natOf digits.chars :=
    mapM_unplaced_option (fun _ => rfl) tree.location
  show (tree.number.number >>= _).toOption = (tree.number.number >>= _).toOption
  rw [toOption_bind, toOption_bind]
  refine Option.bind_congr fun number _ => ?_
  by_cases hnumber : number ≠ expected
  · rw [if_pos hnumber, if_pos hnumber]
    rfl
  · rw [if_neg hnumber, if_neg hnumber, StatementTree.unplaced, htype, hlocation, toOption_bind,
      toOption_bind]
    refine Option.bind_congr fun type _ => ?_
    rw [toOption_bind, toOption_bind]
    refine Option.bind_congr fun location _ => ?_
    rw [toOption_bind, toOption_bind, node_unplaced]

theorem item_unplaced (item : Item) (ir : IR) :
    (item.unplaced.eval text home ir).toOption = (item.eval other home ir).toOption := by
  cases item with
  | line tree => rw [Item.unplaced, Item.eval, Item.eval, line_unplaced]
  | statement tree =>
    rw [Item.unplaced, Item.eval, Item.eval, toOption_bind, toOption_bind, statement_unplaced]

theorem items_unplaced (items : List Item) (ir : IR) :
    ((items.map Item.unplaced).foldlM (Item.eval text home) ir).toOption =
      (items.foldlM (Item.eval other home) ir).toOption := by
  induction items generalizing ir with
  | nil => rfl
  | cons item rest ih =>
    rw [List.map_cons, List.foldlM_cons, List.foldlM_cons, toOption_bind, toOption_bind,
      item_unplaced]
    exact Option.bind_congr fun after _ => ih after

/-- A tree has its value whatever the places of its tokens are. -/
theorem tree_unplaced (tree : Tree) :
    (tree.unplaced.eval text home).toOption = (tree.eval other home).toOption := by
  have hslots : (tree.slots.map Token.unplaced).mapM Token.text = tree.slots.mapM Token.text :=
    mapM_unplaced (fun _ => rfl) tree.slots
  show (tree.name.text >>= _).toOption = (tree.name.text >>= _).toOption
  rw [toOption_bind, toOption_bind]
  refine Option.bind_congr fun name _ => ?_
  rw [Tree.unplaced, hslots, toOption_bind, toOption_bind]
  exact Option.bind_congr fun slots _ => items_unplaced tree.items _

end Values

/-- Two texts with trees that differ in places at most read as the same body, if they
read as one. -/
theorem read_of_unplaced {home : Namespace} {text other : List Char} {tree found : Tree}
    (hscan : scan .start 0 0 text = .ok tree) (hother : scan .start 0 0 other = .ok found)
    (h : tree.unplaced = found.unplaced) :
    (read home text).toOption = (read home other).toOption := by
  rw [read_of_scan hscan, read_of_scan hother, ← @tree_unplaced home [], h, tree_unplaced]

end Listing
end SsaEdit
