/-
Lines and statements read back.

Between two items the scan may be in one of several states, since an item that has
said enough still waits for its optional parts.  `Settled` says what they have in
common: the next item or the end of the body may come, and the tree is then the one
given.  A printed line or statement leads from a settled state to a settled one,
and the tree of the latter evaluates to a body with one more entry.
-/
import SsaEdit.Proofs.Listing.Printable

namespace SsaEdit
namespace Listing

/-! ## Evaluation -/

variable {text : List Char} {home : Namespace}

theorem Tree.eval_push {tree : Tree} {item : Item} {ir after : IR}
    (htree : tree.eval text home = .ok ir) (hitem : item.eval text home ir = .ok after) :
    (tree.push item).eval text home = .ok after := by
  rw [Tree.eval] at htree ⊢
  have hname : (tree.push item).name = tree.name := rfl
  have hslots : (tree.push item).slots = tree.slots := rfl
  have hitems : (tree.push item).items = tree.items ++ [item] := rfl
  rw [hname, hslots, hitems]
  cases h : tree.name.text with
  | error fault =>
    rw [h] at htree
    cases htree
  | ok name =>
    cases h' : tree.slots.mapM Token.text with
    | error fault =>
      rw [h, h'] at htree
      cases htree
    | ok slots =>
      rw [h, h'] at htree
      have hfold : tree.items.foldlM (Item.eval text home)
          ⟨name, .int slots.length, slots, [], [], [], []⟩ = .ok ir := htree
      have hmore : (tree.items ++ [item]).foldlM (Item.eval text home)
          ⟨name, .int slots.length, slots, [], [], [], []⟩ = .ok after := by
        rw [List.foldlM_append, hfold]
        simp only [List.foldlM_cons, List.foldlM_nil]
        change (Item.eval text home ir item >>= pure) = _
        rw [hitem]
        rfl
      exact hmore

/-- The file that an empty name stands for. -/
theorem file_getD {file : Option Text} (hfile : PrintableName file) :
    (if (file.getD []).isEmpty then none else some (file.getD [])) = file := by
  cases file with
  | none => rfl
  | some t =>
    have hne : t.isEmpty = false := by
      rw [List.isEmpty_eq_false_iff]
      exact hfile.1
    simp [hne]

theorem narrow_getD {file : Option Text} (hfile : PrintableName file) :
    (file.getD []).Narrow := by
  cases file with
  | none => exact fun q hq => absurd hq List.not_mem_nil
  | some t => exact hfile.2

theorem LineTree.eval_eq {t : LineTree} {info : LineInfo} {k : Nat} (hinfo : PrintableLine info)
    (hfile : t.file.text = .ok (info.file.getD [])) (hline : natOf t.line.chars = .ok k)
    (hk : info.line = k) (hfunction : t.function.mapM Token.text = .ok info.function) :
    t.eval = .ok info := by
  rw [LineTree.eval, hfunction, hfile, hline]
  change Except.ok (LineInfo.mk (if (info.file.getD []).isEmpty then none
    else some (info.file.getD [])) k info.function) = Except.ok info
  rw [file_getD hinfo.file, ← hk]

theorem Tree.eval_push_line {tree : Tree} {t : LineTree} {ir : IR} {info : LineInfo}
    (htree : tree.eval text home = .ok ir) (ht : t.eval = .ok info) :
    (tree.push (.line t)).eval text home =
      .ok { ir with lineTable := ir.lineTable ++ [info] } := by
  refine eval_push htree ?_
  rw [Item.eval, ht]
  rfl

/-- The text of a type that is known. -/
def typeText : Value → Option Text
  | .text t => some t
  | _ => none

theorem StatementTree.eval_eq {t : StatementTree} {s : Statement} {location : Value}
    {expected : Nat} {place : Option Nat} (hnumber : t.number.number = .ok expected)
    (hstype : PrintableType s.type) (htype : t.type.mapM Token.text = .ok (typeText s.type))
    (hplace : t.location.mapM (fun digits => natOf digits.chars) = .ok place)
    (hlocation : location = .int (place.getD 0)) (hnode : t.node.eval text home = .ok s.node) :
    t.eval text home expected = .ok (s, location) := by
  obtain ⟨node, type⟩ := s
  have hexpected : ¬ (expected ≠ expected) := fun h => h rfl
  rw [StatementTree.eval, hnumber, htype, hplace, hnode, hlocation]
  simp only [bind, Except.bind, if_neg hexpected]
  cases type with
  | text t => rfl
  | unknown => rfl
  | _ => cases hstype

theorem Tree.eval_push_statement {tree : Tree} {t : StatementTree} {ir : IR} {s : Statement}
    {location : Value} (htree : tree.eval text home = .ok ir)
    (ht : t.eval text home (ir.size + 1) = .ok (s, location)) :
    (tree.push (.statement t)).eval text home =
      .ok { ir with body := ir.body ++ [s], locations := ir.locations ++ [location] } := by
  refine eval_push htree ?_
  rw [Item.eval, ht]
  rfl

/-! ## Settled states -/

variable {state : State} {tree : Tree} {rest : List Char} {p : Tree → Prop}

/-- The next item or the end of the body may come, after the items of a tree. -/
structure Settled (state : State) (tree : Tree) : Prop where
  step : ∀ t : Token, t.kind ∈ betweenKinds → state.advance? t = State.betweenItems? tree t
  loc : Alone state.kinds (.keyword .loc) 'l' = true
  reference : Alone state.kinds .variable '%' = true
  close : Alone state.kinds (.mark .closeCurly) '\x7d' = true

/-- A state settles if it treats the three kinds that come between items as the
grammar does there. -/
theorem settled_of_kinds
    (hloc : ∀ chars start, state.advance? ⟨.keyword .loc, chars, start⟩ =
      State.betweenItems? tree ⟨.keyword .loc, chars, start⟩)
    (hreference : ∀ chars start, state.advance? ⟨.variable, chars, start⟩ =
      State.betweenItems? tree ⟨.variable, chars, start⟩)
    (hclose : ∀ chars start, state.advance? ⟨.mark .closeCurly, chars, start⟩ =
      State.betweenItems? tree ⟨.mark .closeCurly, chars, start⟩)
    (hkinds : (Alone state.kinds (.keyword .loc) 'l' && Alone state.kinds .variable '%' &&
      Alone state.kinds (.mark .closeCurly) '\x7d') = true) : Settled state tree := by
  simp only [Bool.and_eq_true] at hkinds
  refine ⟨?_, hkinds.1.1, hkinds.1.2, hkinds.2⟩
  rintro ⟨kind, chars, start⟩ hkind
  simp only [betweenKinds, List.mem_cons, List.mem_nil_iff, or_false] at hkind
  rcases hkind with rfl | rfl | rfl
  · exact hloc chars start
  · exact hreference chars start
  · exact hclose chars start

theorem settled_item (tree : Tree) : Settled (.body tree .item) tree :=
  settled_of_kinds (fun _ _ => rfl) (fun _ _ => rfl) (fun _ _ => rfl) rfl

theorem settled_lineEnd (tree : Tree) (file number : Token) :
    Settled (.body tree (.lineEnd file number)) (tree.push (.line ⟨file, number, none⟩)) :=
  settled_of_kinds (fun _ _ => rfl) (fun _ _ => rfl) (fun _ _ => rfl) rfl

theorem settled_targetEnd (tree : Tree) (number head target : Token) :
    Settled (.body tree (.targetEnd number head target))
      (tree.push (.statement ⟨number, .branch head target none, none, none⟩)) :=
  settled_of_kinds (fun _ _ => rfl) (fun _ _ => rfl) (fun _ _ => rfl) rfl

theorem settled_nodeEnd (tree : Tree) (number : Token) (node : NodeTree) :
    Settled (.body tree (.nodeEnd number node))
      (tree.push (.statement ⟨number, node, none, none⟩)) :=
  settled_of_kinds (fun _ _ => rfl) (fun _ _ => rfl) (fun _ _ => rfl) rfl

theorem settled_typeEnd (tree : Tree) (number : Token) (node : NodeTree) (type : Token) :
    Settled (.body tree (.typeEnd number node type))
      (tree.push (.statement ⟨number, node, some type, none⟩)) :=
  settled_of_kinds (fun _ _ => rfl) (fun _ _ => rfl) (fun _ _ => rfl) rfl

/-! ## Lines -/

theorem Reads.newline (h : Reads state rest p) : Reads state ('\n' :: rest) p :=
  blank (by decide) (by decide) h

theorem Reads.tab (h : Reads state rest p) : Reads state ('\t' :: rest) p :=
  blank (by decide) (by decide) h

/-- The beginning of a line: its file and its number. -/
theorem Reads.lineHead {file : Text} {k : Nat} (hfile : file.Narrow) (hk : Short k)
    (hsettled : Settled state tree) (hrest : Stops rest)
    (h : ∀ t number : Token, t.text = .ok file → natOf number.chars = .ok k →
      Reads (.body tree (.lineEnd t number)) rest p) :
    Reads state (Keyword.loc.spelling ++
      ' ' :: (file.encode ++ ':' :: (Nat.toDigits 10 k ++ rest))) p := by
  have hloc : ∀ start, state.advance? ⟨.keyword .loc, Keyword.loc.spelling, start⟩ =
      some (.body tree .lineFile) :=
    fun start => (hsettled.step _ (List.mem_cons_self ..)).trans rfl
  refine keyword .loc rfl hsettled.loc hloc (space ?_)
  refine token (cuts_quoted hfile rfl) fun start => ⟨_, rfl, ?_⟩
  refine mark .colon rfl rfl (fun _ => rfl) ?_
  refine token (cuts_digits k hrest rfl) fun start' => ⟨_, rfl, ?_⟩
  exact h _ _ (literal_encode hfile .quoted start) (natOf_toDigits hk)

/-- The part of a line that names its function. -/
def printFunction : Option Text → List Char
  | some (q :: t) => ' ' :: Keyword.within.spelling ++ ' ' :: printName (q :: t)
  | _ => []

theorem printLine_eq (info : LineInfo) :
    printLine info = Keyword.loc.spelling ++ ' ' :: (info.file.getD []).encode ++ ':' ::
      (decimalInt info.line).toList ++ printFunction info.function := by
  rw [printLine]
  cases info.function with
  | none => rfl
  | some t => cases t <;> rfl

theorem stops_printFunction (function : Option Text) (rest : List Char) :
    Stops (printFunction function ++ '\n' :: rest) := by
  unfold printFunction
  split
  · exact stops_cons (by decide) _
  · exact stops_cons (by decide) _

/-- The end of a line: the function, if there is one. -/
theorem Reads.lineTail {file number : Token} {function : Option Text}
    (hfunction : PrintableName function)
    (h : ∀ next token, Settled next (tree.push (.line ⟨file, number, token⟩)) →
      token.mapM Token.text = .ok function → Reads next rest p) :
    Reads (.body tree (.lineEnd file number)) (printFunction function ++ '\n' :: rest) p := by
  cases function with
  | none => exact newline (h _ none (settled_lineEnd tree file number) rfl)
  | some name =>
    obtain ⟨hne, hnarrow⟩ := hfunction
    obtain ⟨q, t, rfl⟩ := List.exists_cons_of_ne_nil hne
    simp only [printFunction, List.append_assoc, List.cons_append]
    refine space (keyword .within rfl rfl (fun _ => rfl) (space ?_))
    refine Reads.name hnarrow rfl rfl (stops_cons (by decide) _) ?_
    intro token hkind htext
    have hstep : State.advance? (.body tree (.lineFunction file number)) token =
        some (.body (tree.push (.line ⟨file, number, some token⟩)) .item) := by
      simp [State.advance?, Spot.move?, Spot.expectName, hkind]
    refine ⟨_, hstep, newline (h _ (some token) (settled_item _) ?_)⟩
    rw [Option.mapM_some, htext]
    rfl

/-- A printed line leads from a settled state to one with one more entry. -/
theorem Reads.lineEntry {ir : IR} {info : LineInfo} (hinfo : PrintableLine info)
    (hsettled : Settled state tree) (htree : tree.eval text home = .ok ir)
    (h : ∀ next after, Settled next after →
      after.eval text home = .ok { ir with lineTable := ir.lineTable ++ [info] } →
      Reads next rest p) :
    Reads state ('\t' :: printLine info ++ ['\n'] ++ rest) p := by
  obtain ⟨k, hk⟩ := Int.eq_ofNat_of_zero_le hinfo.nonneg
  have hshort : Short k := by
    have hinfo := hinfo.short
    rw [hk] at hinfo
    exact hinfo
  have hdigits : (decimalInt info.line).toList = Nat.toDigits 10 k := by
    rw [hk]
    exact decimalInt_natCast k
  rw [printLine_eq, hdigits]
  simp only [List.append_assoc, List.cons_append, List.nil_append]
  refine tab (lineHead (narrow_getD hinfo.file) hshort hsettled (stops_printFunction _ rest) ?_)
  intro file number hfile hnumber
  refine lineTail hinfo.function ?_
  intro next function hsettled hfunction
  have hline := LineTree.eval_eq (t := ⟨file, number, function⟩) hinfo hfile hnumber hk hfunction
  exact h _ _ hsettled (Tree.eval_push_line htree hline)

/-! ## Nodes -/

/-- After a node: a type, a location or the end of the statement may come. -/
structure AfterNode (state : State) (tree : Tree) (number : Token) (node : NodeTree) : Prop where
  type : ∀ start, state.advance? ⟨.mark .doubleColon, [':', ':'], start⟩ =
    some (.body tree (.typeName number node))
  location : ∀ start, state.advance? ⟨.mark .at, ['@'], start⟩ =
    some (.body tree (.locationNumber number node none))
  typeAlone : Alone state.kinds (.mark .doubleColon) ':' = true
  locationAlone : Alone state.kinds (.mark .at) '@' = true
  settled : Settled state (tree.push (.statement ⟨number, node, none, none⟩))

theorem afterNode_nodeEnd (tree : Tree) (number : Token) (node : NodeTree) :
    AfterNode (.body tree (.nodeEnd number node)) tree number node :=
  ⟨fun _ => rfl, fun _ => rfl, rfl, rfl, settled_nodeEnd tree number node⟩

/-- A jump is complete before its condition. -/
theorem afterNode_targetEnd (tree : Tree) (number head target : Token) :
    AfterNode (.body tree (.targetEnd number head target)) tree number (.branch head target none) :=
  ⟨fun _ => rfl, fun _ => rfl, rfl, rfl, settled_targetEnd tree number head target⟩

variable {number : Token}

/-- Past an operand to a place of which the grammar asks no more than an operand. -/
theorem Reads.operandTo {spot : Spot} {next : Token → Spot} {v : Value} (hv : Operand home v)
    (hkinds : takesOperands spot.kinds = true)
    (hmove : ∀ t : Token, t.kind.isOperand = true → spot.move? t = some (.to (next t)))
    (hrest : Stops rest)
    (h : ∀ t : Token, t.operand home = .ok v → Reads (.body tree (next t)) rest p) :
    Reads (.body tree spot) (printOperand v ++ rest) p := by
  refine Reads.operand hv hkinds hrest ?_
  intro t hkind heval
  refine ⟨.body tree (next t), ?_, h t heval⟩
  simp only [State.advance?, hmove t hkind]

theorem Reads.callNode {callee : Value} {args : List Value} (hcallee : Operand home callee)
    (hargs : ∀ arg ∈ args, Operand home arg)
    (h : ∀ node : NodeTree, node.eval text home = .ok (.call callee args) →
      Reads (.body tree (.nodeEnd number node)) rest p) :
    Reads (.body tree (.operation number)) (printNode (.call callee args) ++ rest) p := by
  have hexpect : ∀ (t : Token) (move : Move), t.kind.isOperand = true →
      Spot.expectOperand t move = some move := fun t move ht => if_pos ht
  have hround : ∀ t : Token, t.kind.isOperand = true → t.kind ≠ .mark .closeRound := by
    rintro ⟨kind, chars, start⟩ ht rfl
    cases ht
  simp only [printNode, List.append_assoc, List.cons_append, List.nil_append]
  refine keywordWord .call rfl rfl (stops_cons (by decide) _) fun start => ⟨_, rfl, space ?_⟩
  refine operandTo hcallee rfl (fun t ht => hexpect t _ ht) (stops_cons (by decide) _) ?_
  intro calleeToken hcalleeToken
  refine mark .openRound rfl rfl (fun _ => rfl) ?_
  have hclose : ∀ tokens : List Token, tokens.mapM (Token.operand home) = .ok args →
      Reads (.body tree (.nodeEnd number (.call calleeToken tokens))) rest p := by
    intro tokens htokens
    refine h _ ?_
    rw [NodeTree.eval, hcalleeToken, htokens]
    rfl
  refine separated (Token.operand home) (fun tokens => .body tree (.argEnd number calleeToken tokens))
    (fun tokens => .body tree (.nextArg number calleeToken tokens)) ?_ ?_ ?_ ?_
    (stops_cons (by decide) _) hargs ?_
  · rintro rfl
    exact mark .closeRound rfl rfl (fun _ => rfl) (hclose [] rfl)
  · intro x s hx hs hmore
    refine operandTo hx rfl (fun t ht => ?_) hs hmore
    rw [Spot.move?, if_neg (hround t ht)]
    exact hexpect t _ ht
  · intro tokens s hmore
    exact mark .comma rfl rfl (fun _ => rfl) hmore
  · intro tokens x s hx hs hmore
    exact operandTo hx rfl (fun t ht => hexpect t _ ht) hs hmore
  · intro tokens htokens
    exact mark .closeRound rfl rfl (fun _ => rfl) (hclose tokens htokens)

/-- Past a label to a place of which the grammar asks no more than a label. -/
theorem Reads.labelTo {spot : Spot} {next : Token → Spot} {l : Label} (hl : Short l.id)
    (halone : Alone spot.kinds .label '#' = true)
    (hmove : ∀ chars start, spot.move? ⟨.label, chars, start⟩ =
      some (.to (next ⟨.label, chars, start⟩)))
    (hrest : Stops rest)
    (h : ∀ t : Token, t.label = .ok l → Reads (.body tree (next t)) rest p) :
    Reads (.body tree spot) (l.display.toList ++ rest) p := by
  obtain ⟨k⟩ := l
  rw [label_display]
  refine token (cuts_label k halone hrest) fun start => ?_
  refine ⟨.body tree (next ⟨.label, '#' :: Nat.toDigits 10 k, start⟩), ?_, h _ ?_⟩
  · simp only [State.advance?, hmove]
  · exact congrArg (Except.map Label.mk) (number_sigil hl .label '#' start)

theorem Reads.edgeTo {spot : Spot} {edges : List (Token × Token)} {edge : Label × Value}
    (hedge : Short edge.1.id ∧ Operand home edge.2) (halone : Alone spot.kinds .label '#' = true)
    (hmove : ∀ chars start, spot.move? ⟨.label, chars, start⟩ =
      some (.to (.arrow number edges ⟨.label, chars, start⟩)))
    (hrest : Stops rest)
    (h : ∀ pair : Token × Token, NodeTree.edge home pair = .ok edge →
      Reads (.body tree (.edgeEnd number (edges ++ [pair]))) rest p) :
    Reads (.body tree spot) (printEdge edge ++ rest) p := by
  obtain ⟨hlabel, hvalue⟩ := hedge
  simp only [printEdge, List.append_assoc, List.cons_append, List.nil_append]
  refine labelTo hlabel halone hmove (stops_cons (by decide) _) ?_
  intro labelToken hlabelToken
  refine space (longMark .arrow rfl rfl (fun _ => rfl) (space ?_))
  refine operandTo hvalue rfl (fun t ht => if_pos ht) hrest ?_
  intro valueToken hvalueToken
  refine h (labelToken, valueToken) ?_
  rw [NodeTree.edge, hlabelToken, hvalueToken]
  rfl

theorem Reads.phiNode {incoming : List (Label × Value)}
    (hincoming : ∀ edge ∈ incoming, Short edge.1.id ∧ Operand home edge.2)
    (h : ∀ node : NodeTree, node.eval text home = .ok (.phi incoming) →
      Reads (.body tree (.nodeEnd number node)) rest p) :
    Reads (.body tree (.operation number)) (printNode (.phi incoming) ++ rest) p := by
  have hclose : ∀ edges, edges.mapM (NodeTree.edge home) = .ok incoming →
      Reads (.body tree (.nodeEnd number (.phi edges))) rest p := by
    intro edges hedges
    refine h _ ?_
    rw [NodeTree.eval, hedges]
    rfl
  simp only [printNode, List.append_assoc, List.cons_append, List.nil_append]
  refine keywordWord .phi rfl rfl (stops_cons (by decide) _) fun start => ⟨_, rfl, space ?_⟩
  refine mark .openSquare rfl rfl (fun _ => rfl) ?_
  refine separated (NodeTree.edge home) (fun edges => .body tree (.edgeEnd number edges))
    (fun edges => .body tree (.nextEdge number edges)) ?_ ?_ ?_ ?_ (stops_cons (by decide) _)
    hincoming ?_
  · rintro rfl
    exact mark .closeSquare rfl rfl (fun _ => rfl) (hclose [] rfl)
  · intro edge s hedge hs hmore
    exact edgeTo hedge rfl (fun _ _ => rfl) hs hmore
  · intro edges s hmore
    exact mark .comma rfl rfl (fun _ => rfl) hmore
  · intro edges edge s hedge hs hmore
    exact edgeTo hedge rfl (fun _ _ => rfl) hs hmore
  · intro edges hedges
    exact mark .closeSquare rfl rfl (fun _ => rfl) (hclose edges hedges)

theorem Reads.branchNode {target : Label} {cond : Value} (htarget : Short target.id)
    (hcond : Operand home cond) (hrest : Stops rest)
    (h : ∀ next node, AfterNode next tree number node →
      node.eval text home = .ok (.branch target cond) → Reads next rest p) :
    Reads (.body tree (.operation number)) (printNode (.branch target cond) ++ rest) p := by
  simp only [printNode, List.append_assoc, List.cons_append]
  refine keywordWord .br rfl rfl (stops_cons (by decide) _) fun start => ⟨_, rfl, space ?_⟩
  cases hnull : cond.isNull with
  | true =>
    have hcond : cond = .null := by
      cases cond with
      | null => rfl
      | _ => cases hnull
    rw [if_pos rfl, List.nil_append]
    refine labelTo htarget rfl (fun _ _ => rfl) hrest ?_
    intro targetToken htargetToken
    refine h _ _ (afterNode_targetEnd tree number _ targetToken) ?_
    rw [NodeTree.eval, htargetToken, hcond]
    rfl
  | false =>
    rw [if_neg Bool.false_ne_true]
    simp only [List.append_assoc, List.cons_append]
    refine labelTo htarget rfl (fun _ _ => rfl) (stops_cons (by decide) _) ?_
    intro targetToken htargetToken
    refine space (keyword .unless rfl rfl (fun _ => rfl) (space ?_))
    refine operandTo hcond rfl (fun t ht => if_pos ht) hrest ?_
    intro condToken hcondToken
    refine h _ _ (afterNode_nodeEnd tree number _) ?_
    simp only [NodeTree.eval, htargetToken, hcondToken, bind, Except.bind, hnull]
    rfl

theorem Reads.retNode {value : Value} (hvalue : Operand home value) (hrest : Stops rest)
    (h : ∀ node : NodeTree, node.eval text home = .ok (.ret value) →
      Reads (.body tree (.nodeEnd number node)) rest p) :
    Reads (.body tree (.operation number)) (printNode (.ret value) ++ rest) p := by
  simp only [printNode, List.append_assoc, List.cons_append]
  refine keywordWord .ret rfl rfl (stops_cons (by decide) _) fun start => ⟨_, rfl, space ?_⟩
  refine operandTo hvalue rfl (fun t ht => if_pos ht) hrest ?_
  intro t ht
  refine h _ ?_
  rw [NodeTree.eval, ht]
  rfl

theorem beginNode?_constant {t : Token} (ht : t.kind.isConstant = true) :
    Spot.beginNode? number t = some (.to (.nodeEnd number (.plain t))) := by
  obtain ⟨kind, chars, start⟩ := t
  cases kind with
  | keyword k =>
    cases k with
    | yes | no | absent | inf | nan => rfl
    | ir | loc | within | call | br | «unless» | ret | phi => cases ht
  | argument | name | quoted | number | minusInf => rfl
  | mark | «variable» | label | digits => cases ht

/-- A node that stands alone: an argument, a global or a literal. -/
theorem Reads.plainNode {n : Node} {v : Value} (hv : Constant home v)
    (hprint : printNode n = printOperand v) (halone : NodeTree.alone v = n) (hrest : Stops rest)
    (h : ∀ node : NodeTree, node.eval text home = .ok n →
      Reads (.body tree (.nodeEnd number node)) rest p) :
    Reads (.body tree (.operation number)) (printNode n ++ rest) p := by
  rw [hprint]
  refine Reads.constant hv rfl hrest ?_
  intro t hkind ht
  refine ⟨.body tree (.nodeEnd number (.plain t)), ?_, h (.plain t) ?_⟩
  · simp only [State.advance?, Spot.move?, beginNode?_constant hkind]
  · rw [NodeTree.eval, ht, ← halone]
    rfl

/-- A printed node leads to a place after a node. -/
theorem Reads.node {n : Node} (hn : PrintableNode home n) (hrest : Stops rest)
    (h : ∀ next node, AfterNode next tree number node → node.eval text home = .ok n →
      Reads next rest p) :
    Reads (.body tree (.operation number)) (printNode n ++ rest) p := by
  have hend : ∀ node : NodeTree, node.eval text home = .ok n →
      Reads (.body tree (.nodeEnd number node)) rest p :=
    fun node hnode => h _ node (afterNode_nodeEnd tree number node) hnode
  cases n with
  | call callee args => exact callNode hn.1 hn.2 hend
  | branch target cond => exact branchNode hn.1 hn.2 hrest h
  | ret value => exact retNode hn hrest hend
  | phi incoming => exact phiNode hn hend
  | const value =>
    have hconstant : Constant home value := by
      cases value with
      | node n => cases hn
      | _ => exact hn
    have halone : NodeTree.alone value = .const value := by
      cases value with
      | node n => cases hn
      | _ => rfl
    exact plainNode hconstant rfl halone hrest hend
  | global g => exact plainNode (v := .node (.global g)) hn rfl rfl hrest hend
  | argument index => exact plainNode (v := .node (.argument index)) hn rfl rfl hrest hend

/-! ## Statements -/

theorem stops_printLocation (location : Value) (rest : List Char) :
    Stops (printLocation location ++ '\n' :: rest) := by
  rw [printLocation]
  split
  · exact stops_cons (by decide) _
  · exact stops_cons (by decide) _

theorem printLocation_natCast (k : Nat) :
    printLocation (.int k) = if k = 0 then [] else ' ' :: '@' :: Nat.toDigits 10 k := by
  have hholds : Value.holds (.int k) = decide (k ≠ 0) := by
    cases k with
    | zero => rfl
    | succ k => rfl
  have hplain : Text.toString (Value.plain (.int k)) = decimalInt k := toString_ofString _
  rw [printLocation, hholds, hplain, decimalInt_natCast]
  by_cases hk : k = 0 <;> simp [hk]

/-- The location of a statement, from any place where it may come. -/
theorem Reads.locationNote {node : NodeTree} {type : Option Token} {location : Value}
    (hat : ∀ start, state.advance? ⟨.mark .at, ['@'], start⟩ =
      some (.body tree (.locationNumber number node type)))
    (halone : Alone state.kinds (.mark .at) '@' = true)
    (hsettled : Settled state (tree.push (.statement ⟨number, node, type, none⟩)))
    (hlocation : PrintableLocation location)
    (h : ∀ next place value, Settled next (tree.push (.statement ⟨number, node, type, place⟩)) →
      place.mapM (fun digits : Token => natOf digits.chars) = .ok value →
      location = .int (value.getD 0) → Reads next rest p) :
    Reads state (printLocation location ++ '\n' :: rest) p := by
  obtain ⟨k, rfl, hk⟩ : ∃ k : Nat, location = .int k ∧ Short k := by
    cases location with
    | int n =>
      obtain ⟨k, rfl⟩ := Int.eq_ofNat_of_zero_le hlocation.1
      exact ⟨k, rfl, hlocation.2⟩
    | _ => cases hlocation
  rw [printLocation_natCast]
  by_cases hzero : k = 0
  · rw [if_pos hzero, List.nil_append]
    refine newline (h state none none hsettled rfl ?_)
    rw [hzero]
    rfl
  · rw [if_neg hzero, List.cons_append, List.cons_append]
    refine space (mark .at rfl halone hat ?_)
    refine token (cuts_digits k (stops_cons (by decide) _) rfl) fun start => ⟨_, rfl, newline ?_⟩
    refine h _ (some ⟨.digits, Nat.toDigits 10 k, start⟩) (some k) (settled_item _) ?_ rfl
    rw [Option.mapM_some, natOf_toDigits hk]
    rfl

/-- The type and the location of a statement. -/
theorem Reads.notes {node : NodeTree} {type location : Value}
    (hafter : AfterNode state tree number node) (htype : PrintableType type)
    (hlocation : PrintableLocation location)
    (h : ∀ next name place value,
      Settled next (tree.push (.statement ⟨number, node, name, place⟩)) →
      name.mapM Token.text = .ok (typeText type) →
      place.mapM (fun digits : Token => natOf digits.chars) = .ok value →
      location = .int (value.getD 0) → Reads next rest p) :
    Reads state (printType type ++ (printLocation location ++ '\n' :: rest)) p := by
  cases type with
  | unknown =>
    refine locationNote hafter.location hafter.locationAlone hafter.settled hlocation ?_
    intro next place value hsettled hplace hvalue
    exact h next none place value hsettled rfl hplace hvalue
  | text t =>
    have hprint : printType (.text t) = [' ', ':', ':', ' '] ++ printName t := rfl
    rw [hprint]
    simp only [List.cons_append, List.nil_append]
    refine space (longMark .doubleColon rfl hafter.typeAlone hafter.type (space ?_))
    refine Reads.name htype rfl rfl (stops_printLocation location rest) ?_
    intro t hkind htext
    have hstep : State.advance? (.body tree (.typeName number node)) t =
        some (.body tree (.typeEnd number node t)) := by
      simp [State.advance?, Spot.move?, Spot.expectName, hkind]
    refine ⟨_, hstep, ?_⟩
    refine locationNote (fun _ => rfl) rfl (settled_typeEnd tree number node t) hlocation ?_
    intro next place value hsettled hplace hvalue
    refine h next (some t) place value hsettled ?_ hplace hvalue
    rw [Option.mapM_some, htext]
    rfl
  | _ => cases htype

/-- A printed statement leads from a settled state to one with one more entry. -/
theorem Reads.statementEntry {ir : IR} {s : Statement} {location : Value}
    (hnode : PrintableNode home s.node) (htype : PrintableType s.type)
    (hlocation : PrintableLocation location) (hsize : Short (ir.size + 1))
    (hsettled : Settled state tree) (htree : tree.eval text home = .ok ir)
    (h : ∀ next after, Settled next after →
      after.eval text home =
        .ok { ir with body := ir.body ++ [s], locations := ir.locations ++ [location] } →
      Reads next rest p) :
    Reads state ('\t' :: printStatement (ir.size + 1) s location ++ ['\n'] ++ rest) p := by
  have hstops : Stops (printType s.type ++ (printLocation location ++ '\n' :: rest)) := by
    rw [printType]
    split
    · exact stops_printLocation location rest
    · exact stops_cons (by decide) _
  rw [printStatement, variable_display]
  simp only [List.append_assoc, List.cons_append, List.nil_append]
  refine tab (token (cuts_variable _ hsettled.reference (stops_cons (by decide) _)) fun start => ?_)
  generalize htoken : (⟨.variable, '%' :: Nat.toDigits 10 (ir.size + 1), start⟩ : Token) = number
  have hnumber : number.number = .ok (ir.size + 1) := by
    rw [← htoken]
    exact number_sigil hsize .variable '%' start
  have hstep : state.advance? number = some (.body tree (.equals number)) := by
    rw [← htoken]
    exact (hsettled.step _ (by simp [betweenKinds])).trans rfl
  refine ⟨_, hstep, space (mark .equals rfl rfl (fun _ => rfl) (space ?_))⟩
  refine Reads.node hnode hstops fun next node hafter
    (heval : node.eval text home = .ok s.node) => ?_
  refine notes hafter htype hlocation ?_
  intro next name place value hsettled hname hplace hvalue
  have hstatement := StatementTree.eval_eq (t := ⟨number, node, name, place⟩) hnumber htype hname
    hplace hvalue heval
  exact h next _ hsettled (Tree.eval_push_statement htree hstatement)

end Listing
end SsaEdit
