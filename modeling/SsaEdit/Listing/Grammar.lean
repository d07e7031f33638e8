/-
The grammar of listings.

Operands do not nest, so the grammar is regular over tokens, and a listing is
read by an automaton.  A state is a place in the grammar together with the
tokens already found there; `State.advance?` takes one token.  A kind of token is
welcome in a state exactly when the state can advance over it, so what the lexer
looks for never differs from what the grammar takes.
-/
import SsaEdit.Listing.Tree

namespace SsaEdit
namespace Listing

namespace Terminal

def isName : Terminal → Bool
  | .name | .quoted => true
  | _ => false

/-- The literals: numbers, texts and the words for the remaining ones. -/
def isLiteral : Terminal → Bool
  | .number | .quoted | .minusInf => true
  | .keyword k => k = .yes || k = .no || k = .absent || k = .inf || k = .nan
  | _ => false

def isOperand (t : Terminal) : Bool :=
  t = .variable || t = .argument || t = .name || t.isLiteral

end Terminal

/-- A place inside the curly brackets, with the tokens of the item so far. -/
inductive Spot
  /-- Before an item. -/
  | item
  | lineFile
  | lineColon (file : Token)
  | lineNumber (file : Token)
  | lineEnd (file line : Token)
  | lineFunction (file line : Token)
  | equals (number : Token)
  | operation (number : Token)
  | callCallee (number : Token)
  | openArgs (number callee : Token)
  | firstArg (number callee : Token)
  | nextArg (number callee : Token) (args : List Token)
  | argEnd (number callee : Token) (args : List Token)
  | branchTarget (number head : Token)
  | targetEnd (number head target : Token)
  | branchCond (number head target : Token)
  | result (number : Token)
  | openEdges (number : Token)
  | firstEdge (number : Token)
  | nextEdge (number : Token) (edges : List (Token × Token))
  | arrow (number : Token) (edges : List (Token × Token)) (edge : Token)
  | edgeValue (number : Token) (edges : List (Token × Token)) (edge : Token)
  | edgeEnd (number : Token) (edges : List (Token × Token))
  | nodeEnd (number : Token) (node : NodeTree)
  | typeName (number : Token) (node : NodeTree)
  | typeEnd (number : Token) (node : NodeTree) (type : Token)
  | locationNumber (number : Token) (node : NodeTree) (type : Option Token)

/-- Where a token leads inside the curly brackets: on within the item, or to its
end. -/
inductive Move
  | to (spot : Spot)
  | close (item : Item)

namespace Spot

/-- The item that is complete here, if nothing more has to follow. -/
def complete? : Spot → Option Item
  | .lineEnd file line => some (.line ⟨file, line, none⟩)
  | .targetEnd number head target =>
    some (.statement ⟨number, .branch head target none, none, none⟩)
  | .nodeEnd number node => some (.statement ⟨number, node, none, none⟩)
  | .typeEnd number node type => some (.statement ⟨number, node, some type, none⟩)
  | _ => none

/-- After a node: a type or a location. -/
def afterNode? (number : Token) (node : NodeTree) (t : Token) : Option Move :=
  match t.kind with
  | .mark .doubleColon => some (.to (.typeName number node))
  | .mark .at => some (.to (.locationNumber number node none))
  | _ => none

/-- The beginning of a node. -/
def beginNode? (number t : Token) : Option Move :=
  match t.kind with
  | .keyword .call => some (.to (.callCallee number))
  | .keyword .br => some (.to (.branchTarget number t))
  | .keyword .ret => some (.to (.result number))
  | .keyword .phi => some (.to (.openEdges number))
  | kind =>
    if kind = .argument || kind = .name || kind.isLiteral then
      some (.to (.nodeEnd number (.plain t)))
    else none

/-- Move on when the token is of the right kind. -/
def expect (kind : Terminal) (t : Token) (move : Move) : Option Move :=
  if t.kind = kind then some move else none

/-- Move on over an operand. -/
def expectOperand (t : Token) (move : Move) : Option Move :=
  if t.kind.isOperand then some move else none

/-- Move on over a name. -/
def expectName (t : Token) (move : Move) : Option Move :=
  if t.kind.isName then some move else none

/-- Where a token leads from a spot, within the item. -/
def move? : Spot → Token → Option Move
  | .item, _ => none
  | .lineFile, t => expect .quoted t (.to (.lineColon t))
  | .lineColon file, t => expect (.mark .colon) t (.to (.lineNumber file))
  | .lineNumber file, t => expect .digits t (.to (.lineEnd file t))
  | .lineEnd file line, t => expect (.keyword .within) t (.to (.lineFunction file line))
  | .lineFunction file line, t => expectName t (.close (.line ⟨file, line, some t⟩))
  | .equals number, t => expect (.mark .equals) t (.to (.operation number))
  | .operation number, t => beginNode? number t
  | .callCallee number, t => expectOperand t (.to (.openArgs number t))
  | .openArgs number callee, t => expect (.mark .openRound) t (.to (.firstArg number callee))
  | .firstArg number callee, t =>
    if t.kind = .mark .closeRound then some (.to (.nodeEnd number (.call callee [])))
    else expectOperand t (.to (.argEnd number callee [t]))
  | .nextArg number callee args, t => expectOperand t (.to (.argEnd number callee (args ++ [t])))
  | .argEnd number callee args, t =>
    match t.kind with
    | .mark .comma => some (.to (.nextArg number callee args))
    | .mark .closeRound => some (.to (.nodeEnd number (.call callee args)))
    | _ => none
  | .branchTarget number head, t => expect .label t (.to (.targetEnd number head t))
  | .targetEnd number head target, t =>
    if t.kind = .keyword .unless then some (.to (.branchCond number head target))
    else afterNode? number (.branch head target none) t
  | .branchCond number head target, t =>
    expectOperand t (.to (.nodeEnd number (.branch head target (some t))))
  | .result number, t => expectOperand t (.to (.nodeEnd number (.ret t)))
  | .openEdges number, t => expect (.mark .openSquare) t (.to (.firstEdge number))
  | .firstEdge number, t =>
    match t.kind with
    | .mark .closeSquare => some (.to (.nodeEnd number (.phi [])))
    | .label => some (.to (.arrow number [] t))
    | _ => none
  | .nextEdge number edges, t => expect .label t (.to (.arrow number edges t))
  | .arrow number edges edge, t => expect (.mark .arrow) t (.to (.edgeValue number edges edge))
  | .edgeValue number edges edge, t =>
    expectOperand t (.to (.edgeEnd number (edges ++ [(edge, t)])))
  | .edgeEnd number edges, t =>
    match t.kind with
    | .mark .comma => some (.to (.nextEdge number edges))
    | .mark .closeSquare => some (.to (.nodeEnd number (.phi edges)))
    | _ => none
  | .nodeEnd number node, t => afterNode? number node t
  | .typeName number node, t => expectName t (.to (.typeEnd number node t))
  | .typeEnd number node type, t =>
    expect (.mark .at) t (.to (.locationNumber number node (some type)))
  | .locationNumber number node type, t =>
    expect .digits t (.close (.statement ⟨number, node, type, some t⟩))

end Spot

/-- A place in the grammar, with what was found up to it. -/
inductive State
  | start
  | title
  | openSlots (name : Token)
  | firstSlot (name : Token)
  | nextSlot (name : Token) (slots : List Token)
  | slotEnd (name : Token) (slots : List Token)
  | openBody (name : Token) (slots : List Token)
  /-- Inside the curly brackets, with the items found so far. -/
  | body (tree : Tree) (spot : Spot)
  | done (tree : Tree)

namespace State

/-- Between items: the next item begins, or the body ends. -/
def betweenItems? (tree : Tree) (t : Token) : Option State :=
  match t.kind with
  | .keyword .loc => some (.body tree .lineFile)
  | .variable => some (.body tree (.equals t))
  | .mark .closeCurly => some (.done tree)
  | _ => none

/-- The tree with the item that ends at a spot, if one may end there. -/
def settle? (tree : Tree) : Spot → Option Tree
  | .item => some tree
  | spot => spot.complete?.map tree.push

/-- Take one token. -/
def advance? : State → Token → Option State
  | .start, t => if t.kind = .keyword .ir then some .title else none
  | .title, t => if t.kind.isName then some (.openSlots t) else none
  | .openSlots name, t => if t.kind = .mark .openRound then some (.firstSlot name) else none
  | .firstSlot name, t =>
    if t.kind = .mark .closeRound then some (.openBody name [])
    else if t.kind.isName then some (.slotEnd name [t])
    else none
  | .nextSlot name slots, t => if t.kind.isName then some (.slotEnd name (slots ++ [t])) else none
  | .slotEnd name slots, t =>
    match t.kind with
    | .mark .comma => some (.nextSlot name slots)
    | .mark .closeRound => some (.openBody name slots)
    | _ => none
  | .openBody name slots, t =>
    if t.kind = .mark .openCurly then some (.body ⟨name, slots, []⟩ .item) else none
  | .body tree spot, t =>
    match spot.move? t with
    | some (.to next) => some (.body tree next)
    | some (.close item) => some (.body (tree.push item) .item)
    | none => (settle? tree spot).bind fun settled => betweenItems? settled t
  | .done _, _ => none

/-- Whether a state can take a token of some kind. -/
def welcomes (s : State) (kind : Terminal) : Bool := (s.advance? ⟨kind, [], 0⟩).isSome

/-- The whole tree, once everything was found. -/
def tree? : State → Option Tree
  | .done tree => some tree
  | _ => none

end State

/-- Read on from a state.  `last` is where the last token began and `here` where
the text `s` does; a failure tells where the reading stopped: at the first
character that begins no welcome token, or, if the text ends too soon, at its
last token. -/
def scan (state : State) (last here : Nat) (s : List Char) : Except Nat Tree :=
  let split := splitBlanks false s
  let start := here + split.1.length
  match _ : split.2 with
  | [] =>
    match state.tree? with
    | some tree => .ok tree
    | none => .error last
  | c :: rest =>
    match lex? state.welcomes (c :: rest) with
    | some (kind, first :: chars) =>
      match state.advance? ⟨kind, first :: chars, start⟩ with
      | some next => scan next start (start + chars.length + 1) (rest.drop chars.length)
      | none => .error start
    | _ => .error start
termination_by s.length
decreasing_by
  have := length_splitBlanks false s
  rename_i h
  rw [show (splitBlanks false s).2 = c :: rest from h] at this
  simp only [List.length_cons, List.length_drop] at this ⊢
  omega

end Listing
end SsaEdit
