/-
What a scanned tree is made of.

The lexer cuts words, numbers, digits, and sigils with digits off a text, and the
grammar asks for tokens of certain kinds in every place.  `Lexed` says both of a token,
a node, an item and a state of the scan.  Every token that is taken keeps it, and what
every token keeps holds at the end of a scan, so it holds of the tree.
-/
import SsaEdit.Proofs.Listing.Scan

namespace SsaEdit
namespace Listing

/-! ## Tokens -/

/-- What the lexer makes sure of in the characters of a token. -/
def Token.Lexed (t : Token) : Prop :=
  match t.kind with
  | .keyword k => t.chars = k.spelling
  | .mark m => t.chars = m.spelling
  | .name => isWord t.chars = true
  | .variable | .label | .argument => AllDigits t.chars.tail
  | .digits => AllDigits t.chars
  | .number => ∃ found, Numeral.read? t.chars = some found
  | _ => True

/-- A token of a kind that the grammar asks for. -/
structure Token.Is (t : Token) (kind : Terminal) : Prop where
  kind : t.kind = kind
  lexed : t.Lexed

/-- A token of one of the kinds of operands. -/
structure Token.IsOperand (t : Token) : Prop where
  kind : t.kind.isOperand = true
  lexed : t.Lexed

/-- A name, bare or quoted. -/
structure Token.IsName (t : Token) : Prop where
  kind : t.kind.isName = true
  lexed : t.Lexed

theorem eq_of_takeSpelling? {spelling s chars : List Char}
    (h : takeSpelling? spelling s = some chars) : chars = spelling := by
  rw [takeSpelling?] at h
  split at h
  · exact (Option.some.inj h).symm
  · cases h

theorem allDigits_of_takeDigits? {s digits : List Char} (h : takeDigits? s = some digits) :
    AllDigits digits := by
  rw [takeDigits?] at h
  split at h
  · cases h
  · exact Option.some.inj h ▸ List.all_eq_true.1 List.all_takeWhile

theorem allDigits_of_takeSigil? {sigil : Char} {s chars : List Char}
    (h : takeSigil? sigil s = some chars) : AllDigits chars.tail := by
  cases s with
  | nil => cases h
  | cons c rest =>
    rw [takeSigil?] at h
    split at h
    · obtain ⟨digits, hdigits, rfl⟩ := Option.map_eq_some_iff.1 h
      exact allDigits_of_takeDigits? hdigits
    · cases h

theorem isWord_of_take? {s word : List Char} (h : Terminal.name.take? s = some word) :
    isWord word = true := by
  cases s with
  | nil => cases h
  | cons c rest =>
    rw [Terminal.take?] at h
    split at h
    case isTrue hfirst =>
      exact Option.some.inj h ▸ Bool.and_eq_true_iff.2 ⟨hfirst, List.all_takeWhile⟩
    case isFalse => cases h

theorem lexed_of_take? {kind : Terminal} {s chars : List Char} (h : kind.take? s = some chars)
    (start : Nat) : Token.Lexed ⟨kind, chars, start⟩ := by
  cases kind with
  | name => exact isWord_of_take? h
  | «variable» | label | argument => exact allDigits_of_takeSigil? h
  | digits => exact allDigits_of_takeDigits? h
  | number =>
    obtain ⟨found, hfound, rfl⟩ := Option.map_eq_some_iff.1 h
    exact Numeral.exists_read?_spelling hfound
  | keyword | mark => exact eq_of_takeSpelling? h
  | quoted | minusInf => trivial

theorem lexed_of_lex? {welcome : Terminal → Bool} {s : List Char} {kind : Terminal}
    {chars : List Char} (h : lex? welcome s = some (kind, chars)) (start : Nat) :
    Token.Lexed ⟨kind, chars, start⟩ := by
  rw [lex?] at h
  split at h
  case h_1 word hword =>
    injection h with h
    injection h with hkind hchars
    subst hchars
    split at hword
    · have hlexed := isWord_of_take? hword
      rw [← hkind, classifyWord]
      split
      case h_1 k hk =>
        rw [Keyword.ofSpelling?] at hk
        have hspelling := List.find?_some hk
        split
        · exact (beq_iff_eq.1 hspelling).symm
        · exact hlexed
      case h_2 => exact hlexed
    · cases hword
  case h_2 =>
    obtain ⟨t, -, ht⟩ := List.exists_of_findSome?_eq_some h
    split at ht
    · obtain ⟨taken, htaken, hsame⟩ := Option.map_eq_some_iff.1 ht
      injection hsame with hkind hchars
      subst hkind hchars
      exact lexed_of_take? htaken start
    · cases ht

/-! ## Trees -/

theorem forall_mem_concat {p : α → Prop} {xs : List α} (h : ∀ x ∈ xs, p x) {y : α} (hy : p y) :
    ∀ x ∈ xs ++ [y], p x :=
  List.forall_mem_append.2 ⟨h, List.forall_mem_singleton.2 hy⟩

def NodeTree.Lexed : NodeTree → Prop
  | .call callee args => callee.IsOperand ∧ ∀ arg ∈ args, arg.IsOperand
  | .branch head target cond =>
    head.Is (.keyword .br) ∧ target.Is .label ∧ ∀ value ∈ cond, value.IsOperand
  | .ret value => value.IsOperand
  | .phi edges => ∀ edge ∈ edges, edge.1.Is .label ∧ edge.2.IsOperand
  | .plain value => value.IsOperand ∧ value.kind ≠ .variable

structure LineTree.Lexed (t : LineTree) : Prop where
  file : t.file.Is .quoted
  line : t.line.Is .digits
  function : ∀ name ∈ t.function, name.IsName

structure StatementTree.Lexed (t : StatementTree) : Prop where
  number : t.number.Is .variable
  node : t.node.Lexed
  type : ∀ name ∈ t.type, name.IsName
  location : ∀ digits ∈ t.location, digits.Is .digits

def Item.Lexed : Item → Prop
  | .line tree => tree.Lexed
  | .statement tree => tree.Lexed

structure Tree.Lexed (t : Tree) : Prop where
  name : t.name.IsName
  slots : ∀ slot ∈ t.slots, slot.IsName
  items : ∀ item ∈ t.items, item.Lexed

theorem Tree.Lexed.push {t : Tree} (h : t.Lexed) {item : Item} (hitem : item.Lexed) :
    (t.push item).Lexed := ⟨h.name, h.slots, forall_mem_concat h.items hitem⟩

/-! ## States of the scan -/

/-- What is listed between commas is not empty once an entry was read. -/
def Spot.Lexed : Spot → Prop
  | .item | .lineFile => True
  | .lineColon file | .lineNumber file => file.Is .quoted
  | .lineEnd file line | .lineFunction file line => file.Is .quoted ∧ line.Is .digits
  | .equals number | .operation number | .callCallee number | .result number
  | .openEdges number | .firstEdge number => number.Is .variable
  | .branchTarget number head => number.Is .variable ∧ head.Is (.keyword .br)
  | .openArgs number callee | .firstArg number callee =>
    number.Is .variable ∧ (NodeTree.call callee []).Lexed
  | .nextArg number callee args => number.Is .variable ∧ (NodeTree.call callee args).Lexed
  | .argEnd number callee args =>
    number.Is .variable ∧ (NodeTree.call callee args).Lexed ∧ args ≠ []
  | .targetEnd number head target | .branchCond number head target =>
    number.Is .variable ∧ (NodeTree.branch head target none).Lexed
  | .nextEdge number edges => number.Is .variable ∧ (NodeTree.phi edges).Lexed
  | .edgeEnd number edges => number.Is .variable ∧ (NodeTree.phi edges).Lexed ∧ edges ≠ []
  | .arrow number edges edge | .edgeValue number edges edge =>
    number.Is .variable ∧ (NodeTree.phi edges).Lexed ∧ edge.Is .label
  | .nodeEnd number node | .typeName number node => number.Is .variable ∧ node.Lexed
  | .typeEnd number node type => number.Is .variable ∧ node.Lexed ∧ type.IsName
  | .locationNumber number node type =>
    number.Is .variable ∧ node.Lexed ∧ ∀ name ∈ type, name.IsName

def Move.Lexed : Move → Prop
  | .to spot => spot.Lexed
  | .close item => item.Lexed

def State.Lexed : State → Prop
  | .start | .title => True
  | .openSlots name | .firstSlot name => name.IsName
  | .nextSlot name slots | .openBody name slots => name.IsName ∧ ∀ slot ∈ slots, slot.IsName
  | .slotEnd name slots => name.IsName ∧ (∀ slot ∈ slots, slot.IsName) ∧ slots ≠ []
  | .body tree spot => tree.Lexed ∧ spot.Lexed
  | .done tree => tree.Lexed

theorem lexed_of_complete? {spot : Spot} (h : spot.Lexed) {item : Item}
    (hitem : spot.complete? = some item) : item.Lexed := by
  have hname : ∀ name ∈ (none : Option Token), name.IsName := by simp
  have hdigits : ∀ digits ∈ (none : Option Token), digits.Is .digits := by simp
  cases spot with
  | lineEnd file line =>
    cases hitem
    exact ⟨h.1, h.2, hname⟩
  | targetEnd | nodeEnd =>
    cases hitem
    exact ⟨h.1, h.2, hname, hdigits⟩
  | typeEnd number node type =>
    cases hitem
    exact ⟨h.1, h.2.1, by simpa using h.2.2, hdigits⟩
  | _ => cases hitem

theorem lexed_of_settle? {tree : Tree} (h : tree.Lexed) {spot : Spot} (hspot : spot.Lexed)
    {settled : Tree} (hsettled : State.settle? tree spot = some settled) : settled.Lexed := by
  rw [State.settle?.eq_def] at hsettled
  split at hsettled
  · injection hsettled with hsame
    exact hsame ▸ h
  · obtain ⟨item, hitem, rfl⟩ := Option.map_eq_some_iff.1 hsettled
    exact h.push (lexed_of_complete? hspot hitem)

section Steps

variable {t : Token} {move : Move}

theorem of_expect {kind : Terminal} {next : Move} (h : Spot.expect kind t next = some move) :
    t.kind = kind ∧ next = move := by
  rw [Spot.expect] at h
  split at h
  case isTrue hkind => exact ⟨hkind, Option.some.inj h⟩
  case isFalse => cases h

theorem of_expectOperand {next : Move} (h : Spot.expectOperand t next = some move) :
    t.kind.isOperand = true ∧ next = move := by
  rw [Spot.expectOperand] at h
  split at h
  case isTrue hkind => exact ⟨hkind, Option.some.inj h⟩
  case isFalse => cases h

theorem of_expectName {next : Move} (h : Spot.expectName t next = some move) :
    t.kind.isName = true ∧ next = move := by
  rw [Spot.expectName] at h
  split at h
  case isTrue hkind => exact ⟨hkind, Option.some.inj h⟩
  case isFalse => cases h

theorem lexed_of_afterNode? {number : Token} {node : NodeTree} (hnumber : number.Is .variable)
    (hnode : node.Lexed) (h : Spot.afterNode? number node t = some move) : move.Lexed := by
  have hname : ∀ name ∈ (none : Option Token), name.IsName := by simp
  rw [Spot.afterNode?] at h
  split at h
  · exact Option.some.inj h ▸ ⟨hnumber, hnode⟩
  · exact Option.some.inj h ▸ ⟨hnumber, hnode, hname⟩
  · cases h

theorem lexed_of_beginNode? {number : Token} (hnumber : number.Is .variable) (ht : t.Lexed)
    (h : Spot.beginNode? number t = some move) : move.Lexed := by
  have hkind : t.kind ≠ .variable := by
    intro hkind
    rw [Spot.beginNode?, hkind] at h
    cases h
  rw [Spot.beginNode?] at h
  split at h
  case h_2 hbr => exact Option.some.inj h ▸ ⟨hnumber, hbr, ht⟩
  case h_5 =>
    split at h
    case isTrue hplain =>
      have hoperand : t.kind.isOperand = true := by
        simp only [Bool.or_eq_true] at hplain
        rcases hplain with (h | h) | h <;> simp [Terminal.isOperand, h]
      exact Option.some.inj h ▸ ⟨hnumber, ⟨hoperand, ht⟩, hkind⟩
    case isFalse => cases h
  all_goals
    exact Option.some.inj h ▸ hnumber

/-- A token leads on to lexed parts. -/
theorem lexed_of_move? {spot : Spot} (hspot : spot.Lexed) (ht : t.Lexed)
    (h : spot.move? t = some move) : move.Lexed := by
  have hnone : ∀ token ∈ (none : Option Token), token.IsOperand := by simp
  cases spot with
  | item => cases h
  | lineFile =>
    obtain ⟨hkind, rfl⟩ := of_expect h
    exact ⟨hkind, ht⟩
  | lineNumber file =>
    obtain ⟨hkind, rfl⟩ := of_expect h
    exact ⟨hspot, hkind, ht⟩
  | lineColon | lineEnd | equals | openArgs | openEdges | arrow =>
    obtain ⟨-, rfl⟩ := of_expect h
    exact hspot
  | lineFunction file line =>
    obtain ⟨hkind, rfl⟩ := of_expectName h
    exact ⟨hspot.1, hspot.2, by simpa using Token.IsName.mk hkind ht⟩
  | operation number => exact lexed_of_beginNode? hspot ht h
  | callCallee number =>
    obtain ⟨hkind, rfl⟩ := of_expectOperand h
    exact ⟨hspot, ⟨hkind, ht⟩, List.forall_mem_nil _⟩
  | firstArg number callee =>
    rw [Spot.move?] at h
    split at h
    · exact Option.some.inj h ▸ hspot
    · obtain ⟨hkind, rfl⟩ := of_expectOperand h
      exact ⟨hspot.1, ⟨hspot.2.1, forall_mem_concat hspot.2.2 ⟨hkind, ht⟩⟩, List.cons_ne_nil t []⟩
  | nextArg number callee args =>
    obtain ⟨hkind, rfl⟩ := of_expectOperand h
    exact ⟨hspot.1, ⟨hspot.2.1, forall_mem_concat hspot.2.2 ⟨hkind, ht⟩⟩, List.concat_ne_nil t args⟩
  | argEnd number callee args =>
    rw [Spot.move?] at h
    split at h
    · exact Option.some.inj h ▸ ⟨hspot.1, hspot.2.1⟩
    · exact Option.some.inj h ▸ ⟨hspot.1, hspot.2.1⟩
    · cases h
  | branchTarget number head =>
    obtain ⟨hkind, rfl⟩ := of_expect h
    exact ⟨hspot.1, hspot.2, ⟨hkind, ht⟩, hnone⟩
  | targetEnd number head target =>
    rw [Spot.move?] at h
    split at h
    · exact Option.some.inj h ▸ hspot
    · exact lexed_of_afterNode? hspot.1 hspot.2 h
  | branchCond number head target =>
    obtain ⟨hkind, rfl⟩ := of_expectOperand h
    exact ⟨hspot.1, hspot.2.1, hspot.2.2.1, by simpa using Token.IsOperand.mk hkind ht⟩
  | result number =>
    obtain ⟨hkind, rfl⟩ := of_expectOperand h
    exact ⟨hspot, hkind, ht⟩
  | firstEdge number =>
    rw [Spot.move?] at h
    split at h
    · exact Option.some.inj h ▸ ⟨hspot, List.forall_mem_nil _⟩
    · rename_i hkind
      exact Option.some.inj h ▸ ⟨hspot, List.forall_mem_nil _, hkind, ht⟩
    · cases h
  | nextEdge number edges =>
    obtain ⟨hkind, rfl⟩ := of_expect h
    exact ⟨hspot.1, hspot.2, hkind, ht⟩
  | edgeValue number edges edge =>
    obtain ⟨hkind, rfl⟩ := of_expectOperand h
    exact ⟨hspot.1, forall_mem_concat hspot.2.1 ⟨hspot.2.2, hkind, ht⟩,
      List.concat_ne_nil (edge, t) edges⟩
  | edgeEnd number edges =>
    rw [Spot.move?] at h
    split at h
    · exact Option.some.inj h ▸ ⟨hspot.1, hspot.2.1⟩
    · exact Option.some.inj h ▸ ⟨hspot.1, hspot.2.1⟩
    · cases h
  | nodeEnd number node => exact lexed_of_afterNode? hspot.1 hspot.2 h
  | typeName number node =>
    obtain ⟨hkind, rfl⟩ := of_expectName h
    exact ⟨hspot.1, hspot.2, hkind, ht⟩
  | typeEnd number node type =>
    obtain ⟨-, rfl⟩ := of_expect h
    exact ⟨hspot.1, hspot.2.1, by simpa using hspot.2.2⟩
  | locationNumber number node type =>
    obtain ⟨hkind, rfl⟩ := of_expect h
    exact ⟨hspot.1, hspot.2.1, hspot.2.2, by simpa using Token.Is.mk hkind ht⟩

end Steps

theorem lexed_of_betweenItems? {tree : Tree} (h : tree.Lexed) {t : Token} (ht : t.Lexed)
    {next : State} (hnext : State.betweenItems? tree t = some next) : next.Lexed := by
  rw [State.betweenItems?] at hnext
  split at hnext
  · exact Option.some.inj hnext ▸ ⟨h, trivial⟩
  · rename_i hkind
    exact Option.some.inj hnext ▸ ⟨h, hkind, ht⟩
  · exact Option.some.inj hnext ▸ h
  · cases hnext

theorem lexed_of_advance? {state next : State} (h : state.Lexed) {t : Token} (ht : t.Lexed)
    (hstep : state.advance? t = some next) : next.Lexed := by
  cases state with
  | start =>
    rw [State.advance?] at hstep
    split at hstep
    · exact Option.some.inj hstep ▸ trivial
    · cases hstep
  | title =>
    rw [State.advance?] at hstep
    split at hstep
    case isTrue hkind => exact Option.some.inj hstep ▸ ⟨hkind, ht⟩
    case isFalse => cases hstep
  | openSlots =>
    rw [State.advance?] at hstep
    split at hstep
    · exact Option.some.inj hstep ▸ h
    · cases hstep
  | firstSlot =>
    rw [State.advance?] at hstep
    split at hstep
    case isTrue => exact Option.some.inj hstep ▸ ⟨h, List.forall_mem_nil _⟩
    case isFalse =>
      split at hstep
      case isTrue hkind =>
        exact Option.some.inj hstep ▸
          ⟨h, List.forall_mem_singleton.2 ⟨hkind, ht⟩, List.cons_ne_nil t []⟩
      case isFalse => cases hstep
  | nextSlot name slots =>
    rw [State.advance?] at hstep
    split at hstep
    case isTrue hkind =>
      exact Option.some.inj hstep ▸
        ⟨h.1, forall_mem_concat h.2 ⟨hkind, ht⟩, List.concat_ne_nil t slots⟩
    case isFalse => cases hstep
  | slotEnd =>
    rw [State.advance?] at hstep
    split at hstep
    · exact Option.some.inj hstep ▸ ⟨h.1, h.2.1⟩
    · exact Option.some.inj hstep ▸ ⟨h.1, h.2.1⟩
    · cases hstep
  | openBody =>
    rw [State.advance?] at hstep
    split at hstep
    · exact Option.some.inj hstep ▸ ⟨⟨h.1, h.2, List.forall_mem_nil _⟩, trivial⟩
    · cases hstep
  | body tree spot =>
    obtain ⟨htree, hspot⟩ := h
    rw [State.advance?] at hstep
    split at hstep
    case h_1 spot' hmove =>
      exact Option.some.inj hstep ▸ ⟨htree, lexed_of_move? hspot ht hmove⟩
    case h_2 item hmove =>
      exact Option.some.inj hstep ▸ ⟨htree.push (lexed_of_move? hspot ht hmove), trivial⟩
    case h_3 =>
      obtain ⟨settled, hsettled, hnext⟩ := Option.bind_eq_some_iff.1 hstep
      exact lexed_of_betweenItems? (lexed_of_settle? htree hspot hsettled) ht hnext
  | done tree => cases hstep

/-! ## Scans -/

/-- A scan that ends with a tree is over, or it takes a token and ends with that tree behind
it. -/
theorem scan_cases {state : State} {last here : Nat} {s : List Char} {tree : Tree}
    (hscan : scan state last here s = .ok tree) :
    (state = .done tree ∧ (splitBlanks false s).2 = []) ∨
      ∃ kind chars next, chars ≠ [] ∧
        lex? state.welcomes (splitBlanks false s).2 = some (kind, chars) ∧
        state.advance? ⟨kind, chars, here + (splitBlanks false s).1.length⟩ = some next ∧
        scan next (here + (splitBlanks false s).1.length)
          (here + (splitBlanks false s).1.length + chars.length)
          ((splitBlanks false s).2.drop chars.length) = .ok tree ∧
        ((splitBlanks false s).2.drop chars.length).length < s.length := by
  have hle := length_splitBlanks false s
  rw [scan_eq] at hscan
  cases hrest : (splitBlanks false s).2 with
  | nil =>
    rw [hrest, scanVisible] at hscan
    cases state with
    | done found =>
      injection hscan with hscan
      exact Or.inl ⟨hscan ▸ rfl, rfl⟩
    | _ => cases hscan
  | cons c rest =>
    rw [hrest, scanVisible] at hscan
    rw [hrest, List.length_cons] at hle
    split at hscan
    case h_1 kind first chars hlex =>
      split at hscan
      case h_1 next hadvance =>
        refine Or.inr ⟨kind, first :: chars, next, List.cons_ne_nil first chars, hlex, hadvance,
          hscan, ?_⟩
        rw [List.length_cons, List.drop_succ_cons, List.length_drop]
        omega
      case h_2 => cases hscan
    case h_2 => cases hscan

/-- What every token keeps of a state, of the place where the rest of the text begins and
of that rest holds when the scan ends, and then the rest is blank. -/
theorem exists_of_scan {P : State → Nat → List Char → Prop}
    (hstep : ∀ {state next : State} {here : Nat} {s : List Char} {kind : Terminal}
      {chars : List Char}, P state here s → chars ≠ [] →
      lex? state.welcomes (splitBlanks false s).2 = some (kind, chars) →
      state.advance? ⟨kind, chars, here + (splitBlanks false s).1.length⟩ = some next →
      P next (here + (splitBlanks false s).1.length + chars.length)
        ((splitBlanks false s).2.drop chars.length))
    {state : State} {last here : Nat} {s : List Char} {tree : Tree} (h : P state here s)
    (hscan : scan state last here s = .ok tree) :
    ∃ stop rest, P (.done tree) stop rest ∧ (splitBlanks false rest).2 = [] := by
  induction hlength : s.length using Nat.strong_induction_on generalizing state last here s with
  | h n ih =>
    subst hlength
    rcases scan_cases hscan with ⟨rfl, hblank⟩ | ⟨kind, chars, next, hne, hlex, hnext, hrest, hlt⟩
    · exact ⟨here, s, h, hblank⟩
    · exact ih _ hlt (hstep h hne hlex hnext) hrest rfl

/-- A scan from a lexed state ends with a lexed tree. -/
theorem lexed_of_scan {state : State} (h : state.Lexed) {last here : Nat} {s : List Char}
    {tree : Tree} (hscan : scan state last here s = .ok tree) : tree.Lexed := by
  obtain ⟨-, -, hdone, -⟩ := exists_of_scan (P := fun state _ _ => state.Lexed)
    (fun h _ hlex hadvance => lexed_of_advance? h (lexed_of_lex? hlex _) hadvance) h hscan
  exact hdone

end Listing
end SsaEdit
