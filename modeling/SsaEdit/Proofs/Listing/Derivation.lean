/-
What a text is made of.

A state of the scan stands for the pieces that were taken so far, and taking a token adds
one.  So a text that is scanned as a tree consists of the pieces of the tree, with nothing
but blanks before, between and after them, and every token starts where it says.
-/
import SsaEdit.Proofs.Listing.Pieces

namespace SsaEdit
namespace Listing

/-! ## The front of a text -/

theorem splitBlanks_rejoins (inComment : Bool) (s : List Char) :
    (splitBlanks inComment s).1 ++ (splitBlanks inComment s).2 = s := by
  induction s generalizing inComment with
  | nil => simp [splitBlanks]
  | cons c rest ih =>
    have hcomment := ih true
    have hplain := ih false
    simp only [splitBlanks]
    split
    · exact congrArg (c :: ·) hcomment
    · split
      · exact congrArg (c :: ·) hplain
      · rfl

theorem drop_splitBlanks (s : List Char) :
    s.drop (splitBlanks false s).1.length = (splitBlanks false s).2 := by
  have hdrop : ((splitBlanks false s).1 ++ (splitBlanks false s).2).drop
      (splitBlanks false s).1.length = (splitBlanks false s).2 := List.drop_left
  rwa [splitBlanks_rejoins] at hdrop

theorem takeDigits?_front {s digits : List Char} (h : takeDigits? s = some digits) :
    digits <+: s := by
  rw [takeDigits?] at h
  split at h
  · cases h
  · exact Option.some.inj h ▸ List.takeWhile_prefix _

theorem takeSigil?_front {sigil : Char} {s chars : List Char}
    (h : takeSigil? sigil s = some chars) : chars <+: s := by
  cases s with
  | nil => cases h
  | cons c rest =>
    rw [takeSigil?] at h
    split at h
    · obtain ⟨digits, hdigits, rfl⟩ := Option.map_eq_some_iff.1 h
      exact (List.prefix_cons_inj c).2 (takeDigits?_front hdigits)
    · cases h

theorem takeSpelling?_front {spelling s chars : List Char}
    (h : takeSpelling? spelling s = some chars) : chars <+: s := by
  rw [takeSpelling?] at h
  split at h
  case isTrue hfront => exact Option.some.inj h ▸ List.isPrefixOf_iff_prefix.1 hfront
  case isFalse => cases h

/-- What is in front of a text up to the quote that closes a literal, character by character. -/
inductive LiteralRest : List Char → List Char → Prop
  | close (rest : List Char) : LiteralRest ('"' :: rest) ['"']
  | shield {c : Char} {rest taken : List Char} (hline : c ≠ '\n') (h : LiteralRest rest taken) :
    LiteralRest ('\\' :: c :: rest) ('\\' :: c :: taken)
  | plain {c : Char} {rest taken : List Char} (hquote : c ≠ '"') (hescape : c ≠ '\\')
    (hline : c ≠ '\n') (h : LiteralRest rest taken) : LiteralRest (c :: rest) (c :: taken)

theorem LiteralRest.takeQuoted?_eq {s taken : List Char} (h : LiteralRest s taken) :
    takeQuoted? s = some taken := by
  induction h with
  | close rest => rfl
  | shield hline _ ih =>
    rw [takeQuoted?, if_neg hline, ih]
    rfl
  | plain hquote hescape hline _ ih =>
    rw [takeQuoted?.eq_3 _ _ fun _ _ hc => absurd hc hescape, if_neg hquote, if_neg hline, ih]
    rfl

theorem literalRest_of_takeQuoted? {s taken : List Char} (h : takeQuoted? s = some taken) :
    LiteralRest s taken := by
  induction s using takeQuoted?.induct generalizing taken with
  | case1 => cases h
  | case2 rest =>
    rw [takeQuoted?] at h
    cases h
  | case3 c rest hline ih =>
    rw [takeQuoted?, if_neg hline] at h
    obtain ⟨shorter, hshorter, rfl⟩ := Option.map_eq_some_iff.1 h
    exact .shield hline (ih hshorter)
  | case4 rest hshield =>
    rw [takeQuoted?.eq_3 _ _ hshield] at h
    cases h
    exact .close rest
  | case5 rest hshield hquote =>
    rw [takeQuoted?.eq_3 _ _ hshield] at h
    cases h
  | case6 c rest hshield hquote hline ih =>
    rw [takeQuoted?.eq_3 _ _ hshield, if_neg hquote, if_neg hline] at h
    obtain ⟨shorter, hshorter, rfl⟩ := Option.map_eq_some_iff.1 h
    -- a backslash at the very end shields nothing, but then no literal is closed
    have hescape : c ≠ '\\' := by
      intro hc
      cases rest with
      | nil => cases hshorter
      | cons d others => exact hshield d others hc rfl
    exact .plain hquote hescape hline (ih hshorter)

theorem LiteralRest.front {s taken : List Char} (h : LiteralRest s taken) : taken <+: s := by
  induction h with
  | close rest => exact List.prefix_append ['"'] rest
  | shield _ _ ih => exact (List.prefix_cons_inj _).2 ((List.prefix_cons_inj _).2 ih)
  | plain _ _ _ _ ih => exact (List.prefix_cons_inj _).2 ih

theorem take?_front {kind : Terminal} {s chars : List Char} (h : kind.take? s = some chars) :
    chars <+: s := by
  cases kind with
  | keyword | mark | minusInf => exact takeSpelling?_front h
  | «variable» | label | argument => exact takeSigil?_front h
  | digits => exact takeDigits?_front h
  | number =>
    obtain ⟨⟨n, rest⟩, hread, rfl⟩ := Option.map_eq_some_iff.1 h
    exact ⟨rest, Numeral.spelling_append_of_read? hread⟩
  | name =>
    cases s with
    | nil => cases h
    | cons c rest =>
      rw [Terminal.take?] at h
      split at h
      · exact Option.some.inj h ▸ (List.prefix_cons_inj c).2 (List.takeWhile_prefix _)
      · cases h
  | quoted =>
    cases s with
    | nil => cases h
    | cons c rest =>
      rw [Terminal.take?] at h
      split at h
      · obtain ⟨inside, hinside, rfl⟩ := Option.map_eq_some_iff.1 h
        exact (List.prefix_cons_inj c).2 (literalRest_of_takeQuoted? hinside).front
      · cases h

theorem lex?_front {welcome : Terminal → Bool} {s : List Char} {kind : Terminal}
    {chars : List Char} (h : lex? welcome s = some (kind, chars)) : chars <+: s := by
  rw [lex?] at h
  split at h
  case h_1 word hword =>
    cases h
    split at hword
    · exact take?_front hword
    · cases hword
  case h_2 =>
    obtain ⟨t, -, ht⟩ := List.exists_of_findSome?_eq_some h
    split at ht
    · obtain ⟨taken, htaken, hsame⟩ := Option.map_eq_some_iff.1 ht
      cases hsame
      exact take?_front htaken
    · cases ht

/-! ## The pieces of a state -/

/-- What a statement begins with. -/
def statementHead (number : Token) : List Piece := [.token number, .mark .equals]

/-- The pieces of an item so far. -/
def Spot.pieces : Spot → List Piece
  | .item => []
  | .lineFile => [.word .loc]
  | .lineColon file => [.word .loc, .token file]
  | .lineNumber file => [.word .loc, .token file, .mark .colon]
  | .lineEnd file line => (LineTree.mk file line none).pieces
  | .lineFunction file line => (LineTree.mk file line none).pieces ++ [.word .within]
  | .equals number => [.token number]
  | .operation number => statementHead number
  | .callCallee number => statementHead number ++ [.word .call]
  | .openArgs number callee => statementHead number ++ [.word .call, .token callee]
  | .firstArg number callee =>
    statementHead number ++ [.word .call, .token callee, .mark .openRound]
  | .nextArg number callee args =>
    statementHead number ++ [.word .call, .token callee, .mark .openRound] ++
      commaEnded tokenPieces args
  | .argEnd number callee args =>
    statementHead number ++ [.word .call, .token callee, .mark .openRound] ++
      commaSeparated tokenPieces args
  | .branchTarget number head => statementHead number ++ [.token head]
  | .targetEnd number head target => statementHead number ++ [.token head, .token target]
  | .branchCond number head target =>
    statementHead number ++ [.token head, .token target, .word .unless]
  | .result number => statementHead number ++ [.word .ret]
  | .openEdges number => statementHead number ++ [.word .phi]
  | .firstEdge number => statementHead number ++ [.word .phi, .mark .openSquare]
  | .nextEdge number edges =>
    statementHead number ++ [.word .phi, .mark .openSquare] ++ commaEnded edgePieces edges
  | .arrow number edges edge =>
    statementHead number ++ [.word .phi, .mark .openSquare] ++ commaEnded edgePieces edges ++
      [.token edge]
  | .edgeValue number edges edge =>
    statementHead number ++ [.word .phi, .mark .openSquare] ++ commaEnded edgePieces edges ++
      [.token edge, .mark .arrow]
  | .edgeEnd number edges =>
    statementHead number ++ [.word .phi, .mark .openSquare] ++ commaSeparated edgePieces edges
  | .nodeEnd number node => statementHead number ++ node.pieces
  | .typeName number node => statementHead number ++ node.pieces ++ [.mark .doubleColon]
  | .typeEnd number node type =>
    statementHead number ++ node.pieces ++ [.mark .doubleColon, .token type]
  | .locationNumber number node type =>
    statementHead number ++ node.pieces ++ behind (.mark .doubleColon) type ++ [.mark .at]

def Move.pieces : Move → List Piece
  | .to spot => spot.pieces
  | .close item => item.pieces

/-- The pieces that were taken so far. -/
def State.pieces : State → List Piece
  | .start => []
  | .title => [.word .ir]
  | .openSlots name => [.word .ir, .token name]
  | .firstSlot name => [.word .ir, .token name, .mark .openRound]
  | .nextSlot name slots =>
    [.word .ir, .token name, .mark .openRound] ++ commaEnded tokenPieces slots
  | .slotEnd name slots =>
    [.word .ir, .token name, .mark .openRound] ++ commaSeparated tokenPieces slots
  | .openBody name slots =>
    [.word .ir, .token name, .mark .openRound] ++ commaSeparated tokenPieces slots ++
      [.mark .closeRound]
  | .body tree spot => tree.unclosed ++ spot.pieces
  | .done tree => tree.pieces

theorem pieces_of_complete? {spot : Spot} {item : Item} (h : spot.complete? = some item) :
    item.pieces = spot.pieces := by
  cases spot with
  | lineEnd | targetEnd | nodeEnd | typeEnd =>
    cases h
    simp [Item.pieces, Spot.pieces, StatementTree.pieces, NodeTree.pieces, statementHead, behind]
  | _ => cases h

theorem unclosed_of_settle? {tree : Tree} {spot : Spot} {settled : Tree}
    (h : State.settle? tree spot = some settled) : settled.unclosed = tree.unclosed ++ spot.pieces := by
  rw [State.settle?.eq_def] at h
  split at h
  · cases h
    exact (List.append_nil _).symm
  · obtain ⟨item, hitem, rfl⟩ := Option.map_eq_some_iff.1 h
    rw [Tree.unclosed_push, pieces_of_complete? hitem]

/-! ## Taking a token -/

/-- A token adds the piece that it was taken for. -/
def Adds (before : List Piece) (t : Token) (after : List Piece) : Prop :=
  ∃ p : Piece, p.Is t ∧ after = before ++ [p]

theorem Adds.after {before after : List Piece} {t : Token} (h : Adds before t after)
    (first : List Piece) : Adds (first ++ before) t (first ++ after) := by
  obtain ⟨p, hp, rfl⟩ := h
  exact ⟨p, hp, (List.append_assoc first before [p]).symm⟩

section Steps

variable {t : Token} {move : Move}

theorem adds_of_afterNode? {number : Token} {node : NodeTree}
    (h : Spot.afterNode? number node t = some move) :
    Adds (statementHead number ++ node.pieces) t move.pieces := by
  rw [Spot.afterNode?] at h
  split at h
  case h_1 hkind =>
    cases h
    exact ⟨.mark .doubleColon, hkind, rfl⟩
  case h_2 hkind =>
    cases h
    exact ⟨.mark .at, hkind, by simp [Move.pieces, Spot.pieces, behind]⟩
  case h_3 => cases h

theorem adds_of_beginNode? {number : Token} (h : Spot.beginNode? number t = some move) :
    Adds (statementHead number) t move.pieces := by
  rw [Spot.beginNode?] at h
  split at h
  case h_1 hkind =>
    cases h
    exact ⟨.word .call, hkind, rfl⟩
  case h_2 =>
    cases h
    exact ⟨.token t, rfl, rfl⟩
  case h_3 hkind =>
    cases h
    exact ⟨.word .ret, hkind, rfl⟩
  case h_4 hkind =>
    cases h
    exact ⟨.word .phi, hkind, rfl⟩
  case h_5 =>
    split at h
    · cases h
      exact ⟨.token t, rfl, rfl⟩
    · cases h

theorem adds_of_move? {spot : Spot} (hspot : spot.Lexed) (h : spot.move? t = some move) :
    Adds spot.pieces t move.pieces := by
  cases spot with
  | item => cases h
  | lineEnd =>
    obtain ⟨hkind, rfl⟩ := of_expect h
    exact ⟨.word .within, hkind, rfl⟩
  | lineColon | equals | openArgs | openEdges | arrow | typeEnd =>
    obtain ⟨hkind, rfl⟩ := of_expect h
    refine ⟨.mark _, hkind, ?_⟩
    simp [Move.pieces, Spot.pieces, statementHead, behind]
  | lineFile | lineNumber | branchTarget | nextEdge | locationNumber =>
    obtain ⟨-, rfl⟩ := of_expect h
    refine ⟨.token t, rfl, ?_⟩
    simp [Move.pieces, Spot.pieces, Item.pieces, LineTree.pieces, StatementTree.pieces,
      statementHead, behind]
  | lineFunction | typeName =>
    obtain ⟨-, rfl⟩ := of_expectName h
    refine ⟨.token t, rfl, ?_⟩
    simp [Move.pieces, Spot.pieces, Item.pieces, LineTree.pieces, behind]
  | operation => exact adds_of_beginNode? h
  | callCallee | branchCond | result | nextArg | edgeValue =>
    obtain ⟨-, rfl⟩ := of_expectOperand h
    refine ⟨.token t, rfl, ?_⟩
    simp [Move.pieces, Spot.pieces, NodeTree.pieces, behind, commaSeparated_concat, tokenPieces,
      edgePieces]
  | firstArg =>
    rw [Spot.move?] at h
    split at h
    case isTrue hkind =>
      cases h
      exact ⟨.mark .closeRound, hkind, rfl⟩
    case isFalse =>
      obtain ⟨-, rfl⟩ := of_expectOperand h
      exact ⟨.token t, rfl, rfl⟩
  | argEnd number callee args =>
    rw [Spot.move?] at h
    split at h
    case h_1 hkind =>
      cases h
      exact ⟨.mark .comma, hkind, by
        simp [Move.pieces, Spot.pieces, commaEnded_eq hspot.2.2]⟩
    case h_2 hkind =>
      cases h
      exact ⟨.mark .closeRound, hkind, by simp [Move.pieces, Spot.pieces, NodeTree.pieces]⟩
    case h_3 => cases h
  | targetEnd =>
    rw [Spot.move?] at h
    split at h
    case isTrue hkind =>
      cases h
      exact ⟨.word .unless, hkind, by simp [Move.pieces, Spot.pieces]⟩
    case isFalse => exact adds_of_afterNode? h
  | firstEdge =>
    rw [Spot.move?] at h
    split at h
    case h_1 hkind =>
      cases h
      exact ⟨.mark .closeSquare, hkind, rfl⟩
    case h_2 =>
      cases h
      exact ⟨.token t, rfl, rfl⟩
    case h_3 => cases h
  | edgeEnd number edges =>
    rw [Spot.move?] at h
    split at h
    case h_1 hkind =>
      cases h
      exact ⟨.mark .comma, hkind, by
        simp [Move.pieces, Spot.pieces, commaEnded_eq hspot.2.2]⟩
    case h_2 hkind =>
      cases h
      exact ⟨.mark .closeSquare, hkind, by simp [Move.pieces, Spot.pieces, NodeTree.pieces]⟩
    case h_3 => cases h
  | nodeEnd => exact adds_of_afterNode? h

end Steps

theorem adds_of_betweenItems? {tree : Tree} {t : Token} {next : State}
    (h : State.betweenItems? tree t = some next) : Adds tree.unclosed t next.pieces := by
  rw [State.betweenItems?] at h
  split at h
  case h_1 hkind =>
    cases h
    exact ⟨.word .loc, hkind, rfl⟩
  case h_2 =>
    cases h
    exact ⟨.token t, rfl, rfl⟩
  case h_3 hkind =>
    cases h
    exact ⟨.mark .closeCurly, hkind, rfl⟩
  case h_4 => cases h

/-- Every token that is taken adds one piece. -/
theorem adds_of_advance? {state next : State} (hstate : state.Lexed) {t : Token}
    (h : state.advance? t = some next) : Adds state.pieces t next.pieces := by
  cases state with
  | start =>
    rw [State.advance?] at h
    split at h
    case isTrue hkind =>
      cases h
      exact ⟨.word .ir, hkind, rfl⟩
    case isFalse => cases h
  | title =>
    rw [State.advance?] at h
    split at h
    · cases h
      exact ⟨.token t, rfl, rfl⟩
    · cases h
  | nextSlot =>
    rw [State.advance?] at h
    split at h
    · cases h
      exact ⟨.token t, rfl, by simp [State.pieces, commaSeparated_concat, tokenPieces]⟩
    · cases h
  | openSlots =>
    rw [State.advance?] at h
    split at h
    case isTrue hkind =>
      cases h
      exact ⟨.mark .openRound, hkind, rfl⟩
    case isFalse => cases h
  | firstSlot =>
    rw [State.advance?] at h
    split at h
    case isTrue hkind =>
      cases h
      exact ⟨.mark .closeRound, hkind, rfl⟩
    case isFalse =>
      split at h
      · cases h
        exact ⟨.token t, rfl, rfl⟩
      · cases h
  | slotEnd name slots =>
    rw [State.advance?] at h
    split at h
    case h_1 hkind =>
      cases h
      exact ⟨.mark .comma, hkind, by simp [State.pieces, commaEnded_eq hstate.2.2]⟩
    case h_2 hkind =>
      cases h
      exact ⟨.mark .closeRound, hkind, rfl⟩
    case h_3 => cases h
  | openBody name slots =>
    rw [State.advance?] at h
    split at h
    case isTrue hkind =>
      cases h
      exact ⟨.mark .openCurly, hkind, by simp [State.pieces, Spot.pieces, Tree.unclosed]⟩
    case isFalse => cases h
  | body tree spot =>
    rw [State.advance?] at h
    split at h
    case h_1 spot' hmove =>
      cases h
      exact (adds_of_move? hstate.2 hmove).after tree.unclosed
    case h_2 item hmove =>
      cases h
      have hitem : State.pieces (.body (tree.push item) .item) =
          tree.unclosed ++ (Move.close item).pieces := by
        rw [State.pieces, Tree.unclosed_push, Spot.pieces, List.append_nil]
        rfl
      exact hitem ▸ (adds_of_move? hstate.2 hmove).after tree.unclosed
    case h_3 =>
      obtain ⟨settled, hsettled, hnext⟩ := Option.bind_eq_some_iff.1 h
      have hsame : State.pieces (.body tree spot) = settled.unclosed :=
        (unclosed_of_settle? hsettled).symm
      exact hsame ▸ adds_of_betweenItems? hnext
  | done tree => cases h

/-! ## Pieces of a text -/

/-- The place of the first character that is not blank, at or after a place. -/
def visibleFrom (text : List Char) (here : Nat) : Nat :=
  here + (splitBlanks false (text.drop here)).1.length

theorem drop_visibleFrom (text : List Char) (here : Nat) :
    text.drop (visibleFrom text here) = (splitBlanks false (text.drop here)).2 := by
  rw [visibleFrom, ← List.drop_drop, drop_splitBlanks]

/-- A text consists of some pieces and blanks before them, up to a place, and a token among
the pieces starts where it says. -/
inductive Covers (text : List Char) : List Piece → Nat → Prop
  | nil : Covers text [] 0
  | piece {pieces : List Piece} {here : Nat} (p : Piece) (h : Covers text pieces here)
    (hchars : p.chars <+: text.drop (visibleFrom text here))
    (hstart : ∀ t, p = .token t → t.start = visibleFrom text here) :
    Covers text (pieces ++ [p]) (visibleFrom text here + p.chars.length)

/-- A tree of the grammar for a text: its tokens are of the kinds that the grammar asks for,
and the text consists of its pieces with nothing but blanks around them. -/
structure Tree.Derives (tree : Tree) (text : List Char) : Prop where
  lexed : tree.Lexed
  covers : ∃ stop, Covers text tree.pieces stop ∧ text.drop (visibleFrom text stop) = []

/-- The scan has come to a place of the text with the pieces before it. -/
structure Reached (text : List Char) (state : State) (here : Nat) (s : List Char) : Prop where
  rest : text.drop here = s
  lexed : state.Lexed
  covers : Covers text state.pieces here

theorem Reached.advance {text : List Char} {state next : State} {here : Nat} {s : List Char}
    {kind : Terminal} {chars : List Char} (h : Reached text state here s)
    (hlex : lex? state.welcomes (splitBlanks false s).2 = some (kind, chars))
    (hnext : state.advance? ⟨kind, chars, here + (splitBlanks false s).1.length⟩ = some next) :
    Reached text next (here + (splitBlanks false s).1.length + chars.length)
      ((splitBlanks false s).2.drop chars.length) := by
  obtain ⟨hrest, hlexed, hcovers⟩ := h
  subst hrest
  have hvisible := drop_visibleFrom text here
  have ht := lexed_of_lex? hlex (visibleFrom text here)
  obtain ⟨p, hp, hpieces⟩ := adds_of_advance? hlexed hnext
  have hchars : p.chars = chars := hp.chars_eq ht
  refine ⟨?_, lexed_of_advance? hlexed ht hnext, ?_⟩
  · show text.drop (visibleFrom text here + chars.length) = _
    rw [← List.drop_drop, hvisible]
  · rw [hpieces]
    have hstart : ∀ t, p = .token t → t.start = visibleFrom text here := by
      intro t hsame
      subst hsame
      exact congrArg Token.start hp
    have hmore := hcovers.piece p (hchars ▸ hvisible ▸ lex?_front hlex) hstart
    rwa [hchars] at hmore

/-- The tree of a text derives the text. -/
theorem derives_of_scan {text : List Char} {tree : Tree} (h : scan .start 0 0 text = .ok tree) :
    tree.Derives text := by
  have hstart : Reached text .start 0 text := ⟨rfl, trivial, .nil⟩
  obtain ⟨stop, rest, hdone, hblank⟩ := exists_of_scan (P := Reached text)
    (fun hreached _ hlex hnext => hreached.advance hlex hnext) hstart h
  exact ⟨hdone.lexed, stop, hdone.covers, by rw [drop_visibleFrom, hdone.rest, hblank]⟩

end Listing
end SsaEdit
