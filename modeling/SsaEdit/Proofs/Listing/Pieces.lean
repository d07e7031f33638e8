/-
The pieces of a listing.

`Tree.pieces` is the grammar read from left to right: the words and marks that a listing
has at certain places, and between them the tokens that the tree keeps.
-/
import SsaEdit.Proofs.Listing.Lexed

namespace SsaEdit
namespace Listing

/-! ## Pieces -/

/-- A piece of a listing: a word or a mark of the grammar, or a token of the tree. -/
inductive Piece
  | word (k : Keyword)
  | mark (m : Mark)
  | token (t : Token)

namespace Piece

def chars : Piece → List Char
  | .word k => k.spelling
  | .mark m => m.spelling
  | .token t => t.chars

def token? : Piece → Option Token
  | .token t => some t
  | .word _ | .mark _ => none

/-- A token was taken for a piece. -/
def Is : Piece → Token → Prop
  | .word k, t => t.kind = .keyword k
  | .mark m, t => t.kind = .mark m
  | .token kept, t => kept = t

theorem Is.chars_eq {p : Piece} {t : Token} (h : p.Is t) (ht : t.Lexed) : p.chars = t.chars := by
  rw [Token.Lexed] at ht
  cases p with
  | word k =>
    rw [show t.kind = .keyword k from h] at ht
    exact ht.symm
  | mark m =>
    rw [show t.kind = .mark m from h] at ht
    exact ht.symm
  | token kept => exact congrArg Token.chars h

end Piece

/-- A piece and the token after it, if there is one. -/
def behind (p : Piece) : Option Token → List Piece
  | some t => [p, .token t]
  | none => []

theorem token_mem_behind {t : Token} {next : Option Token} (h : t ∈ next) (p : Piece) :
    .token t ∈ behind p next := by
  cases h
  simp [behind]

section Commas

variable {α : Type} {f : α → List Piece}

/-- The pieces of each entry with a comma behind them. -/
def commaEnded (f : α → List Piece) (xs : List α) : List Piece :=
  xs.flatMap fun x => f x ++ [.mark .comma]

/-- The pieces of the entries with commas between them. -/
def commaSeparated (f : α → List Piece) : List α → List Piece
  | [] => []
  | x :: rest => f x ++ rest.flatMap fun y => .mark .comma :: f y

theorem commaSeparated_concat (xs : List α) (y : α) :
    commaSeparated f (xs ++ [y]) = commaEnded f xs ++ f y := by
  have hshift : ∀ xs : List α,
      xs.flatMap (fun y => .mark .comma :: f y) ++ [.mark .comma] =
        .mark .comma :: commaEnded f xs := by
    intro xs
    induction xs with
    | nil => rfl
    | cons x xs ih => simp [commaEnded, ih]
  cases xs with
  | nil => simp [commaSeparated, commaEnded]
  | cons x xs =>
    have hrest := congrArg (f x ++ · ++ f y) (hshift xs)
    simpa [commaSeparated, commaEnded] using hrest

theorem commaEnded_eq {xs : List α} (h : xs ≠ []) :
    commaEnded f xs = commaSeparated f xs ++ [.mark .comma] := by
  obtain ⟨before, last, rfl⟩ := (List.eq_nil_or_concat' xs).resolve_left h
  simp [commaSeparated_concat, commaEnded]

theorem mem_commaSeparated {xs : List α} {x : α} (hx : x ∈ xs) {p : Piece} (hp : p ∈ f x) :
    p ∈ commaSeparated f xs := by
  cases xs with
  | nil => cases hx
  | cons y rest =>
    rw [commaSeparated, List.mem_append]
    rcases List.mem_cons.1 hx with rfl | hx
    · exact Or.inl hp
    · exact Or.inr (List.mem_flatMap.2 ⟨x, hx, List.mem_cons_of_mem _ hp⟩)

end Commas

/-! ## The pieces of a tree -/

/-- A name or an operand by itself. -/
def tokenPieces (t : Token) : List Piece := [.token t]

def edgePieces (edge : Token × Token) : List Piece :=
  [.token edge.1, .mark .arrow, .token edge.2]

def NodeTree.pieces : NodeTree → List Piece
  | .call callee args =>
    [.word .call, .token callee, .mark .openRound] ++ commaSeparated tokenPieces args ++
      [.mark .closeRound]
  | .branch head target cond => [.token head, .token target] ++ behind (.word .unless) cond
  | .ret value => [.word .ret, .token value]
  | .phi edges =>
    [.word .phi, .mark .openSquare] ++ commaSeparated edgePieces edges ++ [.mark .closeSquare]
  | .plain value => [.token value]

def LineTree.pieces (t : LineTree) : List Piece :=
  [.word .loc, .token t.file, .mark .colon, .token t.line] ++ behind (.word .within) t.function

def StatementTree.pieces (t : StatementTree) : List Piece :=
  [.token t.number, .mark .equals] ++ t.node.pieces ++ behind (.mark .doubleColon) t.type ++
    behind (.mark .at) t.location

def Item.pieces : Item → List Piece
  | .line tree => tree.pieces
  | .statement tree => tree.pieces

/-- The pieces up to the last item. -/
def Tree.unclosed (t : Tree) : List Piece :=
  [.word .ir, .token t.name, .mark .openRound] ++ commaSeparated tokenPieces t.slots ++
    [.mark .closeRound, .mark .openCurly] ++ t.items.flatMap Item.pieces

def Tree.pieces (t : Tree) : List Piece := t.unclosed ++ [.mark .closeCurly]

/-- The tokens of a tree in the order of the text. -/
def Tree.tokens (t : Tree) : List Token := t.pieces.filterMap Piece.token?

theorem Tree.mem_tokens {t : Tree} {token : Token} : token ∈ t.tokens ↔ .token token ∈ t.pieces := by
  rw [Tree.tokens, List.mem_filterMap]
  constructor
  · rintro ⟨p, hp, hsame⟩
    cases p with
    | token kept => exact Option.some.inj hsame ▸ hp
    | word | mark => cases hsame
  · exact fun h => ⟨.token token, h, rfl⟩

theorem Tree.unclosed_push (t : Tree) (item : Item) : (t.push item).unclosed = t.unclosed ++ item.pieces := by
  simp [Tree.unclosed, Tree.push]

end Listing
end SsaEdit
