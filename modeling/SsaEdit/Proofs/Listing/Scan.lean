/-
Scanning a printed text, one piece at a time.

`Reads` says that the scan goes through a text from a state to the end and that
the tree it ends with has a property.  Its rules take a blank or a token off the
front; the token's starting point does not matter, so it is left open.  Which
kinds a state welcomes is listed once for every place in the grammar.
-/
import SsaEdit.Proofs.Listing.Tokens

namespace SsaEdit
namespace Listing

/-! ## The kinds that are welcome -/

def nameKinds : List Terminal := [.name, .quoted]

def literalKinds : List Terminal :=
  [.number, .quoted, .minusInf, .keyword .yes, .keyword .no, .keyword .absent, .keyword .inf,
    .keyword .nan]

def operandKinds : List Terminal := .variable :: .argument :: .name :: literalKinds

/-- What an operation begins with. -/
def nodeKinds : List Terminal :=
  .keyword .call :: .keyword .br :: .keyword .ret :: .keyword .phi :: .argument :: .name ::
    literalKinds

/-- What an item or the end of the body begins with. -/
def betweenKinds : List Terminal := [.keyword .loc, .variable, .mark .closeCurly]

def Spot.kinds : Spot → List Terminal
  | .item => betweenKinds
  | .lineFile => [.quoted]
  | .lineColon _ => [.mark .colon]
  | .lineNumber _ => [.digits]
  | .lineEnd .. => .keyword .within :: betweenKinds
  | .lineFunction .. => nameKinds
  | .equals _ => [.mark .equals]
  | .operation _ => nodeKinds
  | .callCallee _ => operandKinds
  | .openArgs .. => [.mark .openRound]
  | .firstArg .. => .mark .closeRound :: operandKinds
  | .nextArg .. => operandKinds
  | .argEnd .. => [.mark .comma, .mark .closeRound]
  | .branchTarget .. => [.label]
  | .targetEnd .. => .keyword .unless :: .mark .doubleColon :: .mark .at :: betweenKinds
  | .branchCond .. => operandKinds
  | .result _ => operandKinds
  | .openEdges _ => [.mark .openSquare]
  | .firstEdge _ => [.mark .closeSquare, .label]
  | .nextEdge .. => [.label]
  | .arrow .. => [.mark .arrow]
  | .edgeValue .. => operandKinds
  | .edgeEnd .. => [.mark .comma, .mark .closeSquare]
  | .nodeEnd .. => .mark .doubleColon :: .mark .at :: betweenKinds
  | .typeName .. => nameKinds
  | .typeEnd .. => .mark .at :: betweenKinds
  | .locationNumber .. => [.digits]

def State.kinds : State → List Terminal
  | .start => [.keyword .ir]
  | .title => nameKinds
  | .openSlots _ => [.mark .openRound]
  | .firstSlot _ => .mark .closeRound :: nameKinds
  | .nextSlot .. => nameKinds
  | .slotEnd .. => [.mark .comma, .mark .closeRound]
  | .openBody .. => [.mark .openCurly]
  | .body _ spot => spot.kinds
  | .done _ => []

/-- A statement about every kind of token holds if it holds of those listed. -/
theorem forall_terminal {p : Terminal → Prop} (hname : p .name) (hothers : ∀ t ∈ otherTerminals, p t)
    (t : Terminal) : p t := by
  by_cases ht : t = .name
  · rw [ht]
    exact hname
  · exact hothers t (mem_otherTerminals ht)

theorem welcomes_eq (state : State) : state.welcomes = fun t => state.kinds.contains t := by
  funext t
  revert t
  have hlist : ∀ {f g : Terminal → Bool}, f .name = g .name →
      otherTerminals.map f = otherTerminals.map g → ∀ t, f t = g t := by
    intro f g hname hothers
    exact forall_terminal hname (List.map_inj_left.1 hothers)
  cases state with
  | body tree spot => cases spot <;> exact hlist rfl rfl
  | start => exact hlist rfl rfl
  | title => exact hlist rfl rfl
  | openSlots => exact hlist rfl rfl
  | firstSlot => exact hlist rfl rfl
  | nextSlot => exact hlist rfl rfl
  | slotEnd => exact hlist rfl rfl
  | openBody => exact hlist rfl rfl
  | done => exact hlist rfl rfl

/-! ## Steps of the scan -/

/-- What the scan does once the blanks are behind it. -/
def scanVisible (state : State) (last start : Nat) : List Char → Except Nat Tree
  | [] =>
    match state.tree? with
    | some tree => .ok tree
    | none => .error last
  | c :: rest =>
    match lex? state.welcomes (c :: rest) with
    | some (kind, first :: chars) =>
      match state.advance? ⟨kind, first :: chars, start⟩ with
      | some next => scan next start (start + chars.length + 1) (rest.drop chars.length)
      | none => .error start
    | _ => .error start

theorem scan_eq (state : State) (last here : Nat) (s : List Char) :
    scan state last here s =
      scanVisible state last (here + (splitBlanks false s).1.length) (splitBlanks false s).2 := by
  rw [scan]
  split
  case h_1 h =>
    rw [h]
    rfl
  case h_2 h =>
    rw [h]
    rfl

theorem scan_blank {b : Char} (hspace : isSpace b = true) (hcomment : b ≠ ';') (state : State)
    (last here : Nat) (s : List Char) :
    scan state last here (b :: s) = scan state last (here + 1) s := by
  have hsplit : splitBlanks false (b :: s) =
      (b :: (splitBlanks false s).1, (splitBlanks false s).2) := by
    simp [splitBlanks, hspace, hcomment]
  have hstart : here + ((splitBlanks false s).1.length + 1) =
      here + 1 + (splitBlanks false s).1.length := by omega
  rw [scan_eq, scan_eq, hsplit, List.length_cons, hstart]

theorem scan_token {state next : State} {kind : Terminal} {chars rest : List Char}
    (hcuts : Cuts state.kinds kind chars rest) (last here : Nat)
    (hnext : state.advance? ⟨kind, chars, here⟩ = some next) :
    scan state last here (chars ++ rest) = scan next here (here + chars.length) rest := by
  obtain ⟨c, cs, rfl, hspace, hcomment⟩ := hcuts.visible
  have hlex := hcuts.lexes
  have hsplit : splitBlanks false (c :: (cs ++ rest)) = ([], c :: (cs ++ rest)) := by
    simp [splitBlanks, hspace, hcomment]
  have hdrop : (cs ++ rest).drop cs.length = rest := List.drop_left
  rw [← welcomes_eq, List.cons_append] at hlex
  rw [List.cons_append, scan_eq, hsplit, scanVisible]
  simp only [List.length_nil, Nat.add_zero, hlex, hnext, hdrop]
  rfl

theorem scan_nil {state : State} {tree : Tree} (htree : state.tree? = some tree) (last here : Nat) :
    scan state last here [] = .ok tree := by
  have hsplit : splitBlanks false [] = ([], []) := rfl
  rw [scan_eq, hsplit, scanVisible, htree]

/-! ## Reading on -/

/-- From a state the scan goes through a text to its end, and it ends with a tree
that has a property. -/
def Reads (state : State) (s : List Char) (p : Tree → Prop) : Prop :=
  ∀ last here, ∃ tree, scan state last here s = .ok tree ∧ p tree

namespace Reads

variable {state next : State} {rest : List Char} {p : Tree → Prop}

theorem nil {tree : Tree} (htree : state.tree? = some tree) (hp : p tree) : Reads state [] p :=
  fun last here => ⟨tree, scan_nil htree last here, hp⟩

theorem blank {b : Char} (hspace : isSpace b = true) (hcomment : b ≠ ';')
    (h : Reads state rest p) : Reads state (b :: rest) p := by
  intro last here
  rw [scan_blank hspace hcomment]
  exact h last (here + 1)

/-- Past a space. -/
theorem space (h : Reads state rest p) : Reads state (' ' :: rest) p :=
  blank (by decide) (by decide) h

theorem token {kind : Terminal} {chars : List Char} (hcuts : Cuts state.kinds kind chars rest)
    (hnext : ∀ start, ∃ next, state.advance? ⟨kind, chars, start⟩ = some next ∧ Reads next rest p) :
    Reads state (chars ++ rest) p := by
  intro last here
  obtain ⟨next, hstep, hreads⟩ := hnext here
  rw [scan_token hcuts last here hstep]
  exact hreads here (here + chars.length)

/-- Past a mark of one character. -/
theorem mark (m : Mark) {c : Char} (hspelling : m.spelling = [c])
    (halone : Alone state.kinds (.mark m) c = true)
    (hstep : ∀ start, state.advance? ⟨.mark m, [c], start⟩ = some next)
    (h : Reads next rest p) : Reads state (c :: rest) p := by
  have hcuts : Cuts state.kinds (.mark m) [c] rest := cuts_mark hspelling halone
  exact token hcuts fun start => ⟨next, hstep start, h⟩

/-- Past a mark of two characters. -/
theorem longMark (m : Mark) {c d : Char} (hspelling : m.spelling = [c, d])
    (halone : Alone state.kinds (.mark m) c = true)
    (hstep : ∀ start, state.advance? ⟨.mark m, [c, d], start⟩ = some next)
    (h : Reads next rest p) : Reads state (c :: d :: rest) p := by
  have hcuts : Cuts state.kinds (.mark m) [c, d] rest := cuts_mark hspelling halone
  exact token hcuts fun start => ⟨next, hstep start, h⟩

/-- Past a keyword where no name is welcome. -/
theorem keyword (k : Keyword) {c : Char} {cs : List Char} (hspelling : k.spelling = c :: cs)
    (halone : Alone state.kinds (.keyword k) c = true)
    (hstep : ∀ start, state.advance? ⟨.keyword k, c :: cs, start⟩ = some next)
    (h : Reads next rest p) : Reads state (k.spelling ++ rest) p := by
  rw [hspelling]
  exact token (cuts_keyword hspelling halone) fun start => ⟨next, hstep start, h⟩

/-- Past a keyword where names are welcome, too. -/
theorem keywordWord (k : Keyword) (hk : state.kinds.contains (.keyword k) = true)
    (hname : state.kinds.contains .name = true) (hrest : Stops rest)
    (h : ∀ start, ∃ next, state.advance? ⟨.keyword k, k.spelling, start⟩ = some next ∧
      Reads next rest p) : Reads state (k.spelling ++ rest) p :=
  token (cuts_keyword_word k hk hname hrest) h

/-- Past a name. -/
theorem name {t : Text} (ht : t.Narrow) (hname : state.kinds.contains .name = true)
    (hquoted : Alone state.kinds .quoted '"' = true) (hrest : Stops rest)
    (h : ∀ token : Token, token.kind.isName = true → token.text = .ok t →
      ∃ next, state.advance? token = some next ∧ Reads next rest p) :
    Reads state (printName t ++ rest) p := by
  obtain ⟨kind, hkind, hcuts, htext⟩ := exists_name_token ht hname hquoted hrest
  exact token hcuts fun start => h ⟨kind, printName t, start⟩ hkind (htext start)

end Reads

/-! ## Items between commas -/

theorem separated_cons (x : List Char) (xs : List (List Char)) :
    separated (x :: xs) = x ++ xs.flatMap fun y => ',' :: ' ' :: y := by
  induction xs generalizing x with
  | nil => simp [separated]
  | cons y xs ih =>
    have hsplit : separated (x :: y :: xs) = x ++ ([',', ' '] ++ separated (y :: xs)) := by
      simp [separated, List.intercalate]
    rw [hsplit, ih, List.flatMap_cons]
    simp

theorem mapM_concat {α β ε : Type} {f : β → Except ε α} {bs : List β} {b : β} {xs : List α} {x : α}
    (hbs : bs.mapM f = .ok xs) (hb : f b = .ok x) : (bs ++ [b]).mapM f = .ok (xs ++ [x]) := by
  rw [List.mapM_append, hbs, List.mapM_cons, hb]
  rfl

section Separated

variable {α β : Type} {print : α → List Char} (eval : β → Except Fault α) {ok : α → Prop}
  {first : State} (after next : List β → State) {rest : List Char} {p : Tree → Prop}

/-- The items after the first, each behind a comma. -/
theorem Reads.more (hcomma : ∀ bs s, Reads (next bs) s p → Reads (after bs) (',' :: s) p)
    (hitem : ∀ bs x s, ok x → Stops s →
      (∀ b, eval b = .ok x → Reads (after (bs ++ [b])) s p) → Reads (next bs) (print x ++ s) p)
    (hrest : Stops rest) {xs : List α} (hok : ∀ x ∈ xs, ok x) {bs : List β} {done : List α}
    (hdone : bs.mapM eval = .ok done)
    (hend : ∀ bs, bs.mapM eval = .ok (done ++ xs) → Reads (after bs) rest p) :
    Reads (after bs) ((xs.flatMap fun x => ',' :: ' ' :: print x) ++ rest) p := by
  induction xs generalizing bs done with
  | nil =>
    rw [List.append_nil] at hend
    exact hend bs hdone
  | cons x xs ih =>
    rw [List.flatMap_cons, List.append_assoc]
    refine hcomma bs _ (space (hitem bs x _ (hok x (List.mem_cons_self ..)) ?_ ?_))
    · cases xs with
      | nil => exact hrest
      | cons y ys => exact stops_cons (by decide) _
    · intro b hb
      refine ih (fun y hy => hok y (List.mem_cons_of_mem _ hy)) (mapM_concat hdone hb) ?_
      intro bs hbs
      rw [List.append_assoc] at hbs
      exact hend bs hbs

/-- A list of items with commas between them, and what follows it. -/
theorem Reads.separated {xs : List α} (hempty : xs = [] → Reads first rest p)
    (hfirst : ∀ x s, ok x → Stops s → (∀ b, eval b = .ok x → Reads (after [b]) s p) →
      Reads first (print x ++ s) p)
    (hcomma : ∀ bs s, Reads (next bs) s p → Reads (after bs) (',' :: s) p)
    (hitem : ∀ bs x s, ok x → Stops s →
      (∀ b, eval b = .ok x → Reads (after (bs ++ [b])) s p) → Reads (next bs) (print x ++ s) p)
    (hrest : Stops rest) (hok : ∀ x ∈ xs, ok x)
    (hend : ∀ bs, bs.mapM eval = .ok xs → Reads (after bs) rest p) :
    Reads first (Listing.separated (xs.map print) ++ rest) p := by
  cases xs with
  | nil => exact hempty rfl
  | cons x xs =>
    rw [List.map_cons, separated_cons, List.append_assoc, List.flatMap_map]
    refine hfirst x _ (hok x (List.mem_cons_self ..)) ?_ ?_
    · cases xs with
      | nil => exact hrest
      | cons y ys => exact stops_cons (by decide) _
    · intro b hb
      have hone : [b].mapM eval = .ok [x] := by
        rw [List.mapM_cons, hb]
        rfl
      exact more eval after next hcomma hitem hrest (fun y hy => hok y (List.mem_cons_of_mem _ hy)) hone hend

end Separated

end Listing
end SsaEdit
