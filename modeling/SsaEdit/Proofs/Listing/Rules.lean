/-
The rules for the statements of a text.

When all literals spell texts and all numbers are short, the only requirements that a
tree can miss are the two about its statements: each has the number of its place, and
none branches on the absent value.  They are the requirements that have a place, so the
first that is not met is found by looking at the statements alone.
-/
import SsaEdit.Proofs.Listing.Pieces
import SsaEdit.Proofs.Listing.Requirements

namespace SsaEdit
namespace Listing

def Item.statement? : Item → Option StatementTree
  | .statement tree => some tree
  | .line _ => none

/-- The statements in the order of the text. -/
def Tree.statements (t : Tree) : List StatementTree := t.items.filterMap Item.statement?

/-! ## Rules for statements -/

/-- The rules for the statement at a place: it has this number, and it is no branch on the
absent value. -/
structure StatementTree.InPlace (place : Nat) (s : StatementTree) : Prop where
  number : digitsValue s.number.chars.tail = place
  condition : ∀ head target cond, s.node = .branch head target (some cond) →
    cond.kind ≠ .keyword .absent

/-- The first rule that the statement at a place breaks, as the token at which it does and
what there is to say about it. -/
inductive StatementTree.Breaks (place : Nat) (s : StatementTree) : Token → ListingFault → Prop
  | number (h : digitsValue s.number.chars.tail ≠ place) :
    s.Breaks place s.number (.misnumbered place (String.ofList s.number.chars))
  | condition {head target cond : Token} (hnumber : digitsValue s.number.chars.tail = place)
    (hnode : s.node = .branch head target (some cond)) (habsent : cond.kind = .keyword .absent) :
    s.Breaks place head .absentCondition

/-- All statements of a list are in place when the first has the place `first`. -/
def InOrder (first : Nat) (l : List StatementTree) : Prop :=
  ∀ (k : Nat) (s : StatementTree), l[k]? = some s → s.InPlace (first + k)

/-- The first statement of a list to break a rule does so at a token. -/
def FirstBreach (first : Nat) (l : List StatementTree) (token : Token) (cause : ListingFault) :
    Prop :=
  ∃ before s after, l = before ++ s :: after ∧ InOrder first before ∧
    s.Breaks (first + before.length) token cause

/-- What a branch asks of its condition. -/
def NodeTree.rules : NodeTree → List Requirement
  | .branch head _ (some cond) => [.conditioned head cond]
  | _ => []

def StatementTree.rules (place : Nat) (s : StatementTree) : List Requirement :=
  .numbered s.number place :: s.node.rules

/-- The rules for statements of which the first has the place `first`. -/
def rulesFrom (first : Nat) : List StatementTree → List Requirement
  | [] => []
  | s :: rest => s.rules first ++ rulesFrom (first + 1) rest

/-! ## The requirements that have a place -/

theorem located_text (t : Token) : t.textRequirements.filter Requirement.isLocated = [] := by
  rw [Token.textRequirements]
  split <;> rfl

theorem located_operand (t : Token) : t.operandRequirements.filter Requirement.isLocated = [] := by
  rw [Token.operandRequirements]
  split <;> rfl

theorem located_flatMap {α : Type} {f : α → List Requirement}
    (h : ∀ x, (f x).filter Requirement.isLocated = []) (xs : List α) :
    (xs.flatMap f).filter Requirement.isLocated = [] := by
  rw [List.filter_flatMap, List.flatMap_eq_nil_iff]
  exact fun x _ => h x

theorem located_node (tree : NodeTree) :
    tree.requirements.filter Requirement.isLocated = tree.rules := by
  cases tree with
  | call callee args =>
    rw [NodeTree.requirements, List.filter_append, located_operand,
      located_flatMap located_operand]
    rfl
  | branch head target cond =>
    cases cond with
    | none => rfl
    | some cond =>
      rw [NodeTree.requirements, List.filter_append, List.filter_append, located_operand]
      rfl
  | ret value => exact located_operand value
  | phi edges =>
    refine located_flatMap (fun edge => ?_) edges
    rw [List.filter_append, located_operand]
    rfl
  | plain value => exact located_operand value

theorem located_line (tree : LineTree) : tree.requirements.filter Requirement.isLocated = [] := by
  rw [LineTree.requirements, List.filter_append, List.filter_append, located_text,
    located_flatMap located_text]
  rfl

theorem located_statement (tree : StatementTree) (place : Nat) :
    (tree.requirements place).filter Requirement.isLocated = tree.rules place := by
  have hlocation : (tree.location.toList.map fun digits => Requirement.short digits.chars).filter
      Requirement.isLocated = [] := by
    cases tree.location <;> rfl
  rw [StatementTree.requirements, List.filter_append, List.filter_append, List.filter_append,
    located_node, located_flatMap located_text, hlocation]
  rfl

theorem located_items (items : List Item) (first : Nat) :
    (itemRequirements first items).filter Requirement.isLocated =
      rulesFrom first (items.filterMap Item.statement?) := by
  induction items generalizing first with
  | nil => rfl
  | cons item rest ih =>
    cases item with
    | line tree =>
      rw [itemRequirements, List.filter_append, located_line, ih]
      rfl
    | statement tree =>
      rw [itemRequirements, List.filter_append, located_statement, ih]
      rfl

theorem located_tree (tree : Tree) :
    tree.requirements.filter Requirement.isLocated = rulesFrom 1 tree.statements := by
  rw [Tree.requirements, List.filter_append, List.filter_append, located_text,
    located_flatMap located_text, located_items]
  rfl

/-! ## The requirements that have none -/

/-- Whether a token has a value: literals spell texts, and numbers are short. -/
def Token.decodes (t : Token) : Bool :=
  match t.kind with
  | .quoted => t.literal.isOk
  | .variable | .label | .argument => t.number.isOk
  | .digits => (natOf t.chars).isOk
  | _ => true

/-- All requirements are met that have no place. -/
def Sound (reqs : List Requirement) : Prop := ∀ r ∈ reqs, r.isLocated = false → r.isMet = true

/-- Then only the others count. -/
theorem Sound.firstUnmet_eq {reqs : List Requirement} (h : Sound reqs) :
    firstUnmet reqs = firstUnmet (reqs.filter Requirement.isLocated) := by
  induction reqs with
  | nil => rfl
  | cons r rest ih =>
    obtain ⟨hr, hrest⟩ := List.forall_mem_cons.1 h
    have hsame : firstUnmet rest = firstUnmet (rest.filter Requirement.isLocated) := ih hrest
    cases hlocated : r.isLocated with
    | true => rw [List.filter_cons_of_pos hlocated, firstUnmet_cons, firstUnmet_cons, hsame]
    | false =>
      have hunlocated : ¬r.isLocated = true := by simp [hlocated]
      rw [List.filter_cons_of_neg hunlocated, firstUnmet_cons, if_pos (hr hlocated), hsame]

theorem Sound.append {reqs more : List Requirement} (h : Sound reqs) (hmore : Sound more) :
    Sound (reqs ++ more) := List.forall_mem_append.2 ⟨h, hmore⟩

theorem Sound.flatMap {α : Type} {f : α → List Requirement} {xs : List α}
    (h : ∀ x ∈ xs, Sound (f x)) : Sound (xs.flatMap f) := by
  intro r hr
  obtain ⟨x, hx, hr⟩ := List.mem_flatMap.1 hr
  exact h x hx r hr

theorem sound_singleton {r : Requirement} (h : r.isLocated = false → r.isMet = true) :
    Sound [r] := List.forall_mem_singleton.2 h

theorem sound_short {digits : List Char} (h : (natOf digits).isOk = true) :
    Sound [.short digits] := by
  refine sound_singleton fun _ => ?_
  rw [natOf] at h
  split at h
  case isTrue hlength => exact decide_eq_true hlength
  case isFalse => cases h

section Decoding

variable {t : Token}

theorem sound_text (h : t.decodes = true) : Sound t.textRequirements := by
  rw [Token.textRequirements]
  split
  case isTrue hkind =>
    rw [Token.decodes, hkind] at h
    exact sound_singleton fun _ => h
  case isFalse => exact List.forall_mem_nil _

theorem sound_number {kind : Terminal} (ht : t.Is kind)
    (hkind : kind = .variable ∨ kind = .label) (h : t.decodes = true) :
    Sound t.numberRequirements := by
  rw [Token.decodes, ht.kind] at h
  rcases hkind with rfl | rfl
  · exact sound_short h
  · exact sound_short h

theorem sound_operand (h : t.decodes = true) : Sound t.operandRequirements := by
  rw [Token.decodes] at h
  rw [Token.operandRequirements]
  cases hkind : t.kind with
  | «variable» | argument =>
    rw [hkind] at h
    exact sound_short h
  | quoted =>
    rw [hkind] at h
    exact sound_singleton fun _ => h
  | _ => exact List.forall_mem_nil _

theorem sound_digits (ht : t.Is .digits) (h : t.decodes = true) : Sound [.short t.chars] := by
  rw [Token.decodes, ht.kind] at h
  exact sound_short h

end Decoding

/-- All tokens among some pieces have values. -/
def Decoded (pieces : List Piece) : Prop := ∀ t, .token t ∈ pieces → t.decodes = true

theorem sound_node {tree : NodeTree} (hlexed : tree.Lexed) (h : Decoded tree.pieces) :
    Sound tree.requirements := by
  cases tree with
  | call callee args =>
    have hcallee : Sound callee.operandRequirements :=
      sound_operand (h callee (by simp [NodeTree.pieces]))
    refine hcallee.append (.flatMap fun arg harg => sound_operand (h arg ?_))
    have hmem : .token arg ∈ commaSeparated tokenPieces args :=
      mem_commaSeparated harg List.mem_cons_self
    simp [NodeTree.pieces, hmem]
  | branch head target cond =>
    have htarget : Sound target.numberRequirements :=
      sound_number hlexed.2.1 (Or.inr rfl) (h target (by simp [NodeTree.pieces]))
    cases cond with
    | none => exact htarget.append (List.forall_mem_nil _)
    | some cond =>
      have hcond : Sound cond.operandRequirements :=
        sound_operand (h cond (by simp [NodeTree.pieces, behind]))
      exact htarget.append (hcond.append (sound_singleton fun h => by cases h))
  | ret value => exact sound_operand (h value (by simp [NodeTree.pieces]))
  | phi edges =>
    refine Sound.flatMap fun edge hedge => ?_
    have hmem : ∀ p ∈ edgePieces edge, p ∈ (NodeTree.phi edges).pieces := by
      intro p hp
      simp [NodeTree.pieces, mem_commaSeparated hedge hp]
    have hlabel : Sound edge.1.numberRequirements :=
      sound_number (hlexed edge hedge).1 (Or.inr rfl) (h _ (hmem _ (by simp [edgePieces])))
    exact hlabel.append (sound_operand (h _ (hmem _ (by simp [edgePieces]))))
  | plain value => exact sound_operand (h value (by simp [NodeTree.pieces]))

theorem sound_line {tree : LineTree} (hlexed : tree.Lexed) (h : Decoded tree.pieces) :
    Sound tree.requirements := by
  have hname : Sound (tree.function.toList.flatMap Token.textRequirements) := by
    refine .flatMap fun t ht => sound_text (h t ?_)
    simp [LineTree.pieces, token_mem_behind (Option.mem_toList.1 ht)]
  have hfile : Sound tree.file.textRequirements :=
    sound_text (h tree.file (by simp [LineTree.pieces]))
  exact (hname.append hfile).append
    (sound_digits hlexed.line (h tree.line (by simp [LineTree.pieces])))

theorem sound_statement {tree : StatementTree} (hlexed : tree.Lexed) (h : Decoded tree.pieces)
    (place : Nat) : Sound (tree.requirements place) := by
  have hnumber : Sound tree.number.numberRequirements :=
    sound_number hlexed.number (Or.inl rfl) (h tree.number (by simp [StatementTree.pieces]))
  have hplaced : Sound [.numbered tree.number place] := sound_singleton fun h => by cases h
  have htype : Sound (tree.type.toList.flatMap Token.textRequirements) := by
    refine .flatMap fun t ht => sound_text (h t ?_)
    simp [StatementTree.pieces, token_mem_behind (Option.mem_toList.1 ht)]
  have hlocation : Sound (tree.location.toList.map fun digits => .short digits.chars) := by
    rw [List.map_eq_flatMap]
    refine .flatMap fun t ht => ?_
    have hdigits := Option.mem_toList.1 ht
    exact sound_digits (hlexed.location t hdigits)
      (h t (by simp [StatementTree.pieces, token_mem_behind hdigits]))
  have hnode : Sound tree.node.requirements :=
    sound_node hlexed.node fun t ht => h t (by simp [StatementTree.pieces, ht])
  exact (((hnumber.append hplaced).append htype).append hlocation).append hnode

theorem sound_items {items : List Item} (hlexed : ∀ item ∈ items, item.Lexed)
    (h : ∀ item ∈ items, Decoded item.pieces) (first : Nat) :
    Sound (itemRequirements first items) := by
  induction items generalizing first with
  | nil => exact List.forall_mem_nil _
  | cons item rest ih =>
    obtain ⟨hitem, hrest⟩ := List.forall_mem_cons.1 hlexed
    obtain ⟨hdecoded, hothers⟩ := List.forall_mem_cons.1 h
    cases item with
    | line tree => exact (sound_line hitem hdecoded).append (ih hrest hothers first)
    | statement tree =>
      exact (sound_statement hitem hdecoded first).append (ih hrest hothers (first + 1))

theorem sound_tree {tree : Tree} (hlexed : tree.Lexed) (h : Decoded tree.pieces) :
    Sound tree.requirements := by
  have hname : Sound tree.name.textRequirements :=
    sound_text (h tree.name (by simp [Tree.pieces, Tree.unclosed]))
  have hslots : Sound (tree.slots.flatMap Token.textRequirements) := by
    refine .flatMap fun t ht => sound_text (h t ?_)
    have hmem : .token t ∈ commaSeparated tokenPieces tree.slots :=
      mem_commaSeparated ht List.mem_cons_self
    simp [Tree.pieces, Tree.unclosed, hmem]
  have hitems : ∀ item ∈ tree.items, Decoded item.pieces := by
    intro item hitem t ht
    have hmem : .token t ∈ tree.items.flatMap Item.pieces :=
      List.mem_flatMap.2 ⟨item, hitem, ht⟩
    exact h t (by simp only [Tree.pieces, Tree.unclosed, List.mem_append, hmem, or_true, true_or])
  exact (hname.append hslots).append (sound_items hlexed.items hitems 1)

/-! ## The first rule that is broken -/

/-- A numeral has a value. -/
theorem isNull_numeral {t : Token} (h : ∃ found, Numeral.read? t.chars = some found) :
    t.numeral.isNull = false := by
  obtain ⟨⟨n, rest⟩, hread⟩ := h
  simp only [Token.numeral, hread]
  split
  · split <;> rfl
  · rfl

/-- Only one word is the absent value. -/
theorem isAbsent_iff {t : Token} (ht : t.IsOperand) :
    t.isAbsent = true ↔ t.kind = .keyword .absent := by
  obtain ⟨hkind, hlexed⟩ := ht
  rw [Token.Lexed] at hlexed
  rw [Token.isAbsent]
  cases hsort : t.kind with
  | «variable» | argument =>
    simp only [Token.operand, hsort]
    cases t.number <;> simp [Except.map, Value.isNull]
  | quoted =>
    simp only [Token.operand, hsort]
    cases t.literal <;> simp [Except.map, Value.isNull]
  | number =>
    rw [hsort] at hlexed
    simp [Token.operand, hsort, isNull_numeral hlexed]
  | name | minusInf => simp [Token.operand, hsort, Value.isNull]
  | keyword k =>
    rw [hsort] at hkind
    cases k with
    | yes | no | absent | inf | nan => simp [Token.operand, hsort, Value.isNull]
    | _ => cases hkind
  | mark | label | digits =>
    rw [hsort] at hkind
    cases hkind

/-- A requirement is not met, all before it are, and its fault is at a token. -/
def Refuses (reqs : List Requirement) (token : Token) (cause : ListingFault) : Prop :=
  ∃ r, firstUnmet reqs = some r ∧ ∀ text, r.fault text = faultAt text token.start cause

theorem node_cases {tree : NodeTree} (hlexed : tree.Lexed) :
    (firstUnmet tree.rules = none ∧
      ∀ head target cond, tree = .branch head target (some cond) → cond.kind ≠ .keyword .absent) ∨
    ∃ head target cond, tree = .branch head target (some cond) ∧ cond.kind = .keyword .absent ∧
      Refuses tree.rules head .absentCondition := by
  cases tree with
  | branch head target cond =>
    cases cond with
    | none => exact Or.inl ⟨rfl, fun _ _ _ h => by cases h⟩
    | some cond =>
      have habsent := isAbsent_iff (hlexed.2.2 cond rfl)
      have hmet : (Requirement.conditioned head cond).isMet = !cond.isAbsent := rfl
      rw [NodeTree.rules, firstUnmet_cons, hmet]
      cases hcond : cond.isAbsent with
      | false =>
        refine Or.inl ⟨rfl, fun _ _ other hother hkind => ?_⟩
        cases hother
        rw [habsent.2 hkind] at hcond
        cases hcond
      | true =>
        refine Or.inr ⟨head, target, cond, rfl, habsent.1 hcond, .conditioned head cond, ?_,
          fun _ => rfl⟩
        rw [firstUnmet_cons, hmet, hcond]
        rfl
  | call | ret | phi | plain => exact Or.inl ⟨rfl, fun _ _ _ h => by cases h⟩

/-- A statement follows its rules or is refused at the first that it breaks. -/
theorem statement_cases {s : StatementTree} (hlexed : s.node.Lexed) (place : Nat) :
    (firstUnmet (s.rules place) = none ∧ s.InPlace place) ∨
      ∃ token cause, Refuses (s.rules place) token cause ∧ s.Breaks place token cause := by
  have hrules : firstUnmet (s.rules place) =
      if digitsValue s.number.chars.tail == place then firstUnmet s.node.rules
      else some (.numbered s.number place) := firstUnmet_cons _ _
  by_cases hnumber : digitsValue s.number.chars.tail = place
  · rw [if_pos (beq_iff_eq.2 hnumber)] at hrules
    rcases node_cases hlexed with ⟨hmet, hcond⟩ | ⟨head, target, cond, hnode, habsent, r, hr, hfault⟩
    · exact Or.inl ⟨hrules.trans hmet, hnumber, hcond⟩
    · exact Or.inr ⟨head, _, ⟨r, hrules.trans hr, hfault⟩, .condition hnumber hnode habsent⟩
  · rw [if_neg (mt beq_iff_eq.1 hnumber)] at hrules
    exact Or.inr ⟨s.number, _, ⟨_, hrules, fun _ => rfl⟩, .number hnumber⟩

theorem inOrder_nil (first : Nat) : InOrder first [] := fun k s h => by cases h

theorem InOrder.cons {first : Nat} {s : StatementTree} {rest : List StatementTree}
    (hs : s.InPlace first) (hrest : InOrder (first + 1) rest) : InOrder first (s :: rest) := by
  intro k found hfound
  cases k with
  | zero => exact Option.some.inj hfound ▸ hs
  | succ k =>
    have hplace : first + (k + 1) = first + 1 + k := by omega
    exact hplace ▸ hrest k found hfound

theorem FirstBreach.cons {first : Nat} {s : StatementTree} {rest : List StatementTree}
    {token : Token} {cause : ListingFault} (hs : s.InPlace first)
    (h : FirstBreach (first + 1) rest token cause) : FirstBreach first (s :: rest) token cause := by
  obtain ⟨before, found, after, rfl, hbefore, hbreaks⟩ := h
  have hplace : first + 1 + before.length = first + (s :: before).length := by
    rw [List.length_cons]
    omega
  exact ⟨s :: before, found, after, rfl, .cons hs hbefore, hplace ▸ hbreaks⟩

theorem Tree.Lexed.statement {tree : Tree} (h : tree.Lexed) {s : StatementTree}
    (hs : s ∈ tree.statements) : s.Lexed := by
  obtain ⟨item, hitem, hsame⟩ := List.mem_filterMap.1 hs
  cases item with
  | line => cases hsame
  | statement found =>
    cases hsame
    exact h.items (.statement s) hitem

theorem lexed_of_mem_statements {tree : Tree} (hlexed : tree.Lexed) :
    ∀ s ∈ tree.statements, s.node.Lexed := fun _ hs => (hlexed.statement hs).node

/-- A list of statements follows the rules or is refused at the first that is broken. -/
theorem statements_cases {l : List StatementTree} (hlexed : ∀ s ∈ l, s.node.Lexed) (first : Nat) :
    (firstUnmet (rulesFrom first l) = none ∧ InOrder first l) ∨
      ∃ token cause, Refuses (rulesFrom first l) token cause ∧
        FirstBreach first l token cause := by
  induction l generalizing first with
  | nil => exact Or.inl ⟨rfl, inOrder_nil first⟩
  | cons s rest ih =>
    obtain ⟨hs, hrest⟩ := List.forall_mem_cons.1 hlexed
    have hrules : firstUnmet (rulesFrom first (s :: rest)) =
        (firstUnmet (s.rules first)).or (firstUnmet (rulesFrom (first + 1) rest)) :=
      List.find?_append
    rcases statement_cases hs first with ⟨hmet, hplace⟩ | ⟨token, cause, ⟨r, hr, hfault⟩, hbreaks⟩
    · rw [hmet, Option.none_or] at hrules
      rcases ih hrest (first + 1) with ⟨hall, horder⟩ | ⟨token, cause, ⟨r, hr, hfault⟩, hbreach⟩
      · exact Or.inl ⟨hrules.trans hall, .cons hplace horder⟩
      · exact Or.inr ⟨token, cause, ⟨r, hrules.trans hr, hfault⟩, .cons hplace hbreach⟩
    · rw [hr, Option.some_or] at hrules
      exact Or.inr ⟨token, cause, ⟨r, hrules, hfault⟩, [], s, rest, rfl, inOrder_nil first, hbreaks⟩

/-- The first statement of a list that breaks a rule is not in place. -/
theorem FirstBreach.not_inOrder {first : Nat} {l : List StatementTree} {token : Token}
    {cause : ListingFault} (h : FirstBreach first l token cause) : ¬InOrder first l := by
  obtain ⟨before, s, after, rfl, -, hbreaks⟩ := h
  intro horder
  have hs : s.InPlace (first + before.length) := horder before.length s (by simp)
  cases hbreaks with
  | number hnumber => exact hnumber hs.number
  | condition _ hnode habsent => exact hs.condition _ _ _ hnode habsent

end Listing
end SsaEdit
