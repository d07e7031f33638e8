/-
What a tree has to fulfil to be a body.

A tree asks for things in the order of its evaluation: that literals spell texts, that
numbers are short, that statements are numbered in their order, and that no condition
is the absent value.  Its evaluation comes to a body if all requirements are met, and
if not, to the fault of the first that is not.  `Follows` says so of any part of the
evaluation.  It holds of sequences and lists when it holds of their parts, so there is
one lemma for each evaluating function.

Only the last two requirements have faults that name a place of the text.
-/
import SsaEdit.Listing.Reader
import SsaEdit.Proofs.Results

namespace SsaEdit
namespace Listing

/-- Whether an operand spells the absent value, which it does in all namespaces. -/
def Token.isAbsent (t : Token) : Bool :=
  match t.operand (.anonymous 0) with
  | .ok v => v.isNull
  | .error _ => false

inductive Requirement
  /-- A literal spells a text. -/
  | spelled (t : Token)
  /-- A number does not have too many digits. -/
  | short (digits : List Char)
  /-- A statement has its number. -/
  | numbered (t : Token) (expected : Nat)
  /-- The condition of a branch is not the absent value. -/
  | conditioned (head cond : Token)

namespace Requirement

def isMet : Requirement → Bool
  | .spelled t => t.literal.isOk
  | .short digits => digits.length ≤ maxDigits
  | .numbered t expected => digitsValue t.chars.tail == expected
  | .conditioned _ cond => !cond.isAbsent

/-- The fault of a requirement that is not met. -/
def fault (text : List Char) : Requirement → Fault
  | .spelled t => if t.chars.contains '\x00' then .bareNull else .badEscape
  | .short _ => .unreadableNumber
  | .numbered t expected =>
    faultAt text t.start (.misnumbered expected (String.ofList t.chars))
  | .conditioned head _ => faultAt text head.start .absentCondition

/-- Whether the fault names a place. -/
def isLocated : Requirement → Bool
  | .numbered _ _ | .conditioned _ _ => true
  | .spelled _ | .short _ => false

end Requirement

/-! ## The requirements of a tree -/

/-- What a name asks for. -/
def Token.textRequirements (t : Token) : List Requirement :=
  if t.kind = .quoted then [.spelled t] else []

/-- What a number after a sigil asks for. -/
def Token.numberRequirements (t : Token) : List Requirement := [.short t.chars.tail]

/-- What an operand asks for. -/
def Token.operandRequirements (t : Token) : List Requirement :=
  match t.kind with
  | .variable | .argument => t.numberRequirements
  | .quoted => [.spelled t]
  | _ => []

def NodeTree.requirements : NodeTree → List Requirement
  | .call callee args => callee.operandRequirements ++ args.flatMap Token.operandRequirements
  | .branch head target cond =>
    target.numberRequirements ++
      match cond with
      | none => []
      | some cond => cond.operandRequirements ++ [.conditioned head cond]
  | .ret value => value.operandRequirements
  | .phi edges => edges.flatMap fun edge => edge.1.numberRequirements ++ edge.2.operandRequirements
  | .plain value => value.operandRequirements

def LineTree.requirements (t : LineTree) : List Requirement :=
  t.function.toList.flatMap Token.textRequirements ++ t.file.textRequirements ++
    [.short t.line.chars]

/-- What a statement asks for that has to have the number `expected`. -/
def StatementTree.requirements (expected : Nat) (t : StatementTree) : List Requirement :=
  t.number.numberRequirements ++ [.numbered t.number expected] ++
    t.type.toList.flatMap Token.textRequirements ++
    t.location.toList.map (fun digits => .short digits.chars) ++ t.node.requirements

/-- What items ask for when the next statement among them has the number `next`. -/
def itemRequirements (next : Nat) : List Item → List Requirement
  | [] => []
  | .line tree :: rest => tree.requirements ++ itemRequirements next rest
  | .statement tree :: rest => tree.requirements next ++ itemRequirements (next + 1) rest

def Tree.requirements (t : Tree) : List Requirement :=
  t.name.textRequirements ++ t.slots.flatMap Token.textRequirements ++ itemRequirements 1 t.items

/-! ## Going by requirements -/

/-- The first requirement that is not met. -/
def firstUnmet (reqs : List Requirement) : Option Requirement := reqs.find? fun r => !r.isMet

theorem firstUnmet_cons (r : Requirement) (rest : List Requirement) :
    firstUnmet (r :: rest) = if r.isMet then firstUnmet rest else some r := by
  rw [firstUnmet, List.find?_cons]
  cases r.isMet <;> rfl

section Follows

variable {α β : Type} {text : List Char} {reqs reqs' : List Requirement}

/-- A result that goes by requirements: there is a value if all are met, and if not,
the fault of the first that is not. -/
def Follows (text : List Char) (reqs : List Requirement) (x : Except Fault α) : Prop :=
  match firstUnmet reqs with
  | none => ∃ a, x = .ok a
  | some r => x = .error (r.fault text)

namespace Follows

theorem pure (a : α) : Follows text [] (.ok a) := ⟨a, rfl⟩

/-- A test that is passed when a requirement is met, and what comes after it. -/
theorem test {r : Requirement} {c : Prop} [Decidable c] {x : Except Fault α}
    (hc : r.isMet = false ↔ c) (hx : ¬ c → Follows text reqs x) :
    Follows text (r :: reqs) (if c then .error (r.fault text) else x) := by
  rw [Follows, firstUnmet_cons]
  by_cases h : c
  · rw [hc.2 h, if_neg Bool.false_ne_true, if_pos h]
  · have hmet : r.isMet = true := Bool.not_eq_false _ ▸ fun hunmet => h (hc.1 hunmet)
    rw [if_pos hmet, if_neg h]
    exact hx h

theorem bind {x : Except Fault α} {f : α → Except Fault β} (hx : Follows text reqs x)
    (hf : ∀ a, x = .ok a → Follows text reqs' (f a)) : Follows text (reqs ++ reqs') (x >>= f) := by
  have happend : firstUnmet (reqs ++ reqs') = (firstUnmet reqs).or (firstUnmet reqs') :=
    List.find?_append
  rw [Follows] at hx
  rw [Follows, happend]
  cases hfirst : firstUnmet reqs with
  | some r =>
    rw [hfirst] at hx
    obtain rfl : x = .error (r.fault text) := hx
    rfl
  | none =>
    rw [hfirst] at hx
    obtain ⟨a, rfl⟩ := hx
    exact hf a rfl

/-- The last part of a sequence asks for nothing. -/
theorem last {x : Except Fault α} (f : α → β) (hx : Follows text reqs x) :
    Follows text reqs (x >>= fun a => .ok (f a)) :=
  List.append_nil reqs ▸ hx.bind fun a _ => .pure (f a)

theorem map {x : Except Fault α} (f : α → β) (hx : Follows text reqs x) :
    Follows text reqs (x.map f) := by
  cases x with
  | error e => exact hx.last f
  | ok a => exact hx.last f

theorem mapM {f : α → Except Fault β} {g : α → List Requirement} (xs : List α)
    (h : ∀ x ∈ xs, Follows text (g x) (f x)) : Follows text (xs.flatMap g) (xs.mapM f) := by
  induction xs with
  | nil => exact .pure []
  | cons x xs ih =>
    rw [List.flatMap_cons, List.mapM_cons]
    refine (h x List.mem_cons_self).bind fun y _ => ?_
    exact (ih fun z hz => h z (List.mem_cons_of_mem x hz)).last (y :: ·)

theorem mapM_option {f : α → Except Fault β} {g : α → List Requirement} (x : Option α)
    (h : ∀ a ∈ x, Follows text (g a) (f a)) : Follows text (x.toList.flatMap g) (x.mapM f) := by
  cases x with
  | none => exact .pure none
  | some a =>
    have hsingle : (some a).toList.flatMap g = g a := List.flatMap_singleton g a
    rw [hsingle]
    exact (h a rfl).map some

end Follows
end Follows

/-! ## Tokens -/

variable {text : List Char} {home : Namespace}

theorem natOf_follows (digits : List Char) : Follows text [.short digits] (natOf digits) := by
  have hflip : natOf digits = if ¬ digits.length ≤ maxDigits then .error .unreadableNumber
      else .ok (digitsValue digits) := by
    rw [natOf, ite_not]
  rw [hflip]
  exact .test decide_eq_false_iff_not fun _ => .pure _

theorem number_follows (t : Token) : Follows text t.numberRequirements t.number :=
  natOf_follows t.chars.tail

theorem label_follows (t : Token) : Follows text t.numberRequirements t.label :=
  (number_follows t).map Label.mk

theorem literal_error {t : Token} {e : Fault} (h : t.literal = .error e) :
    e = (Requirement.spelled t).fault text := by
  show e = if t.chars.contains '\x00' then .bareNull else .badEscape
  rw [Token.literal] at h
  split at h
  case isTrue hnull =>
    rw [if_pos hnull]
    exact (Except.error.inj h).symm
  case isFalse hnull =>
    rw [if_neg hnull]
    split at h
    case h_1 => cases h
    case h_2 => exact (Except.error.inj h).symm

theorem literal_follows (t : Token) : Follows text [.spelled t] t.literal := by
  cases hliteral : t.literal with
  | ok a =>
    have hfirst : firstUnmet [.spelled t] = none := by
      simp [firstUnmet, Requirement.isMet, hliteral, Except.isOk, Except.toBool]
    rw [Follows, hfirst]
    exact ⟨a, rfl⟩
  | error e =>
    have hfirst : firstUnmet [.spelled t] = some (.spelled t) := by
      simp [firstUnmet, Requirement.isMet, hliteral, Except.isOk, Except.toBool]
    rw [Follows, hfirst]
    exact congrArg Except.error (literal_error hliteral)

theorem text_follows (t : Token) : Follows text t.textRequirements t.text := by
  rw [Token.textRequirements, Token.text]
  split
  · exact literal_follows t
  · exact .pure _

theorem operand_follows (t : Token) : Follows text t.operandRequirements (t.operand home) := by
  rw [Token.operandRequirements, Token.operand]
  cases t.kind with
  | «variable» => exact (number_follows t).map _
  | argument => exact ((number_follows t).last Int.ofNat).map _
  | quoted => exact (literal_follows t).map _
  | keyword k => cases k <;> exact .pure _
  | name | number | minusInf | label | digits | mark => exact .pure _

theorem isAbsent_eq {t : Token} {v : Value} (hv : t.operand home = .ok v) :
    t.isAbsent = v.isNull := by
  rw [Token.isAbsent]
  by_cases hname : t.kind = .name
  · simp only [Token.operand, hname] at hv ⊢
    injection hv with hv
    exact hv ▸ rfl
  · have hsame : t.operand (.anonymous 0) = t.operand home := by
      unfold Token.operand
      split <;> first | rfl | contradiction
    rw [hsame, hv]

/-! ## Nodes -/

theorem edge_follows (pair : Token × Token) :
    Follows text (pair.1.numberRequirements ++ pair.2.operandRequirements)
      (NodeTree.edge home pair) :=
  (label_follows pair.1).bind fun l _ => (operand_follows pair.2).last (l, ·)

/-- The condition of a branch is looked at once it has a value. -/
theorem condition_follows (head : Token) (target : Label) (cond : Token) :
    Follows text (cond.operandRequirements ++ [.conditioned head cond]) (do
      let value ← cond.operand home
      if value.isNull then throw (faultAt text head.start .absentCondition)
      return Node.branch target value) := by
  refine (operand_follows cond).bind fun value hvalue => ?_
  refine .test ?_ fun _ => .pure _
  rw [Requirement.isMet, isAbsent_eq hvalue, Bool.not_eq_false']

theorem node_follows (tree : NodeTree) :
    Follows text tree.requirements (tree.eval text home) := by
  cases tree with
  | call callee args =>
    exact (operand_follows callee).bind fun f _ =>
      (Follows.mapM args fun arg _ => operand_follows arg).last (Node.call f)
  | branch head target cond =>
    refine (label_follows target).bind fun l _ => ?_
    cases cond with
    | none => exact .pure _
    | some cond => exact condition_follows head l cond
  | ret value => exact (operand_follows value).map Node.ret
  | phi edges => exact (Follows.mapM edges fun pair _ => edge_follows pair).map Node.phi
  | plain value => exact (operand_follows value).map NodeTree.alone

/-! ## Items -/

theorem line_follows (tree : LineTree) : Follows text tree.requirements tree.eval := by
  rw [LineTree.requirements, List.append_assoc]
  refine (Follows.mapM_option tree.function fun t _ => text_follows t).bind fun function _ => ?_
  exact (text_follows tree.file).bind fun file _ => (natOf_follows tree.line.chars).last _

theorem digitsValue_of_natOf {digits : List Char} {n : Nat} (h : natOf digits = .ok n) :
    digitsValue digits = n := by
  rw [natOf] at h
  split at h
  case isTrue => exact Except.ok.inj h
  case isFalse => cases h

theorem statement_follows (tree : StatementTree) (expected : Nat) :
    Follows text (tree.requirements expected) (tree.eval text home expected) := by
  rw [StatementTree.requirements]
  simp only [List.append_assoc]
  refine (number_follows tree.number).bind fun number hnumber => ?_
  refine .test ?_ fun _ => ?_
  · rw [Requirement.isMet, digitsValue_of_natOf hnumber, beq_eq_false_iff_ne]
  refine (Follows.mapM_option tree.type fun t _ => text_follows t).bind fun type _ => ?_
  refine Follows.bind ?_ fun location _ => (node_follows tree.node).last _
  have hmap : tree.location.toList.map (fun digits => Requirement.short digits.chars) =
      tree.location.toList.flatMap fun digits => [Requirement.short digits.chars] :=
    List.map_eq_flatMap
  rw [hmap]
  exact .mapM_option tree.location fun digits _ => natOf_follows digits.chars

/-- Items that come after a body whose next statement has the number `next`. -/
theorem items_follow (items : List Item) (ir : IR) :
    Follows text (itemRequirements (ir.size + 1) items)
      (items.foldlM (Item.eval text home) ir) := by
  induction items generalizing ir with
  | nil => exact .pure ir
  | cons item rest ih =>
    rw [List.foldlM_cons]
    cases item with
    | line tree =>
      refine ((line_follows tree).last _).bind fun after hafter => ?_
      obtain ⟨info, -, hafter⟩ := bind_eq_ok.1 hafter
      obtain rfl := Except.ok.inj hafter
      exact ih { ir with lineTable := ir.lineTable ++ [info] }
    | statement tree =>
      refine ((statement_follows tree (ir.size + 1)).last _).bind fun after hafter => ?_
      obtain ⟨found, -, hafter⟩ := bind_eq_ok.1 hafter
      obtain rfl := Except.ok.inj hafter
      have hsize : IR.size { ir with
          body := ir.body ++ [found.1], locations := ir.locations ++ [found.2] } = ir.size + 1 :=
        List.length_append
      exact hsize ▸ ih _

theorem tree_follows (tree : Tree) : Follows text tree.requirements (tree.eval text home) := by
  rw [Tree.requirements, List.append_assoc]
  refine (text_follows tree.name).bind fun name _ => ?_
  refine (Follows.mapM tree.slots fun t _ => text_follows t).bind fun slots _ => ?_
  exact items_follow tree.items ⟨name, .int slots.length, slots, [], [], [], []⟩

/-! ## Whole texts -/

/-- A text that reads as a body or is refused at one of its lines. -/
def Settles (home : Namespace) (text : List Char) : Prop :=
  (∃ ir, read home text = .ok ir) ∨
    ∃ line column cause, read home text = .error (.listing line column cause) ∧
      1 ≤ line ∧ line ≤ text.count '\n' + 1

theorem read_of_scan {tree : Tree} (h : scan .start 0 0 text = .ok tree) :
    read home text = tree.eval text home := by
  rw [read, readTree, h]
  rfl

theorem read_of_scan_error {offset : Nat} (h : scan .start 0 0 text = .error offset) :
    read home text =
      .error (faultAt text offset (.unexpected (String.ofList (excerpt text offset)))) := by
  rw [read, readTree, h]
  rfl

theorem settles_of_faultAt {offset : Nat} {cause : ListingFault}
    (h : read home text = .error (faultAt text offset cause)) : Settles home text := by
  have hcount : (text.take offset).count '\n' ≤ text.count '\n' :=
    (List.take_sublist offset text).count_le '\n'
  exact Or.inr ⟨_, _, cause, h, Nat.le_add_left 1 _, Nat.add_le_add_right hcount 1⟩

theorem settles_of_isLocated {r : Requirement} (hr : r.isLocated = true)
    (h : read home text = .error (r.fault text)) : Settles home text := by
  cases r with
  | numbered t expected => exact settles_of_faultAt h
  | conditioned head cond => exact settles_of_faultAt h
  | spelled | short => cases hr

theorem fault_ne_listing {r : Requirement} (hr : r.isLocated = false) (line column : Nat)
    (cause : ListingFault) : r.fault text ≠ .listing line column cause := by
  intro hsame
  cases r with
  | spelled t =>
    have hfault : (if t.chars.contains '\x00' then Fault.bareNull else Fault.badEscape) =
        .listing line column cause := hsame
    split at hfault
    · cases hfault
    · cases hfault
  | short => cases hsame
  | numbered | conditioned => cases hr

/-- A text that is no tree settles, and so does a tree all of whose requirements are met
or the first of them that is not has a place.  Any other text leaves the fault of a
requirement without a place. -/
theorem settles_or (home : Namespace) (text : List Char) :
    (Settles home text ∧ ∀ tree r, scan .start 0 0 text = .ok tree →
      firstUnmet tree.requirements = some r → r.isLocated = true) ∨
    ∃ tree r, scan .start 0 0 text = .ok tree ∧ firstUnmet tree.requirements = some r ∧
      r.isLocated = false ∧ read home text = .error (r.fault text) := by
  cases hscan : scan .start 0 0 text with
  | error offset =>
    exact Or.inl ⟨settles_of_faultAt (read_of_scan_error hscan), fun _ _ h => by cases h⟩
  | ok tree =>
    have hfollows := @tree_follows text home tree
    rw [Follows, ← read_of_scan hscan] at hfollows
    cases hfirst : firstUnmet tree.requirements with
    | none =>
      rw [hfirst] at hfollows
      refine Or.inl ⟨Or.inl hfollows, fun other r hother hr => ?_⟩
      obtain rfl := Except.ok.inj hother
      rw [hfirst] at hr
      cases hr
    | some r =>
      rw [hfirst] at hfollows
      cases hlocated : r.isLocated with
      | true =>
        refine Or.inl ⟨settles_of_isLocated hlocated hfollows, fun other r' hother hr => ?_⟩
        obtain rfl := Except.ok.inj hother
        obtain rfl := Option.some.inj (hfirst.symm.trans hr)
        exact hlocated
      | false => exact Or.inr ⟨tree, r, rfl, hfirst, hlocated, hfollows⟩

/-- A text settles exactly if the first requirement of its tree that is not met has a
place, when there is a tree and such a requirement. -/
theorem settles_iff : Settles home text ↔
    ∀ tree r, scan .start 0 0 text = .ok tree → firstUnmet tree.requirements = some r →
      r.isLocated = true := by
  rcases settles_or home text with ⟨hsettles, hall⟩ | ⟨tree, r, hscan, hfirst, hlocated, hread⟩
  · exact iff_of_true hsettles hall
  · refine iff_of_false ?_ fun hall => ?_
    · rintro (⟨ir, hok⟩ | ⟨line, column, cause, herror, -⟩)
      · rw [hread] at hok
        cases hok
      · rw [hread] at herror
        exact fault_ne_listing hlocated line column cause (Except.error.inj herror)
    · rw [hall tree r hscan hfirst] at hlocated
      cases hlocated

/-- A refusal at a line is at a line of the text. -/
theorem settles_of_listing {line column : Nat} {cause : ListingFault}
    (h : read home text = .error (.listing line column cause)) : Settles home text := by
  rcases settles_or home text with ⟨hsettles, -⟩ | ⟨tree, r, -, -, hlocated, hread⟩
  · exact hsettles
  · rw [h] at hread
    exact absurd (Except.error.inj hread).symm (fault_ne_listing hlocated line column cause)

end Listing
end SsaEdit
