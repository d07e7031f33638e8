/-
What gets lost in a listing.

A body that was read comes back from its listing as `IR.listed` says.  That is the same
body unless it holds a global whose name is a keyword, which comes back as a text, a
code point above U+FFFF, which comes back as its two halves, or the empty name of a
function, which comes back as none.  `IR.Lossless` says that it holds nothing of the
kind.

Every global that the reader makes belongs to the namespace it was given and has a word
for its name, so nothing else can change about a global.
-/
import SsaEdit.Proofs.Listing.Reformat
import SsaEdit.Value.Checked

namespace SsaEdit

/-! ## What comes back as it was -/

/-- The values that a node is built of. -/
def Node.values : Node → List Value
  | .call callee args => callee :: args
  | .branch _ cond => [cond]
  | .ret value => [value]
  | .phi incoming => incoming.map (·.2)
  | .const value => [value]
  | .global g => [.node (.global g)]
  | .argument index => [.node (.argument index)]

/-- A value that is no text with wide code points. -/
def Value.Narrow : Value → Prop
  | .text t => t.Narrow
  | _ => True

/-- A value of which a listing tells everything: no wide text, and no global with a
keyword for its name. -/
def Value.Kept : Value → Prop
  | .node (.global g) => Listing.Keyword.ofSpelling? g.name.toList = none
  | v => v.Narrow

structure LineInfo.Kept (info : LineInfo) : Prop where
  file : ∀ name ∈ info.file, name.Narrow
  function : ∀ name ∈ info.function, name ≠ [] ∧ name.Narrow

/-- A body of which its listing tells everything. -/
structure IR.Lossless (ir : IR) : Prop where
  name : ir.name.Narrow
  slots : ∀ slot ∈ ir.slots, slot.Narrow
  lines : ∀ info ∈ ir.lineTable, info.Kept
  types : ∀ s ∈ ir.body, s.type.Narrow
  values : ∀ s ∈ ir.body, ∀ v ∈ s.node.values, v.Kept

instance : DecidablePred Value.Narrow
  | .text t => inferInstanceAs (Decidable t.Narrow)
  | .null | .bool _ | .int _ | .float _ | .variable _ | .label _ | .callable _ | .foreign _
  | .list _ | .tuple _ | .unknown | .node _ | .statement _ _ => .isTrue trivial

instance : DecidablePred Value.Kept
  | .node (.global g) =>
    inferInstanceAs (Decidable (Listing.Keyword.ofSpelling? g.name.toList = none))
  | .text t => inferInstanceAs (Decidable t.Narrow)
  | .null | .bool _ | .int _ | .float _ | .variable _ | .label _ | .callable _ | .foreign _
  | .list _ | .tuple _ | .unknown | .statement _ _ | .node (.call _ _) | .node (.branch _ _)
  | .node (.ret _) | .node (.phi _) | .node (.const _) | .node (.argument _) => .isTrue trivial

instance : DecidablePred LineInfo.Kept := fun info =>
  decidable_of_iff ((∀ name ∈ info.file, name.Narrow) ∧
      ∀ name ∈ info.function, name ≠ [] ∧ name.Narrow)
    ⟨fun h => ⟨h.1, h.2⟩, fun h => ⟨h.file, h.function⟩⟩

instance : DecidablePred IR.Lossless := fun ir =>
  decidable_of_iff (ir.name.Narrow ∧ (∀ slot ∈ ir.slots, slot.Narrow) ∧
      (∀ info ∈ ir.lineTable, info.Kept) ∧ (∀ s ∈ ir.body, s.type.Narrow) ∧
      ∀ s ∈ ir.body, ∀ v ∈ s.node.values, v.Kept)
    ⟨fun h => ⟨h.1, h.2.1, h.2.2.1, h.2.2.2.1, h.2.2.2.2⟩,
      fun h => ⟨h.name, h.slots, h.lines, h.types, h.values⟩⟩

/-! ## Globals that were read -/

/-- A global is one that a reader of a namespace makes. -/
def Value.Bare (home : Namespace) : Value → Prop
  | .node (.global g) => g.home = home ∧ Listing.isWord g.name.toList = true
  | _ => True

/-- All globals of a body are such. -/
def IR.Bare (home : Namespace) (ir : IR) : Prop := ∀ s ∈ ir.body, ∀ v ∈ s.node.values, v.Bare home

namespace Listing

variable {text : List Char} {home : Namespace}

theorem bare_operand {t : Token} (ht : t.Lexed) {v : Value} (hv : t.operand home = .ok v) :
    v.Bare home := by
  rw [Token.Lexed] at ht
  rw [Token.operand] at hv
  split at hv
  case h_1 =>
    obtain ⟨n, -, rfl⟩ := map_eq_ok.1 hv
    trivial
  case h_2 =>
    obtain ⟨n, -, rfl⟩ := map_eq_ok.1 hv
    trivial
  case h_3 hname =>
    rw [hname] at ht
    injection hv with hv
    subst hv
    exact ⟨rfl, String.toList_ofList ▸ ht⟩
  case h_4 =>
    injection hv with hv
    subst hv
    have hliteral := literal_numeral t
    cases hnumeral : t.numeral with
    | node n =>
      rw [hnumeral] at hliteral
      cases hliteral
    | _ => trivial
  case h_5 =>
    obtain ⟨n, -, rfl⟩ := map_eq_ok.1 hv
    trivial
  all_goals
    injection hv with hv
    subst hv
    trivial

/-- A value that stands alone is the only one of its node. -/
theorem values_alone {v : Value} (hv : Constant home (v.listed home)) :
    (NodeTree.alone v).values = [v] := by
  cases v with
  | node n =>
    cases n with
    | argument | «global» => rfl
    | _ => cases hv
  | _ => rfl

/-- The values of a node that was read are those of tokens, but for the condition of a
branch that has none. -/
theorem exists_token_of_mem_values {tree : NodeTree} (h : tree.Lexed) {n : Node}
    (heval : tree.eval text home = .ok n) {v : Value} (hv : v ∈ n.values) :
    v = .null ∨ ∃ t : Token, t.Lexed ∧ t.operand home = .ok v := by
  cases tree with
  | call callee args =>
    obtain ⟨f, hf, heval⟩ := bind_eq_ok.1 heval
    obtain ⟨xs, hxs, heval⟩ := bind_eq_ok.1 heval
    injection heval with heval
    subst heval
    rcases List.mem_cons.1 hv with rfl | hv
    · exact Or.inr ⟨callee, h.1.lexed, hf⟩
    · obtain ⟨token, htoken, hvalue⟩ := exists_of_mem_mapM hxs hv
      exact Or.inr ⟨token, (h.2 token htoken).lexed, hvalue⟩
  | branch head target cond =>
    obtain ⟨l, -, heval⟩ := bind_eq_ok.1 heval
    cases cond with
    | none =>
      injection heval with heval
      subst heval
      exact Or.inl (List.mem_singleton.1 hv)
    | some token =>
      obtain ⟨value, hvalue, heval⟩ := bind_eq_ok.1 heval
      split at heval
      case isTrue => cases heval
      case isFalse =>
        injection heval with heval
        subst heval
        exact Or.inr ⟨token, (h.2.2 token rfl).lexed, List.mem_singleton.1 hv ▸ hvalue⟩
  | ret token =>
    obtain ⟨value, hvalue, rfl⟩ := map_eq_ok.1 heval
    exact Or.inr ⟨token, h.lexed, List.mem_singleton.1 hv ▸ hvalue⟩
  | phi edges =>
    obtain ⟨incoming, hincoming, rfl⟩ := map_eq_ok.1 heval
    obtain ⟨edge, hedge, rfl⟩ := List.mem_map.1 hv
    obtain ⟨pair, hpair, hboth⟩ := exists_of_mem_mapM hincoming hedge
    obtain ⟨l, -, hboth⟩ := bind_eq_ok.1 hboth
    obtain ⟨value, hvalue, hboth⟩ := bind_eq_ok.1 hboth
    injection hboth with hboth
    subst hboth
    exact Or.inr ⟨pair.2, (h pair hpair).2.lexed, hvalue⟩
  | plain token =>
    obtain ⟨value, hvalue, rfl⟩ := map_eq_ok.1 heval
    have hconstant : Constant home (value.listed home) := constant_listed h.1.lexed h.2 hvalue
    rw [values_alone hconstant, List.mem_singleton] at hv
    exact Or.inr ⟨token, h.1.lexed, hv ▸ hvalue⟩

theorem bare_node {tree : NodeTree} (h : tree.Lexed) {n : Node}
    (heval : tree.eval text home = .ok n) : ∀ v ∈ n.values, v.Bare home := by
  intro v hv
  rcases exists_token_of_mem_values h heval hv with rfl | ⟨t, ht, hvalue⟩
  · trivial
  · exact bare_operand ht hvalue

theorem bare_evalItem {ir after : IR} (h : ir.Bare home) {item : Item} (hitem : item.Lexed)
    (heval : item.eval text home ir = .ok after) : after.Bare home := by
  cases item with
  | line tree =>
    obtain ⟨info, -, heval⟩ := bind_eq_ok.1 heval
    injection heval with heval
    subst heval
    exact h
  | statement tree =>
    obtain ⟨found, hfound, heval⟩ := bind_eq_ok.1 heval
    injection heval with heval
    subst heval
    refine forall_mem_concat h ?_
    obtain ⟨-, -, -, node, -, -, hnode, rfl⟩ := StatementTree.of_eval hfound
    exact bare_node hitem.node hnode

theorem bare_of_read {ir : IR} (h : read home text = .ok ir) : ir.Bare home :=
  of_read (P := IR.Bare home) (fun _ _ => List.forall_mem_nil _)
    (fun _ _ _ hitem hafter hbefore => bare_evalItem hbefore hitem hafter) h

end Listing

/-! ## What is its own listing -/

namespace Text

theorem halved_eq_self_iff {t : Text} : t.halved = t ↔ t.Narrow := by
  refine ⟨fun h => h ▸ t.narrow_halved, fun h => ?_⟩
  induction t with
  | nil => rfl
  | cons p t ih =>
    have hrest : halved t = t := ih fun q hq => h q (List.mem_cons_of_mem _ hq)
    show p.units ++ halved t = p :: t
    rw [hrest, CodePoint.units_of_narrow (h p List.mem_cons_self)]
    rfl

end Text

theorem map_eq_self_iff {α : Type} {f : α → α} {xs : List α} :
    xs.map f = xs ↔ ∀ x ∈ xs, f x = x := by
  have hid : xs.map f = xs ↔ xs.map f = xs.map id := by rw [List.map_id]
  rw [hid, List.map_inj_left]
  rfl

section Listed

variable {home : Namespace}

theorem Value.halved_eq_self_iff {v : Value} : v.halved = v ↔ v.Narrow := by
  cases v with
  | text t =>
    show Value.text t.halved = .text t ↔ t.Narrow
    rw [Value.text.injEq, Text.halved_eq_self_iff]
  | _ => exact iff_of_true rfl trivial

theorem Value.listed_eq_self_iff {v : Value} (hbare : v.Bare home) : v.listed home = v ↔ v.Kept := by
  cases v with
  | node n =>
    cases n with
    | «global» g =>
      obtain ⟨rfl, hword⟩ := hbare
      show _ ↔ Listing.Keyword.ofSpelling? g.name.toList = none
      rw [Value.listed, hword, Bool.true_and]
      cases hkeyword : Listing.Keyword.ofSpelling? g.name.toList with
      | none => exact iff_of_true rfl rfl
      | some k =>
        refine iff_of_false (fun h => ?_) (Option.some_ne_none k)
        injection h
    | _ => exact iff_of_true rfl trivial
  | text t => exact @Value.halved_eq_self_iff (.text t)
  | _ => exact iff_of_true rfl trivial

/-- A node is its own listing when all of its values are. -/
theorem Node.listed_eq_self_iff (n : Node) :
    n.listed home = n ↔ ∀ v ∈ n.values, v.listed home = v := by
  cases n with
  | call callee args =>
    rw [Node.listed, Node.call.injEq, map_eq_self_iff, Node.values, List.forall_mem_cons]
  | branch target cond =>
    rw [Node.listed, Node.branch.injEq, Node.values, List.forall_mem_singleton,
      and_iff_right rfl]
  | ret value => rw [Node.listed, Node.ret.injEq, Node.values, List.forall_mem_singleton]
  | phi incoming =>
    rw [Node.listed, Node.phi.injEq, map_eq_self_iff, Node.values, List.forall_mem_map]
    exact forall₂_congr fun edge _ => by rw [Prod.ext_iff]; exact and_iff_right rfl
  | const value => rw [Node.listed, Node.const.injEq, Node.values, List.forall_mem_singleton]
  | «global» g =>
    rw [Node.listed, Node.values, List.forall_mem_singleton, Value.listed]
    split
    · show Node.global _ = _ ↔ Value.node (.global _) = _
      rw [Value.node.injEq]
    · exact iff_of_false (fun h => by injection h) fun h => by injection h
  | argument index => exact iff_of_true rfl (List.forall_mem_singleton.2 rfl)

theorem Statement.listed_eq_self_iff {s : Statement} (hbare : ∀ v ∈ s.node.values, v.Bare home) :
    s.listed home = s ↔ s.type.Narrow ∧ ∀ v ∈ s.node.values, v.Kept := by
  obtain ⟨node, type⟩ := s
  rw [Statement.listed, Statement.mk.injEq, Node.listed_eq_self_iff, Value.halved_eq_self_iff,
    and_comm]
  exact and_congr_right fun _ => forall₂_congr fun v hv => Value.listed_eq_self_iff (hbare v hv)

theorem map_halved_eq_self_iff {name : Option Text} :
    name.map Text.halved = name ↔ ∀ t ∈ name, t.Narrow := by
  cases name with
  | none => exact iff_of_true rfl fun _ h => by cases h
  | some t =>
    rw [Option.map_some, Option.some.injEq, Text.halved_eq_self_iff]
    exact ⟨fun h _ ht => Option.some.inj ht ▸ h, fun h => h t rfl⟩

/-- An empty name of a function does not come back. -/
theorem LineInfo.listedFunction_eq_self_iff {info : LineInfo} :
    info.listed.function = info.function ↔ ∀ t ∈ info.function, t ≠ [] ∧ t.Narrow := by
  obtain ⟨file, line, name⟩ := info
  cases name with
  | none => exact iff_of_true rfl fun _ h => by cases h
  | some t =>
    cases t with
    | nil => exact iff_of_false (fun h => by cases h) fun h => (h [] rfl).1 rfl
    | cons p t =>
      have hmap := @map_halved_eq_self_iff (some (p :: t))
      refine Iff.trans hmap (forall₂_congr fun name hname => ?_)
      exact (and_iff_right (Option.some.inj hname ▸ List.cons_ne_nil p t)).symm

theorem LineInfo.listed_eq_self_iff {info : LineInfo} : info.listed = info ↔ info.Kept := by
  have hfunction := @LineInfo.listedFunction_eq_self_iff info
  obtain ⟨file, line, function⟩ := info
  have hparts : LineInfo.listed ⟨file, line, function⟩ = ⟨file, line, function⟩ ↔
      file.map Text.halved = file ∧ (LineInfo.listed ⟨file, line, function⟩).function = function :=
    ⟨fun h => ⟨congrArg LineInfo.file h, congrArg LineInfo.function h⟩,
      fun h => LineInfo.mk.injEq _ _ _ _ _ _ ▸ ⟨h.1, rfl, h.2⟩⟩
  rw [hparts, map_halved_eq_self_iff, hfunction]
  exact ⟨fun h => ⟨h.1, h.2⟩, fun h => ⟨h.file, h.function⟩⟩

theorem IR.listed_eq_self_iff {ir : IR} (hbare : ir.Bare home) :
    ir.listed home = ir ↔ ir.Lossless := by
  have hslots : ir.slots.map Text.halved = ir.slots ↔ ∀ slot ∈ ir.slots, slot.Narrow :=
    map_eq_self_iff.trans (forall₂_congr fun _ _ => Text.halved_eq_self_iff)
  have hlines : ir.lineTable.map LineInfo.listed = ir.lineTable ↔
      ∀ info ∈ ir.lineTable, info.Kept :=
    map_eq_self_iff.trans (forall₂_congr fun _ _ => LineInfo.listed_eq_self_iff)
  have hbody : ir.body.map (Statement.listed home) = ir.body ↔
      ∀ s ∈ ir.body, s.type.Narrow ∧ ∀ v ∈ s.node.values, v.Kept :=
    map_eq_self_iff.trans (forall₂_congr fun s hs => Statement.listed_eq_self_iff (hbare s hs))
  obtain ⟨name, nargs, slots, lineTable, body, locations, metadata⟩ := ir
  rw [IR.listed, IR.mk.injEq, Text.halved_eq_self_iff, hslots, hlines, hbody]
  constructor
  · rintro ⟨hname, -, hslots, hlines, hbody, -⟩
    exact ⟨hname, hslots, hlines, fun s hs => (hbody s hs).1, fun s hs => (hbody s hs).2⟩
  · intro h
    exact ⟨h.name, rfl, h.slots, h.lines, fun s hs => ⟨h.types s hs, h.values s hs⟩, rfl, rfl⟩

end Listed

/-! ## Coming back -/

namespace Listing

variable {text : List Char} {home : Namespace}

/-- The listing of a body that was read reads as what it stands for, and so as that body
exactly if nothing of it gets lost. -/
theorem reread_eq_iff {ir : IR} (h : read home text = .ok ir) :
    read home (print ir) = .ok (ir.listed home) ∧
      (read home (print ir) = .ok ir ↔ ir.Lossless) := by
  have hreread := read_print_listed h home
  refine ⟨hreread, ?_⟩
  rw [hreread, Except.ok.injEq, IR.listed_eq_self_iff (bare_of_read h)]

/-- A listing with keywords for names wherever they come back. -/
def keywordNames : List Char :=
  ("ir loc(in, \"phi\") \x7b loc \"\":3 in unless\n%1 = call lt($1, \"call\") :: none @0\n" ++
    "%2 = return \"\\x41\"\x7d").toList

theorem reread_keywordNames :
    ∃ ir, read (.named "main") keywordNames = .ok ir ∧
      read (.named "main") (print ir) = .ok ir := by
  have hkept : (read (.named "main") keywordNames).toOption.map (fun ir => decide ir.Lossless) =
      some true := by
    decide +kernel
  cases hread : read (.named "main") keywordNames with
  | error fault =>
    rw [hread] at hkept
    cases hkept
  | ok ir =>
    rw [hread] at hkept
    have hlossless : ir.Lossless := of_decide_eq_true (Option.some.inj hkept)
    exact ⟨ir, rfl, (reread_eq_iff hread).2.2 hlossless⟩

/-- A call of a global whose name is a keyword. -/
def keywordCallee : List Char := "ir f() \x7b %1 = call loc() \x7d".toList

/-- Its callee comes back as a text. -/
theorem callee_lost_keywordCallee :
    ¬ ∀ (home : Namespace) (text : List Char) (ir : IR), read home text = .ok ir →
      read home (print ir) = .ok ir := by
  intro hall
  have hcalls : (read (.named "main") keywordCallee).toOption.map
      (fun ir => ir.code.map Node.callsGlobal) = some [true] := by decide +kernel
  have hback : ((read (.named "main") keywordCallee).toOption.bind fun ir =>
      (read (.named "main") (print ir)).toOption.map fun back => back.code.map Node.callsGlobal) =
        some [false] := by decide +kernel
  cases hread : read (.named "main") keywordCallee with
  | error fault =>
    rw [hread] at hcalls
    cases hcalls
  | ok ir =>
    rw [hread] at hcalls hback
    have hsame : (read (.named "main") (print ir)).toOption = some ir :=
      congrArg Except.toOption (hall _ _ _ hread)
    have hlost : (read (.named "main") (print ir)).toOption.map
        (fun back => back.code.map Node.callsGlobal) = some [false] := hback
    rw [hsame] at hlost
    exact absurd (hcalls.symm.trans hlost) (by decide)

end Listing
end SsaEdit
