/-
How a text is laid out in the body that is read from it.

A text whose tokens all have values reads as a body exactly if every statement follows
its rules, and if not, the fault is at the first that breaks one.

Statements and lines may be mixed in any way.  Each of the two kinds comes out in the
order of the text, and a statement leaves its node, its type and its location at the
same place of the three lists.
-/
import SsaEdit.Proofs.Listing.Derivation
import SsaEdit.Proofs.Listing.Reformat
import SsaEdit.Proofs.Listing.Rules

namespace SsaEdit
namespace Listing

/-! ## What comes out -/

def Item.line? : Item → Option LineTree
  | .line tree => some tree
  | .statement _ => none

/-- The entries of the line table in the order of the text. -/
def Tree.lines (t : Tree) : List LineTree := t.items.filterMap Item.line?

variable {text : List Char} {home : Namespace}

/-- An entry of the line table is the one that was written, an empty file name being
none. -/
structure LineTree.Gives (t : LineTree) (info : LineInfo) : Prop where
  file : ∃ name, t.file.text = .ok name ∧ info.file = if name.isEmpty then none else some name
  line : info.line = digitsValue t.line.chars
  function : t.function.mapM Token.text = .ok info.function

/-- The location that is written after a statement, or 0. -/
def StatementTree.locationValue (t : StatementTree) : Value :=
  match t.location with
  | some digits => .int (digitsValue digits.chars)
  | none => .int 0

/-- A statement has the node that was written and the type written after it, if one is. -/
structure StatementTree.Gives (text : List Char) (home : Namespace) (t : StatementTree)
    (s : Statement) : Prop where
  node : t.node.eval text home = .ok s.node
  type : ∃ name, t.type.mapM Token.text = .ok name ∧ s.type = name.elim .unknown .text

/-- A body is what a tree spells, part by part. -/
structure Tree.Lays (text : List Char) (home : Namespace) (t : Tree) (ir : IR) : Prop where
  name : t.name.text = .ok ir.name
  slots : t.slots.mapM Token.text = .ok ir.slots
  nargs : ir.nargs = .int t.slots.length
  lines : List.Forall₂ LineTree.Gives t.lines ir.lineTable
  body : List.Forall₂ (StatementTree.Gives text home) t.statements ir.body
  locations : ir.locations = t.statements.map StatementTree.locationValue

theorem gives_of_evalLine {tree : LineTree} {info : LineInfo} (h : tree.eval = .ok info) :
    tree.Gives info := by
  obtain ⟨function, hfunction, h⟩ := bind_eq_ok.1 h
  obtain ⟨file, hfile, h⟩ := bind_eq_ok.1 h
  obtain ⟨line, hline, h⟩ := bind_eq_ok.1 h
  cases h
  exact ⟨⟨file, hfile, rfl⟩, congrArg Int.ofNat (digitsValue_of_natOf hline).symm, hfunction⟩

theorem gives_of_evalStatement {tree : StatementTree} {expected : Nat} {found : Statement × Value}
    (h : tree.eval text home expected = .ok found) :
    tree.Gives text home found.1 ∧ found.2 = tree.locationValue := by
  obtain ⟨-, type, location, node, htype, hlocation, hnode, rfl⟩ := StatementTree.of_eval h
  refine ⟨⟨hnode, type, htype, rfl⟩, ?_⟩
  rw [StatementTree.locationValue]
  cases hdigits : tree.location with
  | none =>
    rw [hdigits] at hlocation
    cases hlocation
    rfl
  | some digits =>
    rw [hdigits] at hlocation
    obtain ⟨n, hn, rfl⟩ := map_eq_ok.1 hlocation
    exact congrArg (fun n : Nat => Value.int n) (digitsValue_of_natOf hn).symm

/-- Items add their entries, statements and locations behind those that are there. -/
theorem exists_of_evalItems {items : List Item} {ir after : IR}
    (h : items.foldlM (Item.eval text home) ir = .ok after) :
    ∃ infos body, List.Forall₂ LineTree.Gives (items.filterMap Item.line?) infos ∧
      List.Forall₂ (StatementTree.Gives text home) (items.filterMap Item.statement?) body ∧
        after = { ir with
          lineTable := ir.lineTable ++ infos
          body := ir.body ++ body
          locations := ir.locations ++
            (items.filterMap Item.statement?).map StatementTree.locationValue } := by
  induction items generalizing ir with
  | nil =>
    cases h
    exact ⟨[], [], .nil, .nil, by simp⟩
  | cons item rest ih =>
    rw [List.foldlM_cons] at h
    obtain ⟨next, hnext, h⟩ := bind_eq_ok.1 h
    obtain ⟨infos, body, hlines, hbody, rfl⟩ := ih h
    cases item with
    | line tree =>
      obtain ⟨info, hinfo, hnext⟩ := bind_eq_ok.1 hnext
      cases hnext
      refine ⟨info :: infos, body, .cons (gives_of_evalLine hinfo) hlines, hbody, ?_⟩
      simp [Item.statement?, List.filterMap_cons]
    | statement tree =>
      obtain ⟨⟨s, location⟩, hfound, hnext⟩ := bind_eq_ok.1 hnext
      cases hnext
      obtain ⟨hs, rfl⟩ := gives_of_evalStatement hfound
      refine ⟨infos, s :: body, hlines, .cons hs hbody, ?_⟩
      simp [Item.statement?]

theorem lays_of_eval {tree : Tree} {ir : IR} (h : tree.eval text home = .ok ir) :
    tree.Lays text home ir := by
  obtain ⟨name, hname, h⟩ := bind_eq_ok.1 h
  obtain ⟨slots, hslots, h⟩ := bind_eq_ok.1 h
  obtain ⟨infos, body, hlines, hbody, rfl⟩ := exists_of_evalItems h
  have hcount : slots.length = tree.slots.length := length_of_mapM hslots
  exact
    { name := hname
      slots := hslots
      nargs := congrArg (fun n : Nat => Value.int n) hcount
      lines := hlines
      body := hbody
      locations := rfl }

/-! ## Reading -/

/-- A text that is a tree and whose tokens all have values.  The text consists of the pieces
of the tree.  It reads as a body exactly if the statements are in order; if they are not,
it is refused at the token where the first of them breaks a rule.  The body is what the
tree spells. -/
theorem read_laidOut (home : Namespace) {text : List Char} {tree : Tree}
    (hscan : scan .start 0 0 text = .ok tree) (hdecodes : ∀ t ∈ tree.tokens, t.decodes = true) :
    tree.Derives text ∧
      ((∃ ir, read home text = .ok ir) ↔ InOrder 1 tree.statements) ∧
        (¬InOrder 1 tree.statements →
          ∃ token cause, FirstBreach 1 tree.statements token cause ∧
            read home text = .error (faultAt text token.start cause)) ∧
          ∀ ir, read home text = .ok ir → tree.Lays text home ir := by
  have hderives : tree.Derives text := derives_of_scan hscan
  have hdecoded : Decoded tree.pieces := fun t ht => hdecodes t (Tree.mem_tokens.2 ht)
  have hread : read home text = tree.eval text home := read_of_scan hscan
  have hfirst : firstUnmet tree.requirements = firstUnmet (rulesFrom 1 tree.statements) :=
    located_tree tree ▸ (sound_tree hderives.lexed hdecoded).firstUnmet_eq
  have hfollows : Follows text tree.requirements (read home text) := hread ▸ tree_follows tree
  rw [Follows, hfirst] at hfollows
  have hlays : ∀ ir, read home text = .ok ir → tree.Lays text home ir :=
    fun ir hir => lays_of_eval (hread ▸ hir)
  refine ⟨hderives, ?_⟩
  rcases statements_cases (lexed_of_mem_statements hderives.lexed) 1 with
    ⟨hmet, horder⟩ | ⟨token, cause, ⟨r, hr, hfault⟩, hbreach⟩
  · rw [hmet] at hfollows
    exact ⟨iff_of_true hfollows horder, fun h => absurd horder h, hlays⟩
  · rw [hr] at hfollows
    have herror : read home text = .error (faultAt text token.start cause) :=
      hfault text ▸ hfollows
    refine ⟨iff_of_false ?_ hbreach.not_inOrder, fun _ => ⟨token, cause, hbreach, herror⟩, hlays⟩
    rintro ⟨ir, hir⟩
    exact ok_ne_error ir _ (hir.symm.trans herror)

/-- Lines before, between and after statements, a number with zeros in front, and types and
locations left out. -/
def interleaved : List Char :=
  ("ir f(self, \"x\") \x7b loc \"m.py\":3 %1 = $2 @4 loc \"m.py\":07 in f\n" ++
    "%002 = br #1 unless %1 :: Bool\n%3 = return none :: \"\" @0 loc \"\":8\x7d").toList

theorem read_laidOut_interleaved :
    ∃ tree ir, scan .start 0 0 interleaved = .ok tree ∧
      (∀ t ∈ tree.tokens, t.decodes = true) ∧ read (.named "main") interleaved = .ok ir ∧
        tree.Derives interleaved ∧ InOrder 1 tree.statements ∧
          tree.Lays interleaved (.named "main") ir := by
  have hchecks : ((scan .start 0 0 interleaved).toOption.map fun tree =>
      tree.tokens.all Token.decodes && (tree.eval interleaved (.named "main")).isOk) =
        some true := by decide +kernel
  cases hscan : scan .start 0 0 interleaved with
  | error offset =>
    rw [hscan] at hchecks
    cases hchecks
  | ok tree =>
    rw [hscan] at hchecks
    obtain ⟨hdecodes, hok⟩ := Bool.and_eq_true_iff.1 (Option.some.inj hchecks)
    have hall : ∀ t ∈ tree.tokens, t.decodes = true := List.all_eq_true.1 hdecodes
    obtain ⟨hderives, horder, -, hlays⟩ := read_laidOut (.named "main") hscan hall
    rw [← read_of_scan hscan] at hok
    cases hread : read (.named "main") interleaved with
    | error fault =>
      rw [hread] at hok
      cases hok
    | ok ir => exact ⟨tree, ir, rfl, hall, rfl, hderives, horder.1 ⟨ir, hread⟩, hlays ir hread⟩

/-- The branch on the absent value comes first, so the number after it does not matter. -/
example :
    (match read (.named "main") "ir f() \x7b\n\t%1 = br #1 unless none\n\t%3 = $1\x7d".toList with
      | .error (.listing 2 7 .absentCondition) => true
      | _ => false) = true := by
  decide +kernel

end Listing
end SsaEdit
