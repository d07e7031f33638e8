/-
Formatting a listing once more.

The reader takes many spellings that the printer never writes, and a listing may read
as another body than it was printed from.  But every number that was read is short
and every bare name a word, so what the listing stands for can be printed, and that is
what the listing reads as.  The two bodies have one listing.
-/
import SsaEdit.Proofs.Listing.Lexed
import SsaEdit.Proofs.Listing.Listed
import SsaEdit.Proofs.Listing.RoundTrip
import SsaEdit.Proofs.Results

namespace SsaEdit

/-! ## Numbers that were read -/

theorem digitsValue_singleton_lt {c : Char} (hc : c.isDigit = true) : digitsValue [c] < 10 := by
  simp only [Char.isDigit, Bool.and_eq_true, decide_eq_true_eq] at hc
  have hhigh : c.toNat ≤ 57 := hc.2
  have hzero : '0'.toNat = 48 := rfl
  rw [digitsValue, Nat.ofDigitChars_cons, Nat.ofDigitChars_nil, hzero]
  omega

theorem digitsValue_lt {digits : List Char} (h : AllDigits digits) :
    digitsValue digits < 10 ^ digits.length := by
  induction digits with
  | nil => decide
  | cons c rest ih =>
    have hfirst : digitsValue [c] < 10 := digitsValue_singleton_lt (h c List.mem_cons_self)
    have hrest : digitsValue rest < 10 ^ rest.length :=
      ih fun d hd => h d (List.mem_cons_of_mem _ hd)
    calc digitsValue (c :: rest)
        = 10 ^ rest.length * digitsValue [c] + digitsValue rest := digitsValue_append [c] rest
      _ < 10 ^ rest.length * digitsValue [c] + 10 ^ rest.length := Nat.add_lt_add_left hrest _
      _ = 10 ^ rest.length * (digitsValue [c] + 1) := rfl
      _ ≤ 10 ^ rest.length * 10 := Nat.mul_le_mul_left _ hfirst
      _ = 10 ^ (c :: rest).length := rfl

namespace Listing

theorem short_digitsValue {digits : List Char} (h : AllDigits digits)
    (hlength : digits.length ≤ maxDigits) : Short (digitsValue digits) :=
  short_iff.2 (Nat.lt_of_lt_of_le (digitsValue_lt h) (Nat.pow_le_pow_right (by decide) hlength))

theorem short_of_natOf {digits : List Char} (h : AllDigits digits) {n : Nat}
    (hn : natOf digits = .ok n) : Short n := by
  rw [natOf] at hn
  split at hn
  case isTrue hlength =>
    injection hn with hn
    exact hn ▸ short_digitsValue h hlength
  case isFalse => cases hn

theorem literal_numeral (t : Token) : Literal t.numeral := by
  rw [Token.numeral]
  split
  case h_1 n rest hread =>
    split
    case h_1 value hvalue =>
      split
      case isTrue hlength =>
        show Short value.natAbs
        rw [Numeral.natAbs_integer? hvalue]
        exact short_digitsValue (Numeral.allDigits_whole hread) hlength
      case isFalse => trivial
    case h_2 => trivial
  case h_2 => trivial

/-! ## Operands and nodes -/

variable {text : List Char} {home again : Namespace}

theorem short_of_number {t : Token} (h : AllDigits t.chars.tail) {n : Nat}
    (hn : t.number = .ok n) : Short n := short_of_natOf h hn

theorem short_of_label {t : Token} (ht : t.Is .label) {l : Label} (hl : t.label = .ok l) :
    Short l.id := by
  have hlexed := ht.lexed
  rw [Token.Lexed, ht.kind] at hlexed
  obtain ⟨n, hn, rfl⟩ := map_eq_ok.1 hl
  exact short_of_number hlexed hn

theorem Constant.operand {v : Value} (hv : Constant home v) : Operand home v := by
  cases v with
  | «variable» => cases hv
  | _ => exact hv

/-- A bare name that was read is a name again, or a text if it is a keyword. -/
theorem constant_listed_global {name : String} (hword : isWord name.toList = true) :
    Constant again ((Value.node (.global ⟨home, name⟩)).listed again) := by
  rw [Value.listed]
  split
  case isTrue hbare =>
    exact ⟨rfl, hword, Option.isNone_iff_eq_none.1 (Bool.and_eq_true_iff.1 hbare).2⟩
  case isFalse => exact Text.narrow_halved _

theorem constant_listed_literal {v : Value} (hv : Literal v) :
    Constant again (v.listed again) := by
  cases v with
  | text t => exact Text.narrow_halved t
  | null | bool | int | float => exact hv
  | _ => cases hv

theorem constant_listed {t : Token} (ht : t.Lexed) (hkind : t.kind ≠ .variable) {v : Value}
    (hv : t.operand home = .ok v) : Constant again (v.listed again) := by
  rw [Token.Lexed] at ht
  rw [Token.operand] at hv
  split at hv
  case h_1 hvariable => exact absurd hvariable hkind
  case h_2 hargument =>
    rw [hargument] at ht
    obtain ⟨index, hindex, rfl⟩ := map_eq_ok.1 hv
    obtain ⟨n, hn, hcast⟩ := bind_eq_ok.1 hindex
    injection hcast with hcast
    subst hcast
    exact ⟨Int.natCast_nonneg n, short_of_number ht hn⟩
  case h_3 hname =>
    rw [hname] at ht
    injection hv with hv
    subst hv
    exact constant_listed_global (String.toList_ofList ▸ ht)
  case h_4 =>
    injection hv with hv
    subst hv
    exact constant_listed_literal (literal_numeral t)
  case h_5 =>
    obtain ⟨text, -, rfl⟩ := map_eq_ok.1 hv
    exact Text.narrow_halved text
  all_goals
    injection hv with hv
    subst hv
    trivial

theorem operand_listed {t : Token} (ht : t.IsOperand) {v : Value} (hv : t.operand home = .ok v) :
    Operand again (v.listed again) := by
  have hlexed := ht.lexed
  by_cases hkind : t.kind = .variable
  · rw [Token.Lexed, hkind] at hlexed
    simp only [Token.operand, hkind] at hv
    obtain ⟨n, hn, rfl⟩ := map_eq_ok.1 hv
    exact short_of_number hlexed hn
  · exact (constant_listed hlexed hkind hv).operand

theorem printableNode_alone {v : Value} (hv : Constant home v) :
    PrintableNode home (NodeTree.alone v) := by
  cases v with
  | node n =>
    cases n with
    | argument | «global» => exact hv
    | _ => cases hv
  | _ => exact hv

theorem alone_listed {v : Value} (hv : Constant again (v.listed again)) :
    (NodeTree.alone v).listed again = NodeTree.alone (v.listed again) := by
  cases v with
  | node n =>
    cases n with
    | argument | «global» => rfl
    | _ => cases hv
  | _ => rfl

theorem printableEdge_listed {pair : Token × Token} (hlabel : pair.1.Is .label)
    (hoperand : pair.2.IsOperand) {edge : Label × Value}
    (heval : NodeTree.edge home pair = .ok edge) :
    Short edge.1.id ∧ Operand again (edge.2.listed again) := by
  obtain ⟨l, hl, heval⟩ := bind_eq_ok.1 heval
  obtain ⟨v, hv, heval⟩ := bind_eq_ok.1 heval
  injection heval with heval
  subst heval
  exact ⟨short_of_label hlabel hl, operand_listed hoperand hv⟩

theorem printableNode_listed {tree : NodeTree} (h : tree.Lexed) {n : Node}
    (heval : tree.eval text home = .ok n) : PrintableNode again (n.listed again) := by
  cases tree with
  | call callee args =>
    obtain ⟨f, hf, heval⟩ := bind_eq_ok.1 heval
    obtain ⟨xs, hxs, heval⟩ := bind_eq_ok.1 heval
    injection heval with heval
    subst heval
    refine ⟨operand_listed h.1 hf, ?_⟩
    intro arg harg
    obtain ⟨x, hx, rfl⟩ := List.mem_map.1 harg
    obtain ⟨token, htoken, hvalue⟩ := exists_of_mem_mapM hxs hx
    exact operand_listed (h.2 token htoken) hvalue
  | branch head target cond =>
    obtain ⟨l, hl, heval⟩ := bind_eq_ok.1 heval
    cases cond with
    | none =>
      injection heval with heval
      subst heval
      exact ⟨short_of_label h.2.1 hl, trivial⟩
    | some token =>
      obtain ⟨v, hv, heval⟩ := bind_eq_ok.1 heval
      cases hnull : v.isNull with
      | true =>
        rw [hnull] at heval
        cases heval
      | false =>
        rw [hnull] at heval
        injection heval with heval
        subst heval
        exact ⟨short_of_label h.2.1 hl, operand_listed (h.2.2 token rfl) hv⟩
  | ret value =>
    obtain ⟨v, hv, rfl⟩ := map_eq_ok.1 heval
    exact operand_listed h hv
  | phi edges =>
    obtain ⟨incoming, hincoming, rfl⟩ := map_eq_ok.1 heval
    intro edge hedge
    obtain ⟨found, hfound, rfl⟩ := List.mem_map.1 hedge
    obtain ⟨pair, hpair, hvalue⟩ := exists_of_mem_mapM hincoming hfound
    exact printableEdge_listed (h pair hpair).1 (h pair hpair).2 hvalue
  | plain value =>
    obtain ⟨v, hv, rfl⟩ := map_eq_ok.1 heval
    have hconstant : Constant again (v.listed again) := constant_listed h.1.lexed h.2 hv
    rw [alone_listed hconstant]
    exact printableNode_alone hconstant

/-! ## Items -/

theorem short_of_digits {t : Token} (ht : t.Is .digits) {n : Nat} (hn : natOf t.chars = .ok n) :
    Short n := by
  have hlexed := ht.lexed
  rw [Token.Lexed, ht.kind] at hlexed
  exact short_of_natOf hlexed hn

theorem printableName_halved {t : Text} (ht : t ≠ []) : PrintableName (some t.halved) :=
  ⟨fun hnil => ht (Text.halved_eq_nil.1 hnil), Text.narrow_halved t⟩

theorem printableLine_listed {tree : LineTree} (h : tree.line.Is .digits) {info : LineInfo}
    (heval : tree.eval = .ok info) : PrintableLine info.listed := by
  obtain ⟨function, -, heval⟩ := bind_eq_ok.1 heval
  obtain ⟨file, -, heval⟩ := bind_eq_ok.1 heval
  obtain ⟨line, hline, heval⟩ := bind_eq_ok.1 heval
  injection heval with heval
  subst heval
  refine ⟨Int.natCast_nonneg line, short_of_digits h hline, ?_, ?_⟩
  · cases file with
    | nil => trivial
    | cons p t => exact printableName_halved (List.cons_ne_nil p t)
  · cases function with
    | none => trivial
    | some name =>
      cases name with
      | nil => trivial
      | cons p t => exact printableName_halved (List.cons_ne_nil p t)

theorem printableLocation_of_digits {digits : Option Token}
    (h : ∀ token ∈ digits, token.Is .digits) {location : Option Nat}
    (heval : (digits.mapM fun token => natOf token.chars) = .ok location) :
    PrintableLocation (.int (location.getD 0)) := by
  cases digits with
  | none =>
    injection heval with heval
    subst heval
    exact (by decide : PrintableLocation (.int 0))
  | some token =>
    obtain ⟨n, hn, rfl⟩ := map_eq_ok.1 heval
    exact ⟨Int.natCast_nonneg n, short_of_digits (h token rfl) hn⟩

/-- What a statement that was read can be printed as, at its place. -/
structure PrintableAt (home : Namespace) (number : Nat) (s : Statement) (location : Value) :
    Prop where
  short : Short number
  node : PrintableNode home s.node
  type : PrintableType s.type
  location : PrintableLocation location

/-- A statement that was read has the number that was expected, and the type, the location
and the node that were read for it. -/
theorem StatementTree.of_eval {tree : StatementTree} {expected : Nat}
    {found : Statement × Value} (heval : tree.eval text home expected = .ok found) :
    tree.number.number = .ok expected ∧
      ∃ (type : Option Text) (location : Option Nat) (node : Node),
        tree.type.mapM Token.text = .ok type ∧
          (tree.location.mapM fun digits => natOf digits.chars) = .ok location ∧
            tree.node.eval text home = .ok node ∧
              found = (⟨node, type.elim .unknown .text⟩, .int (location.getD 0)) := by
  obtain ⟨number, hnumber, hrest⟩ := bind_eq_ok.1 heval
  split at hrest
  case isTrue => cases hrest
  case isFalse hsame =>
    obtain ⟨type, htype, hrest⟩ := bind_eq_ok.1 hrest
    obtain ⟨location, hplace, hrest⟩ := bind_eq_ok.1 hrest
    obtain ⟨node, hnode, hrest⟩ := bind_eq_ok.1 hrest
    injection hrest with hrest
    refine ⟨Decidable.of_not_not hsame ▸ hnumber, type, location, node, htype, hplace, hnode, ?_⟩
    cases type with
    | none => exact hrest.symm
    | some name => exact hrest.symm

theorem printableAt_listed {tree : StatementTree} (h : (Item.statement tree).Lexed)
    {expected : Nat} {found : Statement × Value}
    (heval : tree.eval text home expected = .ok found) :
    PrintableAt again expected (found.1.listed again) found.2 := by
  obtain ⟨hdigits, hlexed, -, hplace⟩ := h
  obtain ⟨hnumber, type, location, node, -, hlocation, hnode, rfl⟩ := StatementTree.of_eval heval
  have hindex := hdigits.lexed
  rw [Token.Lexed, hdigits.kind] at hindex
  refine ⟨short_of_number hindex hnumber, printableNode_listed hlexed hnode, ?_,
    printableLocation_of_digits hplace hlocation⟩
  cases type with
  | none => trivial
  | some name => exact Text.narrow_halved name

/-! ## Bodies -/

theorem Printable.addLine {ir : IR} (h : Printable home ir) {info : LineInfo}
    (hinfo : PrintableLine info) :
    Printable home { ir with lineTable := ir.lineTable ++ [info] } :=
  { h with lines := forall_mem_concat h.lines hinfo }

theorem Printable.addStatement {ir : IR} (h : Printable home ir) {s : Statement} {location : Value}
    (hs : PrintableAt home (ir.size + 1) s location) :
    Printable home
      { ir with body := ir.body ++ [s], locations := ir.locations ++ [location] } where
  metadata := h.metadata
  nargs := h.nargs
  located := by
    have hlocated : ir.locations.length = ir.body.length := h.located
    simp [IR.size, hlocated]
  short := by
    have hshort : Short (ir.body.length + 1) := hs.short
    simpa [IR.size] using hshort
  name := h.name
  slots := h.slots
  lines := h.lines
  nodes := forall_mem_concat h.nodes hs.node
  types := forall_mem_concat h.types hs.type
  locations := forall_mem_concat h.locations hs.location

theorem printable_evalItem {ir after : IR} (h : Printable again (ir.listed again)) {item : Item}
    (hitem : item.Lexed) (heval : item.eval text home ir = .ok after) :
    Printable again (after.listed again) := by
  cases item with
  | line tree =>
    obtain ⟨info, hinfo, heval⟩ := bind_eq_ok.1 heval
    injection heval with heval
    subst heval
    have hlisted : IR.listed again { ir with lineTable := ir.lineTable ++ [info] } =
        { ir.listed again with lineTable := (ir.listed again).lineTable ++ [info.listed] } := by
      simp [IR.listed]
    rw [hlisted]
    exact h.addLine (printableLine_listed hitem.line hinfo)
  | statement tree =>
    obtain ⟨found, hfound, heval⟩ := bind_eq_ok.1 heval
    injection heval with heval
    subst heval
    have hsize : (ir.listed again).size = ir.size := List.length_map _
    have hlisted : IR.listed again
        { ir with body := ir.body ++ [found.1], locations := ir.locations ++ [found.2] } =
        { ir.listed again with
          body := (ir.listed again).body ++ [found.1.listed again]
          locations := (ir.listed again).locations ++ [found.2] } := by
      simp [IR.listed]
    rw [hlisted]
    exact h.addStatement (hsize ▸ printableAt_listed hitem hfound)

/-- What a body that was read was made of. -/
theorem exists_tree_of_read {ir : IR} (h : read home text = .ok ir) :
    ∃ tree : Tree, tree.Lexed ∧ tree.eval text home = .ok ir := by
  obtain ⟨tree, htree, heval⟩ := bind_eq_ok.1 h
  refine ⟨tree, ?_, heval⟩
  have hscan : scan .start 0 0 text = .ok tree := by
    rw [readTree] at htree
    split at htree
    case h_1 found hfound =>
      injection htree with htree
      exact htree ▸ hfound
    case h_2 => cases htree
  have hstart : State.start.Lexed := trivial
  exact lexed_of_scan hstart hscan

/-- What holds of every body without an item, and is kept by every item, holds of what is
read. -/
theorem of_read {P : IR → Prop}
    (hempty : ∀ name slots, P ⟨name, .int slots.length, slots, [], [], [], []⟩)
    (hitem : ∀ (item : Item) (before after : IR), item.Lexed →
      item.eval text home before = .ok after → P before → P after)
    {ir : IR} (h : read home text = .ok ir) : P ir := by
  obtain ⟨tree, hlexed, heval⟩ := exists_tree_of_read h
  obtain ⟨name, -, heval⟩ := bind_eq_ok.1 heval
  obtain ⟨slots, -, heval⟩ := bind_eq_ok.1 heval
  exact foldlM_keeps (fun item hmem before after hbefore hafter =>
    hitem item before after (hlexed.items item hmem) hafter hbefore) (hempty name slots) heval

/-- What the listing of a body that was read stands for can be printed. -/
theorem printable_listed {ir : IR} (h : read home text = .ok ir) :
    Printable again (ir.listed again) := by
  refine of_read (P := fun ir => Printable again (ir.listed again)) (fun name slots => ?_)
    (fun item before after hitem hafter hbefore => printable_evalItem hbefore hitem hafter) h
  exact
    { metadata := rfl
      nargs := by simp [IR.listed]
      located := rfl
      short := (by decide : Short 0)
      name := Text.narrow_halved name
      slots := by
        intro slot hslot
        obtain ⟨t, -, rfl⟩ := List.mem_map.1 hslot
        exact Text.narrow_halved t
      lines := List.forall_mem_nil _
      nodes := List.forall_mem_nil _
      types := List.forall_mem_nil _
      locations := List.forall_mem_nil _ }

/-- What is read from the listing of a body that was read. -/
theorem read_print_listed {ir : IR} (h : read home text = .ok ir) (again : Namespace) :
    read again (print ir) = .ok (ir.listed again) := by
  have hreads : Reads .start (print ir) fun tree =>
      tree.eval (print ir) again = .ok (ir.listed again) := by
    rw [← print_listed again ir]
    exact reads_print (printable_listed h)
  obtain ⟨tree, hscan, heval⟩ := hreads 0 0
  rw [read, readTree, hscan]
  exact heval

/-- The listing of a body that was read is read again, in every namespace, and the
listing of what it reads as is the same. -/
theorem print_read_print {ir : IR} (h : read home text = .ok ir) (again : Namespace) :
    ∃ back, read again (print ir) = .ok back ∧ print back = print ir :=
  ⟨ir.listed again, read_print_listed h again, print_listed again ir⟩

/-- A text that spells next to nothing as the printer does. -/
def oddSpellings : List Char :=
  ("ir call(\"in\")\x7b;odd\nloc \"\":007 in \"\" %01=call loc(+1e3,\"\\x41😀\")::phi\n" ++
    "%2=br#02 unless in\x7d").toList

/-- Its normal form. -/
def normalSpellings : List Char :=
  ("ir \"call\"(\"in\") \x7b\n\tloc \"\":7\n" ++
    "\t%1 = call \"loc\"(1000.0, \"A\\ud83d\\ude00\") :: \"phi\"\n" ++
    "\t%2 = br #2 unless \"in\"\n\x7d\n").toList

theorem print_read_print_oddSpellings :
    ∃ ir, read (.named "main") oddSpellings = .ok ir ∧ print ir = normalSpellings ∧
      ∃ back, read (.named "main") (print ir) = .ok back ∧ print back = print ir := by
  have hlisting : (read (.named "main") oddSpellings).toOption.map print = some normalSpellings := by
    decide +kernel
  cases hread : read (.named "main") oddSpellings with
  | error fault =>
    rw [hread] at hlisting
    cases hlisting
  | ok ir =>
    rw [hread] at hlisting
    exact ⟨ir, rfl, Option.some.inj hlisting, print_read_print hread (.named "main")⟩

end Listing
end SsaEdit
