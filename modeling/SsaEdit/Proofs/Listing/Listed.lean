/-
What a listing stands for.

A body may hold more than its listing tells.  The names of globals that are keywords
are printed as text literals, wide code points as their halves, and an empty function
name not at all.  `IR.listed` is the body that a reader of a namespace makes of the
listing; by `print_listed` it has the same listing.
-/
import SsaEdit.Proofs.Listing.Plain
import SsaEdit.Proofs.Text.Halved

namespace SsaEdit

/-- A value with its text split, if it is a text. -/
def Value.halved : Value → Value
  | .text t => .text t.halved
  | v => v

/-- What an operand reads as. -/
def Value.listed (home : Namespace) : Value → Value
  | .node (.global g) =>
    if Listing.isWord g.name.toList && (Listing.Keyword.ofSpelling? g.name.toList).isNone then
      .node (.global ⟨home, g.name⟩)
    else .text (Text.halved g.name)
  | v => v.halved

def Node.listed (home : Namespace) : Node → Node
  | .call callee args => .call (callee.listed home) (args.map (Value.listed home))
  | .branch target cond => .branch target (cond.listed home)
  | .ret value => .ret (value.listed home)
  | .phi incoming => .phi (incoming.map fun edge => (edge.1, edge.2.listed home))
  | .const value => .const (value.listed home)
  | .global g => Listing.NodeTree.alone ((Value.node (.global g)).listed home)
  | .argument index => .argument index

def Statement.listed (home : Namespace) (s : Statement) : Statement :=
  ⟨s.node.listed home, s.type.halved⟩

/-- An entry of the line table; a function without a name reads as none. -/
def LineInfo.listed (info : LineInfo) : LineInfo where
  file := info.file.map Text.halved
  line := info.line
  function :=
    match info.function with
    | some (p :: t) => some (Text.halved (p :: t))
    | _ => none

def IR.listed (home : Namespace) (ir : IR) : IR :=
  { ir with
    name := ir.name.halved
    slots := ir.slots.map Text.halved
    lineTable := ir.lineTable.map LineInfo.listed
    body := ir.body.map (Statement.listed home) }

namespace Listing

/-! ## Names and operands -/

theorem ascii_of_isWord {word : List Char} (hword : isWord word = true) :
    (Text.ofChars word).Ascii := by
  intro p hp
  obtain ⟨c, hc, rfl⟩ := List.mem_map.1 hp
  exact toNat_lt_of_isPlain (List.all_eq_true.1 (plain_word hword) c hc)

theorem printName_of_not_ascii {t : Text} (ht : ¬ t.Ascii) : printName t = t.encode := by
  rw [printName]
  split
  case h_1 word hplain =>
    split
    case isTrue hbare =>
      have hword : isWord word = true := (Bool.and_eq_true_iff.1 hbare).1
      exact absurd (ofChars_of_plainChars? hplain ▸ ascii_of_isWord hword) ht
    case isFalse => rfl
  case h_2 => rfl

theorem printName_halved (t : Text) : printName t.halved = printName t := by
  by_cases ht : t.Ascii
  · rw [Text.halved_of_ascii ht]
  · have hhalved : ¬ t.halved.Ascii := fun h => ht (Text.ascii_of_halved h)
    rw [printName_of_not_ascii ht, printName_of_not_ascii hhalved, Text.encode_halved]

theorem printOperand_listed (home : Namespace) (v : Value) :
    printOperand (v.listed home) = printOperand v := by
  cases v with
  | node n =>
    cases n with
    | «global» g =>
      have hprint : printOperand (.node (.global g)) =
          if isWord g.name.toList && (Keyword.ofSpelling? g.name.toList).isNone then g.name.toList
          else Text.encode g.name := by
        rw [printOperand, printName, Text.ofString, plainChars?_ofChars]
      rw [Value.listed]
      split
      case isTrue hbare => rfl
      case isFalse hbare =>
        rw [hprint, if_neg hbare]
        exact Text.encode_halved _
    | _ => rfl
  | text t => exact Text.encode_halved t
  | _ => rfl

theorem isNull_listed (home : Namespace) (v : Value) : (v.listed home).isNull = v.isNull := by
  cases v with
  | node n =>
    cases n with
    | «global» g =>
      rw [Value.listed]
      split <;> rfl
    | _ => rfl
  | _ => rfl

/-! ## Nodes, statements and bodies -/

variable (home : Namespace)

theorem printNode_listed (n : Node) : printNode (n.listed home) = printNode n := by
  cases n with
  | call callee args =>
    simp only [Node.listed, printNode, List.map_map, printOperand_listed, Function.comp_def]
  | branch target cond =>
    simp only [Node.listed, printNode, printOperand_listed, isNull_listed]
  | ret value => simp only [Node.listed, printNode, printOperand_listed]
  | phi incoming =>
    have hedges : (incoming.map fun edge => (edge.1, edge.2.listed home)).map printEdge =
        incoming.map printEdge := by
      rw [List.map_map]
      refine List.map_congr_left fun edge _ => ?_
      simp only [Function.comp_apply, printEdge, printOperand_listed]
    simp only [Node.listed, printNode, hedges]
  | const value => exact printOperand_listed home value
  | «global» g =>
    have hlisted := printOperand_listed home (.node (.global g))
    rw [Node.listed]
    rw [Value.listed] at hlisted ⊢
    split at hlisted
    case isTrue hbare =>
      rw [if_pos hbare]
      exact hlisted
    case isFalse hbare =>
      rw [if_neg hbare]
      exact hlisted
  | argument index => rfl

theorem printType_halved (type : Value) : printType type.halved = printType type := by
  cases type with
  | text t => exact congrArg ([' ', ':', ':', ' '] ++ ·) (printName_halved t)
  | _ => rfl

theorem printStatement_listed (number : Nat) (s : Statement) (location : Value) :
    printStatement number (s.listed home) location = printStatement number s location := by
  simp only [printStatement, Statement.listed, printNode_listed, printType_halved]

theorem printLine_listed (info : LineInfo) : printLine info.listed = printLine info := by
  obtain ⟨file, line, function⟩ := info
  have hfile : Text.encode ((file.map Text.halved).getD []) = Text.encode (file.getD []) := by
    cases file with
    | none => rfl
    | some t => exact Text.encode_halved t
  cases function with
  | none => simp only [printLine, LineInfo.listed, hfile]
  | some name =>
    cases name with
    | nil => simp only [printLine, LineInfo.listed, hfile]
    | cons p t =>
      have hsome : ∃ q rest, Text.halved (p :: t) = q :: rest :=
        List.exists_cons_of_ne_nil fun hnil => List.cons_ne_nil p t (Text.halved_eq_nil.1 hnil)
      obtain ⟨q, rest, hcons⟩ := hsome
      have hname : printName (q :: rest) = printName (p :: t) := hcons ▸ printName_halved (p :: t)
      simp only [printLine, LineInfo.listed, hfile, hcons, hname]

/-- A body and what its listing stands for have the same listing. -/
theorem print_listed (ir : IR) : print (ir.listed home) = print ir := by
  have hslots : (ir.slots.map Text.halved).map printName = ir.slots.map printName := by
    rw [List.map_map]
    exact List.map_congr_left fun slot _ => printName_halved slot
  simp only [print, IR.listed, printName_halved, hslots, List.flatMap_map, printLine_listed,
    List.zipIdx_map, Prod.map_fst, Prod.map_snd, id, printStatement_listed]

end Listing
end SsaEdit
