/-
Reading listings.

A text is first read into a tree as a whole; then the tree is evaluated in the
order of the text.  The statements have to be numbered 1, 2, 3 and so on.  Bare
names become globals of the namespace given.
-/
import SsaEdit.Fault
import SsaEdit.Listing.Grammar
import SsaEdit.Text.Blank
import SsaEdit.Text.Literal

namespace SsaEdit
namespace Listing

/-! ## Positions -/

/-- Line and column, counted from 1, after some characters. -/
def positionAfter (before : List Char) : Nat × Nat :=
  (before.count '\n' + 1, (before.reverse.takeWhile (· != '\n')).length + 1)

/-- The width of a text once tabs go to the next multiple of eight.  Columns
start over at a carriage return; the width does not. -/
def expandedWidth (column width : Nat) : List Char → Nat
  | [] => width
  | c :: rest =>
    if c = '\t' then
      let step := 8 - column % 8
      expandedWidth (column + step) (width + step) rest
    else if c = '\r' then expandedWidth 0 (width + 1) rest
    else expandedWidth (column + 1) (width + 1) rest

/-- How many characters an excerpt shows on either side. -/
def excerptSpan : Nat := 40

/-- The line around an offset, cut to forty characters on either side, with a
mark under the offset. -/
def excerpt (text : List Char) (offset : Nat) : List Char :=
  let before := (((text.take offset).reverse.take excerptSpan).takeWhile (· != '\n')).reverse
  let after := ((text.drop offset).take excerptSpan).takeWhile (· != '\n')
  let pointer := List.replicate (expandedWidth 0 0 before) ' ' ++ ['^']
  Text.trimBlanks (before ++ after ++ '\n' :: pointer ++ ['\n'])

/-- A fault of a listing at an offset. -/
def faultAt (text : List Char) (offset : Nat) (cause : ListingFault) : Fault :=
  let (line, column) := positionAfter (text.take offset)
  .listing line column cause

/-- The tree of a text. -/
def readTree (text : List Char) : Except Fault Tree :=
  match scan .start 0 0 text with
  | .ok tree => .ok tree
  | .error offset =>
    .error (faultAt text offset (.unexpected (String.ofList (excerpt text offset))))

/-! ## Evaluating tokens -/

/-- The value of some digits, unless there are too many. -/
def natOf (digits : List Char) : Except Fault Nat :=
  if digits.length ≤ maxDigits then .ok (digitsValue digits) else .error .unreadableNumber

namespace Token

/-- The number after the sigil of a variable, label or argument. -/
def number (t : Token) : Except Fault Nat := natOf t.chars.tail

/-- The text between the quotes of a literal, which cannot hold U+0000 itself. -/
def literal (t : Token) : Except Fault Text :=
  if t.chars.contains '\x00' then .error .bareNull
  else
    match Text.decode t.chars.tail.dropLast with
    | some text => .ok text
    | none => .error .badEscape

/-- The text of a name, bare or quoted. -/
def text (t : Token) : Except Fault Text :=
  if t.kind = .quoted then t.literal else .ok (Text.ofChars t.chars)

/-- A numeral is an integer if it has neither point nor exponent and is not too
long, and a floating-point number if not. -/
def numeral (t : Token) : Value :=
  match Numeral.read? t.chars with
  | some (n, _) =>
    match n.integer? with
    | some value => if n.whole.length ≤ maxDigits then .int value else .float n.toBinary64
    | none => .float n.toBinary64
  | none => .null

/-- The value of an operand. -/
def operand (home : Namespace) (t : Token) : Except Fault Value :=
  match t.kind with
  | .variable => t.number.map fun n => .variable ⟨n⟩
  | .argument => t.number.map fun n => .node (.argument n)
  | .name => .ok (.node (.global ⟨home, String.ofList t.chars⟩))
  | .number => .ok t.numeral
  | .quoted => t.literal.map .text
  | .minusInf => .ok (.float (.infinite true))
  | .keyword .yes => .ok (.bool true)
  | .keyword .no => .ok (.bool false)
  | .keyword .inf => .ok (.float (.infinite false))
  | .keyword .nan => .ok (.float .nan)
  | _ => .ok .null

def label (t : Token) : Except Fault Label := t.number.map Label.mk

end Token

/-! ## Evaluating items -/

namespace NodeTree

/-- The value of a phi edge. -/
def edge (home : Namespace) (pair : Token × Token) : Except Fault (Label × Value) := do
  let l ← pair.1.label
  let value ← pair.2.operand home
  return (l, value)

/-- A node that stands alone: an argument, a global or a constant. -/
def alone : Value → Node
  | .node n => n
  | v => .const v

def eval (text : List Char) (home : Namespace) : NodeTree → Except Fault Node
  | .call callee args => do
    let callee ← callee.operand home
    let args ← args.mapM (Token.operand home)
    return .call callee args
  | .branch head target cond => do
    let target ← target.label
    match cond with
    | none => return .branch target .null
    | some cond =>
      let cond ← cond.operand home
      if cond.isNull then throw (faultAt text head.start .absentCondition)
      return .branch target cond
  | .ret value => (value.operand home).map .ret
  | .phi edges => (edges.mapM (edge home)).map .phi
  | .plain value => (value.operand home).map alone

end NodeTree

/-- An empty file name is none. -/
def LineTree.eval (t : LineTree) : Except Fault LineInfo := do
  let function ← t.function.mapM Token.text
  let file ← t.file.text
  let line ← natOf t.line.chars
  return ⟨if file.isEmpty then none else some file, line, function⟩

/-- A statement, which has to have the number `expected`, and its location. -/
def StatementTree.eval (text : List Char) (home : Namespace) (expected : Nat)
    (t : StatementTree) : Except Fault (Statement × Value) := do
  let number ← t.number.number
  if number ≠ expected then
    throw (faultAt text t.number.start (.misnumbered expected (String.ofList t.number.chars)))
  let type ← t.type.mapM Token.text
  let location ← t.location.mapM fun digits => natOf digits.chars
  let node ← t.node.eval text home
  return (⟨node, match type with
    | some name => .text name
    | none => .unknown⟩, .int (location.getD 0))

/-- Add an item to a body. -/
def Item.eval (text : List Char) (home : Namespace) (ir : IR) : Item → Except Fault IR
  | .line tree => do
    let info ← tree.eval
    return { ir with lineTable := ir.lineTable ++ [info] }
  | .statement tree => do
    let (s, location) ← tree.eval text home (ir.size + 1)
    return { ir with body := ir.body ++ [s], locations := ir.locations ++ [location] }

/-- The body that a tree describes. -/
def Tree.eval (text : List Char) (home : Namespace) (t : Tree) : Except Fault IR := do
  let name ← t.name.text
  let slots ← t.slots.mapM Token.text
  t.items.foldlM (Item.eval text home) ⟨name, .int slots.length, slots, [], [], [], []⟩

/-- Read a listing. -/
def read (home : Namespace) (text : List Char) : Except Fault IR := do
  let tree ← readTree text
  tree.eval text home

end Listing
end SsaEdit
