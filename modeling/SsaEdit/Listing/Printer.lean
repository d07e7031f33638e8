/-
Listings: the textual form of a body.

A listing opens with the name and the slots, then has one line for each entry of
the line table and one for each statement with its number, its type if it is
known and its location if it is not zero.  Names that are plain words stand as
they are, all others as text literals.  A value of the host prints in angle
brackets, which no reader takes back.
-/
import SsaEdit.IR
import SsaEdit.Listing.Keyword
import SsaEdit.Text.Literal
import SsaEdit.Value.Display

namespace SsaEdit
namespace Listing

/-- The characters of a text, if none is half of a surrogate pair. -/
def plainChars? (t : Text) : Option (List Char) := t.mapM CodePoint.toChar?

/-- A name: bare if it is a word and no keyword, or else a literal. -/
def printName (t : Text) : List Char :=
  match plainChars? t with
  | some word =>
    if isWord word && (Keyword.ofSpelling? word).isNone then word else t.encode
  | none => t.encode

/-- A value as an operand. -/
def printOperand : Value → List Char
  | .variable v => v.display.toList
  | .label l => l.display.toList
  | .node (.argument index) => (argumentDisplay index).toList
  | .node (.global g) => printName g.name
  | .null => Keyword.absent.spelling
  | .bool b => (if b then Keyword.yes else Keyword.no).spelling
  | .int n => (decimalInt n).toList
  | .float x => floatLayout.write x
  | .text t => t.encode
  | .callable name => '<' :: name.toList ++ ['>']
  | v => '<' :: v.display.toList ++ ['>']

/-- Items with a comma and a blank between them. -/
def separated (items : List (List Char)) : List Char := List.intercalate [',', ' '] items

def printEdge (edge : Label × Value) : List Char :=
  edge.1.display.toList ++ [' ', '=', '>', ' '] ++ printOperand edge.2

/-- A node without its number. -/
def printNode : Node → List Char
  | .call callee args =>
    Keyword.call.spelling ++ ' ' :: printOperand callee ++ '(' ::
      separated (args.map printOperand) ++ [')']
  | .branch target cond =>
    Keyword.br.spelling ++ ' ' :: target.display.toList ++
      if cond.isNull then []
      else ' ' :: Keyword.unless.spelling ++ ' ' :: printOperand cond
  | .ret value => Keyword.ret.spelling ++ ' ' :: printOperand value
  | .phi incoming =>
    Keyword.phi.spelling ++ [' ', '['] ++ separated (incoming.map printEdge) ++ [']']
  | .const value => printOperand value
  | .global g => printOperand (.node (.global g))
  | .argument index => printOperand (.node (.argument index))

/-- An entry of the line table.  An empty file or function counts as none. -/
def printLine (info : LineInfo) : List Char :=
  Keyword.loc.spelling ++ ' ' :: Text.encode (info.file.getD []) ++ ':' ::
    (decimalInt info.line).toList ++
    match info.function with
    | some (p :: t) => ' ' :: Keyword.within.spelling ++ ' ' :: printName (p :: t)
    | _ => []

/-- The name of a type. -/
def typeName : Value → Text
  | .text t => t
  | .callable name => name
  | v => v.display

/-- The note of a type, for every type but the unknown one. -/
def printType (type : Value) : List Char :=
  if type.isUnknown then [] else [' ', ':', ':', ' '] ++ printName (typeName type)

/-- The note of a location, for every location that counts as true. -/
def printLocation (location : Value) : List Char :=
  if location.holds then
    [' ', '@'] ++ (Text.toString location.plain).toList
  else []

/-- A statement with its number. -/
def printStatement (number : Nat) (s : Statement) (location : Value) : List Char :=
  (Variable.display ⟨number⟩).toList ++ [' ', '=', ' '] ++ printNode s.node ++ printType s.type ++
    printLocation location

/-- The listing of a body.  Statements without a location count as being at
location 0. -/
def print (ir : IR) : List Char :=
  let header := Keyword.ir.spelling ++ ' ' :: printName ir.name ++ '(' ::
    separated (ir.slots.map printName) ++ [')', ' ', '\x7b', '\n']
  let lines := ir.lineTable.flatMap fun info => '\t' :: printLine info ++ ['\n']
  let statements := (ir.body.zipIdx 1).flatMap fun (s, number) =>
    '\t' :: printStatement number s (ir.locations[number - 1]?.getD (.int 0)) ++ ['\n']
  header ++ lines ++ statements ++ ['\x7d', '\n']

end Listing
end SsaEdit
