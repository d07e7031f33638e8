/-
How values look in messages and logs.

`Value.display` shows a value unambiguously: texts are quoted, lists and tuples
are bracketed, and a node is written as its kind with its fields by name.
`Value.plain` is the same except that a text stands as it is.
-/
import SsaEdit.Value

namespace SsaEdit

/-- The items with a comma and a blank between them. -/
def commaSeparated (items : List String) : String := ", ".intercalate items

/-- Items in round brackets; a single one is followed by a comma. -/
def tupleDisplay : List String → String
  | [item] => "(" ++ item ++ ",)"
  | items => "(" ++ commaSeparated items ++ ")"

def GlobalRef.display (g : GlobalRef) : String := "GlobalRef(" ++ Text.display g.name ++ ")"

/-- An argument number. -/
def argumentDisplay (index : Int) : String := "$" ++ decimalInt index

mutual

def Value.display : Value → String
  | .null => "None"
  | .bool b => if b then "True" else "False"
  | .int n => decimalInt n
  | .float x => String.ofList (floatLayout.write x)
  | .text t => Text.display t
  | .variable v => v.display
  | .label l => l.display
  | .callable name => "<fn " ++ name ++ ">"
  | .foreign shown => shown
  | .list items => "[" ++ commaSeparated (displayAll items) ++ "]"
  | .tuple items => tupleDisplay (displayAll items)
  | .unknown => "unknown"
  | .node n => n.display
  | .statement n type => "Statement(node=" ++ n.display ++ ", type=" ++ type.display ++ ")"
termination_by structural v => v

def Node.display : Node → String
  | .call callee args =>
    "Call(callee=" ++ callee.display ++ ", args=" ++ tupleDisplay (displayAll args) ++ ")"
  | .branch target cond => "Branch(target=" ++ target.display ++ ", cond=" ++ cond.display ++ ")"
  | .ret value => "Return(value=" ++ value.display ++ ")"
  | .phi incoming => "Phi(incoming=" ++ tupleDisplay (displayEdges incoming) ++ ")"
  | .const value => "Const(value=" ++ value.display ++ ")"
  | .global ref => ref.display
  | .argument index => argumentDisplay index
termination_by structural n => n

def displayAll : List Value → List String
  | [] => []
  | v :: rest => v.display :: displayAll rest
termination_by structural vs => vs

def displayEdges : List (Label × Value) → List String
  | [] => []
  | edge :: rest => displayEdge edge :: displayEdges rest
termination_by structural edges => edges

def displayEdge : Label × Value → String
  | (edge, value) => "(" ++ edge.display ++ ", " ++ value.display ++ ")"
termination_by structural edge => edge

end

/-- A value inside running text. -/
def Value.plain : Value → Text
  | .text t => t
  | v => v.display

/-! ## Names of kinds -/

def Node.kindName : Node → String
  | .call .. => "Call"
  | .branch .. => "Branch"
  | .ret _ => "Return"
  | .phi _ => "Phi"
  | .const _ => "Const"
  | .global _ => "GlobalRef"
  | .argument _ => "Argument"

def Value.kindName : Value → String
  | .null => "NoneType"
  | .bool _ => "bool"
  | .int _ => "int"
  | .float _ => "float"
  | .text _ => "str"
  | .variable _ => "Variable"
  | .label _ => "Label"
  | .callable _ => "Fn"
  | .foreign _ => "Obj"
  | .list _ => "list"
  | .tuple _ => "tuple"
  | .unknown => "_Unknown"
  | .node n => n.kindName
  | .statement .. => "Statement"

end SsaEdit
