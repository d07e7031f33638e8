/-
The tree of a listing: its tokens in the places where they were found.

Nothing is evaluated yet.  Numbers may be too long and literals may hold bad
escapes; a name is a word or a literal.
-/
import SsaEdit.Listing.Token

namespace SsaEdit
namespace Listing

/-- The operation of a statement. -/
inductive NodeTree
  | call (callee : Token) (args : List Token)
  | branch (head target : Token) (cond : Option Token)
  | ret (value : Token)
  | phi (edges : List (Token × Token))
  /-- An argument, a global or a literal. -/
  | plain (value : Token)

structure StatementTree where
  number : Token
  node : NodeTree
  type : Option Token
  location : Option Token

structure LineTree where
  file : Token
  line : Token
  function : Option Token

/-- What stands between the curly brackets. -/
inductive Item
  | line (tree : LineTree)
  | statement (tree : StatementTree)

structure Tree where
  name : Token
  slots : List Token
  items : List Item

def Tree.push (t : Tree) (item : Item) : Tree := { t with items := t.items ++ [item] }

end Listing
end SsaEdit
