/-
The words of the textual form.

A word is made of ASCII letters, digits and underscores and does not begin with
a digit.  Some words are keywords; where a name may stand, a keyword is one only
if the grammar allows it there.
-/
namespace SsaEdit
namespace Listing

/-- The words with a meaning of their own. -/
inductive Keyword
  | ir | loc | within | call | br | unless | ret | phi | yes | no | absent | inf | nan
  deriving DecidableEq

namespace Keyword

def spelling : Keyword → List Char
  | .ir => ['i', 'r']
  | .loc => ['l', 'o', 'c']
  | .within => ['i', 'n']
  | .call => ['c', 'a', 'l', 'l']
  | .br => ['b', 'r']
  | .unless => ['u', 'n', 'l', 'e', 's', 's']
  | .ret => ['r', 'e', 't', 'u', 'r', 'n']
  | .phi => ['p', 'h', 'i']
  | .yes => ['t', 'r', 'u', 'e']
  | .no => ['f', 'a', 'l', 's', 'e']
  | .absent => ['n', 'o', 'n', 'e']
  | .inf => ['i', 'n', 'f']
  | .nan => ['n', 'a', 'n']

def all : List Keyword :=
  [.ir, .loc, .within, .call, .br, .unless, .ret, .phi, .yes, .no, .absent, .inf, .nan]

/-- The keyword with this spelling. -/
def ofSpelling? (word : List Char) : Option Keyword := all.find? fun k => k.spelling == word

end Keyword

/-- The characters a word begins with: ASCII letters and the underscore. -/
def isWordStart (c : Char) : Bool := c.isAlpha || c == '_'

/-- The characters a word goes on with. -/
def isWordPart (c : Char) : Bool := c.isAlphanum || c == '_'

/-- Whether some characters form a word. -/
def isWord : List Char → Bool
  | [] => false
  | c :: rest => isWordStart c && rest.all isWordPart

end Listing
end SsaEdit
