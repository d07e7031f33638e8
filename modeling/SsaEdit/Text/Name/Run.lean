/-
Runs of character names.

Consecutive code points tend to have names that begin alike, so a run writes
only what is new in each name.  A lower-case letter opens a name and tells how
many words it shares with the name before it: `a` none, `b` one, and so on.  A
word goes up to a blank or a hyphen, which is part of it.  For instance
"aDIGIT ONEbTWObTHREE" holds the names DIGIT ONE, DIGIT TWO and DIGIT THREE.  A
long run is cut into pieces.
-/
namespace SsaEdit

/-- The names of the code points from `first` on. -/
structure NameRun where
  first : Nat
  pieces : List String

namespace NameRun

/-- Whether a character ends a word of a name. -/
def endsWord (c : Char) : Bool := c == ' ' || c == '-'

/-- The first words of a name. -/
def takeWords : Nat → List Char → List Char
  | 0, _ | _, [] => []
  | count + 1, c :: rest => c :: takeWords (if endsWord c then count else count + 1) rest

/-- Put a character before the entries that follow it.  A lower-case letter
closes the entry that it opens, all others belong to the entry being read. -/
def addToEntries (c : Char) :
    List Char × List (Nat × List Char) → List Char × List (Nat × List Char)
  | (own, entries) =>
    if c.isLower then ([], (c.toNat - 'a'.toNat, own) :: entries) else (c :: own, entries)

/-- For each name of a run the number of words it shares, and what is new in it. -/
def entries (r : NameRun) : List (Nat × List Char) :=
  ((r.pieces.flatMap String.toList).foldr addToEntries ([], [])).2

/-- The full names, given the one before them. -/
def expand (before : List Char) : List (Nat × List Char) → List (List Char)
  | [] => []
  | (shared, own) :: rest =>
    let name := takeWords shared before ++ own
    name :: expand name rest

/-- The names of a run in full. -/
def toList (r : NameRun) : List (List Char) := expand [] r.entries

/-- The code point that a run gives a name to. -/
def find? (r : NameRun) (name : List Char) : Option Nat :=
  (r.toList.idxOf? name).map (r.first + ·)

end NameRun
end SsaEdit
