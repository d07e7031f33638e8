/-
Numbers as they are entered.

An entry may have white space around it, decimal digits of any script, and
single underscores between digits.  Once these are in their plain form, an
integer is a numeral without point and exponent, and a floating-point number is
a numeral or the name of an infinity or of not-a-number, in letters of either
case and with or without a sign.
-/
import SsaEdit.Number.Numeral
import SsaEdit.Text.Blank
import SsaEdit.Text.Digit

namespace SsaEdit
namespace Entry

/-- Drop the underscores, each of which has to stand between two digits.
`afterDigit` tells whether a digit comes right before. -/
def dropUnderscores? (afterDigit : Bool) : List Char → Option (List Char)
  | [] => some []
  | [c] => if c = '_' then none else some [c]
  | c :: d :: rest =>
    if c = '_' then
      if afterDigit && d.isDigit then dropUnderscores? false (d :: rest) else none
    else (dropUnderscores? c.isDigit (d :: rest)).map (c :: ·)

/-- White space around an entry; the separators do not count. -/
def isPadding (c : Char) : Bool := Text.isBlank c && !Text.isSeparator c

/-- The plain form of an entry, if its underscores are well placed. -/
def plain? (entry : List Char) : Option (List Char) :=
  dropUnderscores? false ((Text.trim isPadding entry).map Text.plainDigit)

/-- The names of the infinity without a sign. -/
def infinityNames : List (List Char) := ["inf".toList, "infinity".toList]

/-- The name of not-a-number. -/
def nanName : List Char := "nan".toList

end Entry

/-- The integer that a text spells, unless it has too many digits. -/
def intOfText? (entry : List Char) : Option Int := do
  let cs ← Entry.plain? entry
  match Numeral.read? cs with
  | some (n, []) => if n.whole.length ≤ maxDigits then n.integer? else none
  | _ => none

/-- The floating-point number that a text spells. -/
def Binary64.ofText? (entry : List Char) : Option Binary64 := do
  let cs ← Entry.plain? entry
  let (sign, unsigned) := Numeral.readSign cs
  let word := unsigned.map Char.toLower
  if Entry.infinityNames.contains word then return .infinite (sign = some '-')
  else if word = Entry.nanName then return .nan
  else
    match Numeral.read? cs with
    | some (n, []) => return n.toBinary64
    | _ => none

end SsaEdit
