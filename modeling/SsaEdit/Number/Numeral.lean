/-
Decimal numerals as they are spelled.

A numeral is an optional sign, then digits, a point with digits on at least one
side, or either with an exponent.  `read?` takes the longest numeral off the
front of a list of characters: an exponent mark that no digit follows is left
for the next reader, while a point may end a numeral whose whole part has
digits.
-/
import SsaEdit.Number.Binary64

namespace SsaEdit

/-- A spelled exponent: its mark, its sign if it has one, and its digits. -/
structure SpelledExponent where
  mark : Char
  sign : Option Char
  digits : List Char

/-- A spelled numeral: its sign if it has one, the digits of its whole part, the
digits after its point if it has one, and its exponent if it has one. -/
structure Numeral where
  sign : Option Char
  whole : List Char
  fraction : Option (List Char)
  exponent : Option SpelledExponent

/-- How many digits an integer may have at most. -/
def maxDigits : Nat := 4300

/-- The value of a run of decimal digits. -/
def digitsValue (digits : List Char) : Nat := Nat.ofDigitChars 10 digits 0

/-- A natural number with the sign that was spelled before it. -/
def withSign (sign : Option Char) (n : Nat) : Int := if sign = some '-' then -(n : Int) else n

namespace SpelledExponent

def spelling (e : SpelledExponent) : List Char := e.mark :: (e.sign.toList ++ e.digits)

def value (e : SpelledExponent) : Int := withSign e.sign (digitsValue e.digits)

end SpelledExponent

namespace Numeral

/-! ## Reading -/

/-- A sign in front, if there is one, and the rest. -/
def readSign : List Char → Option Char × List Char
  | c :: rest => if c = '+' ∨ c = '-' then (some c, rest) else (none, c :: rest)
  | [] => (none, [])

/-- The digits in front, and the rest. -/
def readDigits (cs : List Char) : List Char × List Char :=
  (cs.takeWhile Char.isDigit, cs.dropWhile Char.isDigit)

/-- An exponent in front, if there is one, and the rest. -/
def readExponent : List Char → Option SpelledExponent × List Char
  | [] => (none, [])
  | mark :: rest =>
    let (sign, afterSign) := readSign rest
    let (digits, afterDigits) := readDigits afterSign
    if (mark = 'e' ∨ mark = 'E') ∧ digits ≠ [] then (some ⟨mark, sign, digits⟩, afterDigits)
    else (none, mark :: rest)

/-- A point with the digits after it, if there is one, and the rest. -/
def readFraction : List Char → Option (List Char) × List Char
  | '.' :: rest =>
    let (digits, after) := readDigits rest
    (some digits, after)
  | rest => (none, rest)

/-- The longest numeral in front, and the rest. -/
def read? (cs : List Char) : Option (Numeral × List Char) :=
  let (sign, cs) := readSign cs
  let (whole, cs) := readDigits cs
  let (fraction, cs) := readFraction cs
  if whole = [] ∧ fraction.getD [] = [] then none
  else
    let (exponent, cs) := readExponent cs
    some (⟨sign, whole, fraction, exponent⟩, cs)

/-! ## Spelling and value -/

def spelling (n : Numeral) : List Char :=
  n.sign.toList ++ n.whole ++
    (match n.fraction with
     | some digits => '.' :: digits
     | none => []) ++
    match n.exponent with
    | some e => e.spelling
    | none => []

/-- The integer that a numeral without point and exponent spells. -/
def integer? (n : Numeral) : Option Int :=
  match n.fraction, n.exponent with
  | none, none => some (withSign n.sign (digitsValue n.whole))
  | _, _ => none

/-- The floating-point number nearest to a numeral. -/
def toBinary64 (n : Numeral) : Binary64 :=
  let fraction := n.fraction.getD []
  let exponent :=
    match n.exponent with
    | some e => e.value
    | none => 0
  .ofDecimal (n.sign = some '-') (digitsValue (n.whole ++ fraction)) (exponent - fraction.length)

end Numeral

end SsaEdit
