/-
The characters that have names, and which name is whose.

Most names stand in tables.  Some families of characters have names that follow
a rule: an ideograph is named by its code point, a Hangul syllable by the sounds
it is made of.  Names are those of Unicode 14, with the further names that its
aliases give.  Upper and lower case make no difference, except in the names of
unified ideographs and of Hangul syllables, which are upper case throughout.
-/
import SsaEdit.Text
import SsaEdit.Text.Name.Accented
import SsaEdit.Text.Name.Alias
import SsaEdit.Text.Name.Ancient
import SsaEdit.Text.Name.EastAsian
import SsaEdit.Text.Name.European
import SsaEdit.Text.Name.Geometric
import SsaEdit.Text.Name.Hieroglyphic
import SsaEdit.Text.Name.Pictorial
import SsaEdit.Text.Name.Presentation
import SsaEdit.Text.Name.Regional
import SsaEdit.Text.Name.Symbolic
import SsaEdit.Text.Name.Technical

namespace SsaEdit
namespace CodePoint

/-- What follows the first words of a name, if these are given words. -/
def after? (words : String) (name : List Char) : Option (List Char) :=
  if words.toList.isPrefixOf name then some (name.drop words.length) else none

/-! ## Names by code point -/

/-- First and last code point of every range of a family. -/
abbrev Ranges := List (Nat × Nat)

def Ranges.has (ranges : Ranges) (n : Nat) : Bool :=
  ranges.any fun range => range.1 ≤ n && n ≤ range.2

/-- The code point that upper-case hexadecimal digits spell. -/
def ofDigits? (digits : List Char) : Option Nat :=
  digits.foldlM (fun value c =>
    if c.isLower then none else (digitValue? 16 c).map (16 * value + ·)) 0

/-- The ideographs that are unified across languages. -/
def unified : Ranges := [
  (0x3400, 0x4DBF), (0x4E00, 0x9FFF), (0x20000, 0x2A6DF), (0x2A700, 0x2B738), (0x2B740, 0x2B81D),
  (0x2B820, 0x2CEA1), (0x2CEB0, 0x2EBE0), (0x30000, 0x3134A)]

/-- A unified ideograph, which is named by four or five digits. -/
def unifiedOfName? (name : List Char) : Option Nat := do
  let digits ← after? "CJK UNIFIED IDEOGRAPH-" name
  let n ← ofDigits? digits
  if (digits.length = 4 ∨ digits.length = 5) ∧ unified.has n then some n else none

/-- The other families whose members are named by their code points. -/
def numbered : List (String × Ranges) := [
  ("CJK COMPATIBILITY IDEOGRAPH-", [(0xF900, 0xFA6D), (0xFA70, 0xFAD9), (0x2F800, 0x2FA1D)]),
  ("KHITAN SMALL SCRIPT CHARACTER-", [(0x18B00, 0x18CD5)]),
  ("NUSHU CHARACTER-", [(0x1B170, 0x1B2FB)])]

/-- A member of a numbered family, which is named by as many digits as it needs. -/
def numberedOfName? (name : List Char) : Option Nat :=
  numbered.findSome? fun (family, ranges) => do
    let digits ← after? family name
    let n ← ofDigits? digits
    if digits.head? ≠ some '0' ∧ ranges.has n then some n else none

/-! ## Names by sound -/

/-- The sounds a Hangul syllable opens with. -/
def hangulLeads : List String := [
  "G", "GG", "N", "D", "DD", "R", "M", "B", "BB", "S", "SS", "", "J", "JJ", "C", "K", "T", "P", "H"]

/-- The vowels of Hangul syllables. -/
def hangulVowels : List String := [
  "A", "AE", "YA", "YAE", "EO", "E", "YEO", "YE", "O", "WA", "WAE", "OE", "YO", "U", "WEO", "WE",
  "WI", "YU", "EU", "YI", "I"]

/-- The sounds a Hangul syllable closes with. -/
def hangulTails : List String := [
  "", "G", "GG", "GS", "N", "NJ", "NH", "D", "L", "LG", "LM", "LB", "LS", "LT", "LP", "LH", "M",
  "B", "BS", "S", "SS", "NG", "J", "C", "K", "T", "P", "H"]

/-- A Hangul syllable.  The syllables stand in the order of their opening sounds,
then of their vowels, then of their closing sounds. -/
def hangulOfName? (name : List Char) : Option Nat := do
  let sounds ← after? "HANGUL SYLLABLE " name
  hangulLeads.zipIdx.findSome? fun (lead, l) => do
    let afterLead ← after? lead sounds
    hangulVowels.zipIdx.findSome? fun (vowel, v) => do
      let tail ← after? vowel afterLead
      let t ← hangulTails.idxOf? (String.ofList tail)
      some (0xAC00 + (l * hangulVowels.length + v) * hangulTails.length + t)

/-! ## All names -/

/-- The tables of names. -/
def nameTables : List (Array NameRun) :=
  open NameRun in
  [european, regional, accented, technical, geometric, eastAsian, presentation, ancient,
    hieroglyphic, symbolic, pictorial, further]

/-- A character whose name stands in a table. -/
def listedOfName? (name : List Char) : Option Nat :=
  nameTables.findSome? fun table => table.findSome? (·.find? name)

/-- The code point `n`, if there is one. -/
def ofNat? (n : Nat) : Option CodePoint :=
  if h : n < 0x110000 then some ⟨n, h⟩ else none

/-- The character of a name. -/
def ofName? (name : List Char) : Option CodePoint :=
  let upper := name.map Char.toUpper
  (unifiedOfName? name <|> hangulOfName? name <|> numberedOfName? upper <|> listedOfName? upper).bind
    ofNat?

end CodePoint
end SsaEdit
