/-
Texts as sequences of code points.

A string literal can spell half of a surrogate pair with an escape, and such a
half is not a `Char`.  Literals, names and messages are therefore lists of code
points, with a coercion from `String` for the wording the library itself
supplies.  `Text.joined` is the way back: it fuses each surrogate pair into the
character it stands for, which is how two such halves look once they are
written out side by side.
-/

namespace SsaEdit

/-- A Unicode code point, surrogate halves included. -/
abbrev CodePoint := Fin 0x110000

/-- A text: its code points in order. -/
abbrev Text := List CodePoint

theorem char_toNat_lt (c : Char) : c.toNat < 0x110000 := by
  rcases c.valid with h | ⟨_, h⟩
  · exact Nat.lt_trans h (by decide)
  · exact h

namespace CodePoint

/-- The code point of a character. -/
def ofChar (c : Char) : CodePoint := ⟨c.toNat, char_toNat_lt c⟩

/-- The character at a code point, absent for a surrogate half. -/
def toChar? (p : CodePoint) : Option Char :=
  if h : p.val.isValidChar then some (Char.ofNatAux p.val h) else none

/-- The first halves of surrogate pairs. -/
def isHigh (p : CodePoint) : Bool := 0xD800 ≤ p.val && p.val < 0xDC00

/-- The second halves of surrogate pairs. -/
def isLow (p : CodePoint) : Bool := 0xDC00 ≤ p.val && p.val < 0xE000

/-- The two halves that spell a code point above U+FFFF. -/
def halves (p : CodePoint) : Nat × Nat :=
  let offset := p.val - 0x10000
  (0xD800 + offset / 0x400, 0xDC00 + offset % 0x400)

/-- The code point that a pair of halves spells. -/
def fuse (high low : CodePoint) : CodePoint :=
  Fin.ofNat 0x110000 (0x10000 + (high.val - 0xD800) * 0x400 + (low.val - 0xDC00))

end CodePoint

namespace Text

def ofChars (cs : List Char) : Text := cs.map CodePoint.ofChar

def ofString (s : String) : Text := ofChars s.toList

instance : Coe String Text := ⟨ofString⟩

/-- Fuse every surrogate pair. -/
def joined : Text → Text
  | high :: low :: rest =>
    if high.isHigh && low.isLow then high.fuse low :: joined rest
    else high :: joined (low :: rest)
  | short => short

/-- The characters of a text.  A half without its partner becomes U+FFFD. -/
def toString (t : Text) : String :=
  String.ofList (t.joined.map fun p => p.toChar?.getD '\uFFFD')

end Text

/-! ## Hexadecimal and octal digits -/

/-- A number in lower-case hexadecimal, padded with zeros to `width` digits. -/
def hexadecimal (width n : Nat) : List Char :=
  let digits := Nat.toDigits 16 n
  List.replicate (width - digits.length) '0' ++ digits

/-- The value of a digit in a base up to sixteen; both cases of a letter count. -/
def digitValue? (base : Nat) (c : Char) : Option Nat :=
  let value :=
    if '0' ≤ c ∧ c ≤ '9' then c.toNat - '0'.toNat
    else if 'a' ≤ c ∧ c ≤ 'f' then c.toNat - 'a'.toNat + 10
    else if 'A' ≤ c ∧ c ≤ 'F' then c.toNat - 'A'.toNat + 10
    else base
  if value < base then some value else none

end SsaEdit
