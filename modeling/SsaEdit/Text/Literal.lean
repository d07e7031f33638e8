/-
Text literals of the textual form.

`encode` writes a text between double quotes in printable ASCII: two-character
escapes for the quote, the backslash and five controls, four hexadecimal digits
for other code units.  A code point above U+FFFF becomes its two surrogate
halves.  `decode` reads what stands between the quotes and knows more escapes
than `encode` writes, among them octal ones, two-digit and eight-digit ones, and
names of characters; a backslash before any other character stands for itself.
The two halves of a pair are read as two code points, so such a text comes back
longer than it was.
-/
import SsaEdit.Text.Name

namespace SsaEdit
namespace Text

/-! ## Writing -/

/-- The escape of one sixteen-bit unit. -/
def encodeUnit (n : Nat) : List Char := '\\' :: 'u' :: hexadecimal 4 n

/-- One code point inside a literal. -/
def encodePoint (p : CodePoint) : List Char :=
  match p.val with
  | 0x22 => ['\\', '"']
  | 0x5C => ['\\', '\\']
  | 0x0A => ['\\', 'n']
  | 0x0D => ['\\', 'r']
  | 0x09 => ['\\', 't']
  | 0x08 => ['\\', 'b']
  | 0x0C => ['\\', 'f']
  | n =>
    if 0x20 ≤ n ∧ n < 0x7F then [Char.ofNat n]
    else if n < 0x10000 then encodeUnit n
    else encodeUnit p.halves.1 ++ encodeUnit p.halves.2

/-- A text as a literal, quotes included. -/
def encode (t : Text) : List Char := '"' :: t.flatMap encodePoint ++ ['"']

/-! ## Reading -/

/-- What a reader of a literal still owes. -/
inductive Pending
  /-- Nothing. -/
  | plain
  /-- A backslash was read. -/
  | escape
  /-- Hexadecimal digits: how many are still due, and the value so far. -/
  | hex (due value : Nat)
  /-- Octal digits: how many may still follow, and the value so far. -/
  | octal (room value : Nat)
  /-- The brace that opens the name of a character. -/
  | brace
  /-- The rest of a name and the brace that closes it; what was read stands backwards. -/
  | name (read : List Char)

/-- The character that a letter stands for after a backslash. -/
def escapeLetter? : Char → Option Char
  | '\\' => some '\\'
  | '\'' => some '\''
  | '"' => some '"'
  | 'n' => some '\n'
  | 't' => some '\t'
  | 'r' => some '\r'
  | 'a' => some '\x07'
  | 'b' => some '\x08'
  | 'f' => some '\x0c'
  | 'v' => some '\x0b'
  | _ => none

/-- How many hexadecimal digits an escape letter asks for. -/
def hexWidth? : Char → Option Nat
  | 'x' => some 2
  | 'u' => some 4
  | 'U' => some 8
  | _ => none

/-- Read on, given what is pending.  The result is absent when a hexadecimal
escape is cut short or too large, when a name is not in braces or is no
character's, and at a bare carriage return. -/
def decodeFrom : Pending → List Char → Option Text
  | .plain, [] => some []
  | .escape, [] => none
  | .hex _ _, [] => none
  | .brace, [] => none
  | .name _, [] => none
  | .octal _ value, [] => (CodePoint.ofNat? value).map ([·])
  | .plain, c :: rest =>
    if c = '\\' then decodeFrom .escape rest
    else if c = '\r' then none
    else (decodeFrom .plain rest).map (.ofChar c :: ·)
  | .escape, c :: rest =>
    match escapeLetter? c, hexWidth? c, digitValue? 8 c with
    | some e, _, _ => (decodeFrom .plain rest).map (.ofChar e :: ·)
    | _, some width, _ => decodeFrom (.hex width 0) rest
    | _, _, some d => decodeFrom (.octal 2 d) rest
    | _, _, _ =>
      if c = '\r' then decodeFrom .plain rest
      else if c = 'N' then decodeFrom .brace rest
      else (decodeFrom .plain rest).map ([.ofChar '\\', .ofChar c] ++ ·)
  | .hex due value, c :: rest =>
    match digitValue? 16 c with
    | none => none
    | some d =>
      if due ≤ 1 then
        (CodePoint.ofNat? (16 * value + d)).bind fun p => (decodeFrom .plain rest).map (p :: ·)
      else decodeFrom (.hex (due - 1) (16 * value + d)) rest
  | .octal room value, c :: rest =>
    match room, digitValue? 8 c with
    | room + 1, some d => decodeFrom (.octal room (8 * value + d)) rest
    | _, _ =>
      (CodePoint.ofNat? value).bind fun p =>
        if c = '\\' then (decodeFrom .escape rest).map (p :: ·)
        else if c = '\r' then none
        else (decodeFrom .plain rest).map ([p, .ofChar c] ++ ·)
  | .brace, c :: rest => if c = '\x7b' then decodeFrom (.name []) rest else none
  | .name read, c :: rest =>
    if c = '\x7d' then
      (CodePoint.ofName? read.reverse).bind fun p => (decodeFrom .plain rest).map (p :: ·)
    else decodeFrom (.name (c :: read)) rest

/-- The text that the inside of a literal spells, absent for a bad escape. -/
def decode (inside : List Char) : Option Text := decodeFrom .plain inside

end Text
end SsaEdit
