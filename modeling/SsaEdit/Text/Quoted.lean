/-
Quoted display of a text, as error messages and logs show it.

Single quotes stand around the text unless it holds a single quote and no double
quote.  Inside, a backslash, the quote itself and everything unprintable is
escaped; the three common controls have letters of their own and the rest is
written in hexadecimal, as narrow as the code point allows.
-/
import SsaEdit.Text.Printable

namespace SsaEdit
namespace Text

/-- The quote put around a text on display. -/
def displayQuote (t : Text) : Char :=
  if t.contains (.ofChar '\'') && !t.contains (.ofChar '"') then '"' else '\''

/-- One code point on display between `quote`s. -/
def displayPoint (quote : Char) (p : CodePoint) : List Char :=
  if p = .ofChar '\\' ∨ p = .ofChar quote then ['\\', p.toChar?.getD quote]
  else if p = .ofChar '\n' then ['\\', 'n']
  else if p = .ofChar '\r' then ['\\', 'r']
  else if p = .ofChar '\t' then ['\\', 't']
  else match p.toChar?, p.isPrintable with
    | some c, true => [c]
    | _, _ =>
      if p.val < 0x100 then '\\' :: 'x' :: hexadecimal 2 p.val
      else if p.val < 0x10000 then '\\' :: 'u' :: hexadecimal 4 p.val
      else '\\' :: 'U' :: hexadecimal 8 p.val

/-- A text on display, quotes included. -/
def display (t : Text) : String :=
  let quote := displayQuote t
  String.ofList (quote :: t.flatMap (displayPoint quote) ++ [quote])

end Text
end SsaEdit
