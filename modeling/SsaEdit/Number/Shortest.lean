/-
The shortest decimal text of a floating-point number.

For one digit, two digits and so on up to seventeen, the two neighbours of the
number on the decimal grid of that many digits are tried; the first that
`nearest?` rounds back to the number wins, the nearer of two, and the even one
of two equally near.  A number that no such grid holds would be written with all
its digits, so whatever is written reads back by construction.

`FloatLayout` says how the digits are laid out.
-/
import SsaEdit.Number.Numeral

namespace SsaEdit

/-- The decimal `coefficient · 10 ^ exponent`. -/
structure Decimal where
  coefficient : Nat
  exponent : Int

namespace Decimal

/-- The digits without trailing zeros. -/
def digits (d : Decimal) : List Char :=
  ((Nat.toDigits 10 d.coefficient).reverse.dropWhile (· == '0')).reverse

/-- How many digits stand before the decimal point; negative when zeros follow
the point. -/
def point (d : Decimal) : Int := (Nat.toDigits 10 d.coefficient).length + d.exponent

end Decimal

namespace Magnitude

/-- All digits of a magnitude. -/
def exactDecimal (m : Magnitude) : Decimal :=
  if m.exponent < 0 then ⟨m.mantissa * Nat.pow 5 (-m.exponent).toNat, m.exponent⟩
  else ⟨m.mantissa * Nat.pow 2 m.exponent.toNat, 0⟩

/-- How many digits stand before the point of a positive magnitude. -/
def decimalPoint (m : Magnitude) : Int :=
  let (num, den) := m.fraction
  if den ≤ num then (Nat.toDigits 10 (num / den)).length
  else
    match (List.range 400).find? fun zeros => den ≤ num * Nat.pow 10 (zeros + 1) with
    | some zeros => -(zeros : Int)
    | none => 0

/-- Whether a decimal is read as this magnitude. -/
def readsBack (m : Magnitude) (d : Decimal) : Bool :=
  nearest? (d.coefficient * Nat.pow 10 d.exponent.toNat) (Nat.pow 10 (-d.exponent).toNat) = some m

/-- The better neighbour on the grid of multiples of `10 ^ exponent` that reads
back, if one does. -/
def onGrid? (m : Magnitude) (exponent : Int) : Option Decimal :=
  let (num, den) := m.fraction
  let a := num * Nat.pow 10 (-exponent).toNat
  let b := den * Nat.pow 10 exponent.toNat
  let below : Decimal := ⟨a / b, exponent⟩
  let above : Decimal := ⟨a / b + 1, exponent⟩
  match m.readsBack below, m.readsBack above with
  | true, true =>
    let belowIsCloser := 2 * (a % b) < b ∨ (2 * (a % b) = b ∧ a / b % 2 = 0)
    some (if belowIsCloser then below else above)
  | true, false => some below
  | false, true => some above
  | false, false => none

/-- The shortest decimal that reads back as a positive magnitude. -/
def shortest (m : Magnitude) : Decimal :=
  let point := m.decimalPoint
  ((List.range 17).findSome? fun k => m.onGrid? (point - (k + 1 : Nat))).getD m.exactDecimal

end Magnitude

/-- How a finite number is laid out: between which positions of the point it is
written without an exponent, and how many digits an exponent has at least. -/
structure FloatLayout where
  leastPoint : Int
  greatestPoint : Int
  exponentWidth : Nat

namespace FloatLayout

/-- Digits around a decimal point; a whole number keeps one zero after it. -/
def positional (digits : List Char) (point : Int) : List Char :=
  if point ≤ 0 then '0' :: '.' :: (List.replicate (-point).toNat '0' ++ digits)
  else
    let before := point.toNat
    if digits.length ≤ before then
      digits ++ List.replicate (before - digits.length) '0' ++ ['.', '0']
    else digits.take before ++ '.' :: digits.drop before

/-- One digit, the others after a point, and a signed exponent. -/
def scientific (layout : FloatLayout) (digits : List Char) (point : Int) : List Char :=
  let exponent := point - 1
  let size := Nat.toDigits 10 exponent.natAbs
  let lead :=
    match digits with
    | first :: rest => if rest.isEmpty then [first] else first :: '.' :: rest
    | [] => []
  lead ++ 'e' :: (if exponent < 0 then '-' else '+') ::
    (List.replicate (layout.exponentWidth - size.length) '0' ++ size)

/-- The text of a magnitude. -/
def magnitude (layout : FloatLayout) (m : Magnitude) : List Char :=
  if m.mantissa = 0 then ['0', '.', '0']
  else
    let d := m.shortest
    if layout.leastPoint ≤ d.point ∧ d.point ≤ layout.greatestPoint then
      positional d.digits d.point
    else layout.scientific d.digits d.point

/-- The text of a number; not-a-number has no sign. -/
def write (layout : FloatLayout) : Binary64 → List Char
  | .nan => ['n', 'a', 'n']
  | .infinite negative => (if negative then ['-'] else []) ++ ['i', 'n', 'f']
  | .finite negative m => (if negative then ['-'] else []) ++ layout.magnitude m

end FloatLayout

/-- Numbers from 0.0001 up to 10 ^ 16 are written without an exponent, and an
exponent has two digits at least. -/
def floatLayout : FloatLayout := ⟨-3, 16, 2⟩

end SsaEdit
