/-
Binary floating-point numbers of 64 bits.

A finite number is a sign and a magnitude `mantissa · 2 ^ exponent`, and the
magnitude carries the proof that the pair is the canonical one, so two finite
numbers other than the zeros are equal exactly when their parts are.  There is
one not-a-number.  `nearest?` rounds a fraction of natural numbers to the nearest
magnitude, a half going to the even neighbour, by exact integer division.

Powers are spelled `Nat.pow` here, so that no choice of instance stands behind
them.
-/

namespace SsaEdit

/-- A finite magnitude in canonical form: the mantissa has 53 bits, or the
exponent is the least one. -/
structure Magnitude where
  mantissa : Nat
  exponent : Int
  mantissa_lt : mantissa < Nat.pow 2 53
  exponent_ge : -1074 ≤ exponent
  exponent_le : exponent ≤ 971
  full_or_least : Nat.pow 2 52 ≤ mantissa ∨ exponent = -1074
  deriving DecidableEq

namespace Magnitude

def zero : Magnitude := ⟨0, -1074, by decide, by decide, by decide, by decide⟩

/-- The canonical magnitude with these parts, if they are canonical. -/
def ofParts? (mantissa : Nat) (exponent : Int) : Option Magnitude :=
  if h : mantissa < Nat.pow 2 53 ∧ -1074 ≤ exponent ∧ exponent ≤ 971 ∧
      (Nat.pow 2 52 ≤ mantissa ∨ exponent = -1074) then
    some ⟨mantissa, exponent, h.1, h.2.1, h.2.2.1, h.2.2.2⟩
  else none

/-- A magnitude as a fraction of natural numbers. -/
def fraction (m : Magnitude) : Nat × Nat :=
  (m.mantissa * Nat.pow 2 m.exponent.toNat, Nat.pow 2 (-m.exponent).toNat)

/-- The natural number nearest to a fraction, a half going to the even one. -/
def roundedQuotient (num den : Nat) : Nat :=
  let quotient := num / den
  let rest := num % den
  if 2 * rest < den ∨ (2 * rest = den ∧ quotient % 2 = 0) then quotient else quotient + 1

/-- The fraction `num / den` in units of `2 ^ exponent`, again as a fraction. -/
def inUnits (num den : Nat) (exponent : Int) : Nat × Nat :=
  (num * Nat.pow 2 (-exponent).toNat, den * Nat.pow 2 exponent.toNat)

/-- The exponent at which a positive fraction has 53 bits before the point, or
the least exponent if that is larger. -/
def unitExponent (num den : Nat) : Int :=
  let guess : Int := (num.log2 : Int) - den.log2 - 52
  let (a, b) := inUnits num den guess
  max (-1074) (if a < Nat.pow 2 52 * b then guess - 1 else guess)

/-- The magnitude nearest to `num / den`, absent when it is too large.  The
fraction is reduced first, so the answer depends on its value alone. -/
def nearest? (num den : Nat) : Option Magnitude :=
  if num = 0 then some zero else
  let common := Nat.gcd num den
  let a := num / common
  let b := den / common
  let exponent := unitExponent a b
  let (x, y) := inUnits a b exponent
  let mantissa := roundedQuotient x y
  if mantissa = Nat.pow 2 53 then ofParts? (Nat.pow 2 52) (exponent + 1)
  else ofParts? mantissa exponent

end Magnitude

/-- A floating-point number. -/
inductive Binary64
  | nan
  | infinite (negative : Bool)
  | finite (negative : Bool) (magnitude : Magnitude)
  deriving DecidableEq

namespace Binary64

/-- A number of decimal digits `d` and an exponent `e` with `d + e` at most this
is below half the least positive magnitude. -/
def vanishingPoint : Int := -330

/-- A number of decimal digits `d` and an exponent `e` with `d + e` at least this
is above the greatest magnitude. -/
def overflowPoint : Int := 310

/-- The number nearest to `coefficient · 10 ^ exponent`.  Exponents far outside
the range are answered without forming the power. -/
def ofDecimal (negative : Bool) (coefficient : Nat) (exponent : Int) : Binary64 :=
  let point := (Nat.toDigits 10 coefficient).length + exponent
  if coefficient = 0 ∨ point ≤ vanishingPoint then .finite negative .zero
  else if overflowPoint ≤ point then .infinite negative
  else
    match Magnitude.nearest? (coefficient * Nat.pow 10 exponent.toNat)
        (Nat.pow 10 (-exponent).toNat) with
    | some m => .finite negative m
    | none => .infinite negative

/-- The sign and the fraction of a finite number. -/
def signedFraction? : Binary64 → Option (Int × Nat)
  | .finite negative m =>
    let (num, den) := m.fraction
    some (if negative then -(num : Int) else num, den)
  | _ => none

/-- Equality as numbers: the zeros agree.  A not-a-number equals at most another
one, and `nans` tells whether it does. -/
def numericEq (nans : Bool) : Binary64 → Binary64 → Bool
  | .nan, .nan => nans
  | .nan, _ => false
  | _, .nan => false
  | .finite s m, .finite t n => m = n && (s == t || m.mantissa == 0)
  | a, b => a = b

/-- Whether a number is exactly an integer. -/
def eqInt (x : Binary64) (n : Int) : Bool :=
  match x.signedFraction? with
  | some (num, den) => num == n * den
  | none => false

/-- Whether an integer is at most a number.  No integer is at most
not-a-number. -/
def intLe (n : Int) : Binary64 → Bool
  | .nan => false
  | .infinite negative => !negative
  | x@(.finite ..) =>
    match x.signedFraction? with
    | some (num, den) => n * den ≤ num
    | none => false

end Binary64
end SsaEdit
