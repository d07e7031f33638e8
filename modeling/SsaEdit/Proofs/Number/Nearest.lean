/-
What the nearest magnitude depends on.

`nearest?` works on two natural numbers, but its answer depends on their quotient
alone.  A quotient that is a magnitude exactly is answered by that magnitude, and
an answer other than zero bounds the quotient from both sides.  The values are
rationals here, so that a power of two or ten is one power whatever the sign of
its exponent.
-/
import Mathlib.Algebra.Order.Field.Power
import Mathlib.Data.Nat.Cast.Field
import Mathlib.Data.Rat.Lemmas
import Mathlib.Tactic.FieldSimp
import Mathlib.Tactic.Linarith
import Mathlib.Tactic.NormNum
import Mathlib.Tactic.Positivity
import Mathlib.Tactic.Ring
import SsaEdit.Number.Binary64

namespace SsaEdit

/-- A power with an integer exponent as the quotient of the two natural powers
that spell it. -/
theorem pow_toNat_div {base : Nat} (hbase : 0 < base) (e : Int) :
    ((Nat.pow base e.toNat : Nat) : ℚ) / (Nat.pow base (-e).toNat : Nat) = (base : ℚ) ^ e := by
  have hne : (base : ℚ) ≠ 0 := by positivity
  obtain ⟨n, rfl | rfl⟩ := e.eq_nat_or_neg
  · simp
  · simp

namespace Magnitude

/-- The rational number that a magnitude stands for. -/
def value (m : Magnitude) : ℚ := m.mantissa * 2 ^ m.exponent

theorem fraction_den_pos (m : Magnitude) : 0 < m.fraction.2 :=
  Nat.pow_pos (by decide)

theorem fraction_value (m : Magnitude) : (m.fraction.1 : ℚ) / m.fraction.2 = m.value := by
  have hpow := pow_toNat_div (by decide : 0 < 2) m.exponent
  rw [fraction, value, Nat.cast_mul, mul_div_assoc, hpow]
  rfl

theorem value_pos {m : Magnitude} (hm : m.mantissa ≠ 0) : 0 < m.value := by
  have hmantissa : 0 < (m.mantissa : ℚ) := by exact_mod_cast Nat.pos_of_ne_zero hm
  rw [value]
  positivity

/-! ## Units -/

theorem inUnits_den_pos (num : Nat) {den : Nat} (hden : 0 < den) (e : Int) :
    0 < (inUnits num den e).2 :=
  Nat.mul_pos hden (Nat.pow_pos (by decide))

theorem inUnits_value (num den : Nat) (e : Int) :
    ((inUnits num den e).1 : ℚ) / (inUnits num den e).2 = (num / den : ℚ) / 2 ^ e := by
  have hpow := pow_toNat_div (by decide : 0 < 2) (-e)
  rw [neg_neg, zpow_neg] at hpow
  rw [inUnits, Nat.cast_mul, Nat.cast_mul, mul_div_mul_comm, hpow, div_eq_mul_inv _ ((2 : ℚ) ^ e)]
  rfl

/-- The power of two from which the exponent of a fraction is searched. -/
def guessedExponent (num den : Nat) : Int := (num.log2 : Int) - den.log2 - 52

theorem unitExponent_eq_max (num den : Nat) :
    unitExponent num den = max (-1074)
      (if (inUnits num den (guessedExponent num den)).1 <
          Nat.pow 2 52 * (inUnits num den (guessedExponent num den)).2 then
        guessedExponent num den - 1
      else guessedExponent num den) := rfl

/-- The two logarithms place a fraction between neighbouring powers of four. -/
theorem guessedExponent_spec {num den : Nat} (hnum : 0 < num) (hden : 0 < den) :
    (2 ^ 51 * 2 ^ guessedExponent num den : ℚ) ≤ num / den ∧
      (num / den : ℚ) < 2 ^ 53 * 2 ^ guessedExponent num den := by
  have hdenq : (0 : ℚ) < den := by exact_mod_cast hden
  have hnumLow : (2 : ℚ) ^ num.log2 ≤ num := by exact_mod_cast Nat.log2_self_le (by omega)
  have hnumHigh : (num : ℚ) < 2 ^ (num.log2 + 1) := by exact_mod_cast Nat.lt_log2_self
  have hdenLow : (2 : ℚ) ^ den.log2 ≤ den := by exact_mod_cast Nat.log2_self_le (by omega)
  have hdenHigh : (den : ℚ) < 2 ^ (den.log2 + 1) := by exact_mod_cast Nat.lt_log2_self
  generalize hguess : guessedExponent num den = guess
  rw [guessedExponent] at hguess
  have hpower : (2 : ℚ) ^ 52 * 2 ^ guess * 2 ^ den.log2 = 2 ^ num.log2 := by
    rw [← zpow_natCast, ← zpow_natCast, ← zpow_natCast, ← zpow_add₀ (by norm_num),
      ← zpow_add₀ (by norm_num)]
    congr 1
    omega
  have hunit : (0 : ℚ) < 2 ^ guess := by positivity
  constructor
  · rw [le_div_iff₀ hdenq]
    calc (2 ^ 51 * 2 ^ guess : ℚ) * den ≤ 2 ^ 51 * 2 ^ guess * 2 ^ (den.log2 + 1) := by gcongr
      _ = 2 ^ 52 * 2 ^ guess * 2 ^ den.log2 := by ring
      _ ≤ num := by rw [hpower]; exact hnumLow
  · rw [div_lt_iff₀ hdenq]
    calc (num : ℚ) < 2 * (2 ^ 52 * 2 ^ guess * 2 ^ den.log2) := by
          rw [hpower]; linarith [pow_succ (2 : ℚ) num.log2]
      _ ≤ 2 * (2 ^ 52 * 2 ^ guess * den) := by gcongr
      _ = 2 ^ 53 * 2 ^ guess * den := by ring

/-- Whether the guess was one too large. -/
theorem inUnits_lt_iff (num : Nat) {den : Nat} (hden : 0 < den) (e : Int) :
    (inUnits num den e).1 < Nat.pow 2 52 * (inUnits num den e).2 ↔
      (num / den : ℚ) < 2 ^ 52 * 2 ^ e := by
  have hunit : (0 : ℚ) < 2 ^ e := by positivity
  have hy : (0 : ℚ) < (inUnits num den e).2 := by exact_mod_cast inUnits_den_pos num hden e
  rw [← div_lt_iff₀ hunit, ← inUnits_value, div_lt_iff₀ hy]
  exact_mod_cast Iff.rfl

/-- In units of its exponent a fraction has at most 53 bits before the point, and
exactly 53 unless the exponent is the least one. -/
theorem unitExponent_spec {num den : Nat} (hnum : 0 < num) (hden : 0 < den) :
    -1074 ≤ unitExponent num den ∧
      (num / den : ℚ) < 2 ^ 53 * 2 ^ unitExponent num den ∧
      (unitExponent num den = -1074 ∨
        (2 ^ 52 * 2 ^ unitExponent num den : ℚ) ≤ num / den) := by
  obtain ⟨hlow, hhigh⟩ := guessedExponent_spec hnum hden
  have hbelow := inUnits_lt_iff num hden (guessedExponent num den)
  rw [unitExponent_eq_max]
  generalize guessedExponent num den = guess at *
  obtain ⟨exact, hexact, hexactHigh, hexactLow⟩ : ∃ exact : Int,
      (if (inUnits num den guess).1 < Nat.pow 2 52 * (inUnits num den guess).2 then guess - 1
        else guess) = exact ∧
      (num / den : ℚ) < 2 ^ 53 * 2 ^ exact ∧ (2 ^ 52 * 2 ^ exact : ℚ) ≤ num / den := by
    by_cases hcase : (num / den : ℚ) < 2 ^ 52 * 2 ^ guess
    · refine ⟨guess - 1, if_pos (hbelow.2 hcase), ?_, ?_⟩
      · rw [zpow_sub_one₀ (by norm_num)]
        linarith
      · rw [zpow_sub_one₀ (by norm_num)]
        linarith
    · exact ⟨guess, if_neg fun h => hcase (hbelow.1 h), hhigh, not_lt.1 hcase⟩
  rw [hexact]
  refine ⟨le_max_left _ _, ?_, ?_⟩
  · calc (num / den : ℚ) < 2 ^ 53 * 2 ^ exact := hexactHigh
      _ ≤ 2 ^ 53 * 2 ^ max (-1074) exact := by
        gcongr
        · norm_num
        · exact le_max_right _ _
  · rcases le_total exact (-1074) with hleast | hmore
    · exact .inl (max_eq_left hleast)
    · rw [max_eq_right hmore]
      exact .inr hexactLow

/-! ## Rounding -/

theorem roundedQuotient_mul (k : Nat) {y : Nat} (hy : 0 < y) : roundedQuotient (k * y) y = k := by
  rw [roundedQuotient, Nat.mul_div_cancel k hy, Nat.mul_mod_left]
  exact if_pos (.inl hy)

/-- What does not round to zero is at least one half. -/
theorem le_two_mul_of_roundedQuotient {x y : Nat} (hrounded : roundedQuotient x y ≠ 0) :
    y ≤ 2 * x := by
  by_contra hsmall
  have hquotient : x / y = 0 := Nat.div_eq_of_lt (by omega)
  have hrest : x % y = x := Nat.mod_eq_of_lt (by omega)
  rw [roundedQuotient, hquotient, hrest] at hrounded
  exact hrounded (if_pos (.inl (by omega)))

theorem lt_roundedQuotient_succ_mul {y : Nat} (x : Nat) (hy : 0 < y) :
    x < (roundedQuotient x y + 1) * y := by
  have hquotient : x / y ≤ roundedQuotient x y := by
    rw [roundedQuotient]
    split
    · exact Nat.le_refl _
    · exact Nat.le_succ _
  calc x < (x / y + 1) * y := by
        rw [Nat.mul_comm]
        exact Nat.lt_mul_div_succ x hy
    _ ≤ (roundedQuotient x y + 1) * y := Nat.mul_le_mul_right y (Nat.succ_le_succ hquotient)

theorem ofParts?_some {mantissa : Nat} {e : Int} {m : Magnitude} (h : ofParts? mantissa e = some m) :
    m.mantissa = mantissa ∧ m.exponent = e := by
  rw [ofParts?] at h
  split at h
  · cases h
    exact ⟨rfl, rfl⟩
  · cases h

theorem ofParts?_self (m : Magnitude) : ofParts? m.mantissa m.exponent = some m :=
  dif_pos ⟨m.mantissa_lt, m.exponent_ge, m.exponent_le, m.full_or_least⟩

/-! ## The nearest magnitude -/

/-- The mantissa before it is put into canonical form, for a reduced fraction. -/
def rounded (a b : Nat) : Nat :=
  roundedQuotient (inUnits a b (unitExponent a b)).1 (inUnits a b (unitExponent a b)).2

/-- `nearest?` for a reduced fraction. -/
def nearestReduced? (a b : Nat) : Option Magnitude :=
  if rounded a b = Nat.pow 2 53 then ofParts? (Nat.pow 2 52) (unitExponent a b + 1)
  else ofParts? (rounded a b) (unitExponent a b)

theorem nearest?_eq {num : Nat} (hnum : num ≠ 0) (den : Nat) :
    nearest? num den = nearestReduced? (num / num.gcd den) (den / num.gcd den) := by
  rw [nearest?, if_neg hnum]
  rfl

/-- Reducing a fraction keeps its value. -/
theorem reduced_value (num : Nat) {den : Nat} (hden : 0 < den) :
    ((num / num.gcd den : Nat) : ℚ) / (den / num.gcd den : Nat) = num / den := by
  have hgcd : (num.gcd den : ℚ) ≠ 0 := by exact_mod_cast (Nat.gcd_pos_of_pos_right num hden).ne'
  rw [Nat.cast_div (Nat.gcd_dvd_left num den) hgcd, Nat.cast_div (Nat.gcd_dvd_right num den) hgcd,
    div_div_div_cancel_right₀ hgcd]

theorem reduced_den_pos (num : Nat) {den : Nat} (hden : 0 < den) : 0 < den / num.gcd den :=
  Nat.div_pos (Nat.le_of_dvd hden (Nat.gcd_dvd_right num den)) (Nat.gcd_pos_of_pos_right num hden)

theorem reduced_num_pos {num : Nat} (hnum : num ≠ 0) (den : Nat) : 0 < num / num.gcd den :=
  Nat.div_pos (Nat.le_of_dvd (Nat.pos_of_ne_zero hnum) (Nat.gcd_dvd_left num den))
    (Nat.gcd_pos_of_pos_left den (Nat.pos_of_ne_zero hnum))

/-- Two fractions of one value are the same once they are reduced. -/
theorem reduced_unique {num den num' den' : Nat} (hden : 0 < den) (hden' : 0 < den')
    (hvalue : (num / den : ℚ) = num' / den') :
    num / num.gcd den = num' / num'.gcd den' ∧ den / num.gcd den = den' / num'.gcd den' := by
  have hpos := reduced_den_pos num hden
  have hpos' := reduced_den_pos num' hden'
  have hcoprime := Nat.coprime_div_gcd_div_gcd (Nat.gcd_pos_of_pos_right num hden)
  have hcoprime' := Nat.coprime_div_gcd_div_gcd (Nat.gcd_pos_of_pos_right num' hden')
  rw [← reduced_value num hden, ← reduced_value num' hden'] at hvalue
  generalize num / num.gcd den = a at *
  generalize den / num.gcd den = b at *
  generalize num' / num'.gcd den' = a' at *
  generalize den' / num'.gcd den' = b' at *
  have hcross : a * b' = a' * b := by
    rw [div_eq_div_iff (by exact_mod_cast hpos.ne') (by exact_mod_cast hpos'.ne')] at hvalue
    exact_mod_cast hvalue
  refine ⟨Nat.dvd_antisymm ?_ ?_, Nat.dvd_antisymm ?_ ?_⟩
  · exact hcoprime.dvd_of_dvd_mul_right ⟨b', hcross.symm⟩
  · exact hcoprime'.dvd_of_dvd_mul_right ⟨b, hcross⟩
  · exact hcoprime.symm.dvd_of_dvd_mul_left ⟨a', by rw [hcross, Nat.mul_comm]⟩
  · exact hcoprime'.symm.dvd_of_dvd_mul_left ⟨a, by rw [← hcross, Nat.mul_comm]⟩

theorem nearest?_congr {num den num' den' : Nat} (hden : 0 < den) (hden' : 0 < den')
    (hvalue : (num / den : ℚ) = num' / den') : nearest? num den = nearest? num' den' := by
  have hdenq : (den : ℚ) ≠ 0 := by exact_mod_cast hden.ne'
  have hdenq' : (den' : ℚ) ≠ 0 := by exact_mod_cast hden'.ne'
  by_cases hnum : num = 0
  · have hnum' : num' = 0 := by
      rw [hnum, Nat.cast_zero, zero_div, eq_comm, div_eq_zero_iff] at hvalue
      exact_mod_cast hvalue.resolve_right hdenq'
    rw [hnum, hnum']
    rfl
  · have hnum' : num' ≠ 0 := by
      rintro rfl
      rw [Nat.cast_zero, zero_div, div_eq_zero_iff] at hvalue
      exact hnum (by exact_mod_cast hvalue.resolve_right hdenq)
    obtain ⟨ha, hb⟩ := reduced_unique hden hden' hvalue
    rw [nearest?_eq hnum, nearest?_eq hnum', ha, hb]

/-- A magnitude that a fraction equals has the exponent in whose units the
fraction is rounded. -/
theorem unitExponent_eq {m : Magnitude} {a b : Nat} (ha : 0 < a) (hb : 0 < b)
    (hvalue : (a / b : ℚ) = m.value) : unitExponent a b = m.exponent := by
  obtain ⟨hleast, hhigh, hlow⟩ := unitExponent_spec ha hb
  have hmantissa : (m.mantissa : ℚ) < 2 ^ 53 := by exact_mod_cast m.mantissa_lt
  have hcanonical := m.full_or_least
  have hge := m.exponent_ge
  have hunit : (0 : ℚ) < 2 ^ m.exponent := by positivity
  rw [hvalue, value] at hhigh hlow
  generalize unitExponent a b = e at *
  rcases lt_trichotomy e m.exponent with hlt | heq | hgt
  · -- then the magnitude is not at the least exponent, so its mantissa is full
    exfalso
    have hfull : (2 : ℚ) ^ 52 ≤ m.mantissa := by
      have hnat : Nat.pow 2 52 ≤ m.mantissa := hcanonical.resolve_right (by omega)
      exact_mod_cast hnat
    have hpow : (2 : ℚ) ^ (e + 1) ≤ 2 ^ m.exponent :=
      zpow_le_zpow_right₀ (by norm_num) (by omega)
    rw [zpow_add_one₀ (by norm_num)] at hpow
    have hmul : (2 : ℚ) ^ 52 * 2 ^ m.exponent ≤ m.mantissa * 2 ^ m.exponent := by gcongr
    linarith
  · exact heq
  · exfalso
    have hfull := hlow.resolve_left (by omega)
    have hpow : (2 : ℚ) ^ (m.exponent + 1) ≤ 2 ^ e :=
      zpow_le_zpow_right₀ (by norm_num) (by omega)
    rw [zpow_add_one₀ (by norm_num)] at hpow
    have hmul : (m.mantissa : ℚ) * 2 ^ m.exponent < 2 ^ 53 * 2 ^ m.exponent := by gcongr
    linarith

/-- A fraction that is a magnitude exactly is answered by that magnitude. -/
theorem nearest?_of_value {m : Magnitude} {num den : Nat} (hm : m.mantissa ≠ 0) (hden : 0 < den)
    (hvalue : (num / den : ℚ) = m.value) : nearest? num den = some m := by
  have hpos : (0 : ℚ) < num / den := hvalue ▸ value_pos hm
  have hnum : num ≠ 0 := by
    rintro rfl
    simp at hpos
  rw [nearest?_eq hnum]
  have hb := reduced_den_pos num hden
  have ha := reduced_num_pos hnum den
  have hab := (reduced_value num hden).trans hvalue
  generalize num / num.gcd den = a at *
  generalize den / num.gcd den = b at *
  have hexponent := unitExponent_eq ha hb hab
  have hy := inUnits_den_pos a hb m.exponent
  have hexact : (inUnits a b m.exponent).1 = m.mantissa * (inUnits a b m.exponent).2 := by
    have hquotient := inUnits_value a b m.exponent
    have hunit : (2 : ℚ) ^ m.exponent ≠ 0 := by positivity
    have hyq : ((inUnits a b m.exponent).2 : ℚ) ≠ 0 := by exact_mod_cast hy.ne'
    rw [hab, value, mul_div_cancel_right₀ _ hunit, div_eq_iff hyq] at hquotient
    exact_mod_cast hquotient
  have hrounded : rounded a b = m.mantissa := by
    rw [rounded, hexponent, hexact, roundedQuotient_mul _ hy]
  rw [nearestReduced?, hrounded, hexponent, if_neg (Nat.ne_of_lt m.mantissa_lt)]
  exact ofParts?_self m

theorem eq_zero_of_mantissa {m : Magnitude} (hzero : m.mantissa = 0) : m = .zero := by
  obtain ⟨mantissa, e, _, _, _, hcanonical⟩ := m
  cases hzero
  have hleast : e = -1074 := hcanonical.resolve_left (by decide)
  cases hleast
  rfl

/-- Rounding changes no magnitude. -/
theorem nearest?_fraction (m : Magnitude) : nearest? m.fraction.1 m.fraction.2 = some m := by
  by_cases hm : m.mantissa = 0
  · rw [eq_zero_of_mantissa hm]
    rfl
  · exact nearest?_of_value hm m.fraction_den_pos m.fraction_value

/-! ## Bounds -/

/-- Half the least positive magnitude, against a power of ten. -/
theorem least_gt : (10 ^ (-330 : Int) : ℚ) < 1 / 2 * 2 ^ (-1074 : Int) := by
  have hnat : 2 * 2 ^ 1074 < 10 ^ 330 := by decide +kernel
  have hpow : (2 * 2 ^ 1074 : ℚ) < 10 ^ 330 := by exact_mod_cast hnat
  calc (10 ^ (-330 : Int) : ℚ) = 1 / 10 ^ 330 := by rw [zpow_neg, zpow_ofNat, one_div]
    _ < 1 / (2 * 2 ^ 1074) := one_div_lt_one_div_of_lt (by positivity) hpow
    _ = 1 / 2 * 2 ^ (-1074 : Int) := by rw [zpow_neg, zpow_ofNat, one_div, mul_inv, one_div]

/-- The greatest magnitude and one unit more, against a power of ten. -/
theorem greatest_lt : ((2 ^ 53 + 1) * 2 ^ (971 : Int) : ℚ) < 10 ^ (309 : Int) := by
  have hnat : (2 ^ 53 + 1) * 2 ^ 971 < 10 ^ 309 := by decide +kernel
  exact_mod_cast hnat

/-- A positive magnitude comes from a positive mantissa with at most one bit too
many, in units of no more than the greatest exponent. -/
theorem rounded_of_nearestReduced? {m : Magnitude} {a b : Nat} (hm : m.mantissa ≠ 0)
    (h : nearestReduced? a b = some m) :
    rounded a b ≠ 0 ∧ rounded a b ≤ 2 ^ 53 ∧ unitExponent a b ≤ 971 := by
  have hle := m.exponent_le
  rw [nearestReduced?] at h
  split at h
  case isTrue hfull =>
    have hexponent := (ofParts?_some h).2
    rw [hfull]
    exact ⟨by decide, Nat.le_refl _, by omega⟩
  case isFalse =>
    obtain ⟨hmantissa, hexponent⟩ := ofParts?_some h
    rw [← hmantissa, ← hexponent]
    exact ⟨hm, Nat.le_of_lt m.mantissa_lt, hle⟩

/-- What rounds to something positive is at least half a unit. -/
theorem half_unit_le {a b : Nat} (hb : 0 < b) (hpositive : rounded a b ≠ 0) :
    (1 / 2 * 2 ^ unitExponent a b : ℚ) ≤ a / b := by
  have hunit : (0 : ℚ) < 2 ^ unitExponent a b := by positivity
  have hy : (0 : ℚ) < (inUnits a b (unitExponent a b)).2 := by
    exact_mod_cast inUnits_den_pos a hb (unitExponent a b)
  have hhalf : ((inUnits a b (unitExponent a b)).2 : ℚ) ≤
      2 * (inUnits a b (unitExponent a b)).1 := by
    exact_mod_cast le_two_mul_of_roundedQuotient hpositive
  rw [← le_div_iff₀ hunit, ← inUnits_value, le_div_iff₀ hy]
  linarith

/-- What rounds to 53 bits is less than one unit above them. -/
theorem lt_units {a b : Nat} (hb : 0 < b) (hbits : rounded a b ≤ 2 ^ 53) :
    (a / b : ℚ) < (2 ^ 53 + 1) * 2 ^ unitExponent a b := by
  have hunit : (0 : ℚ) < 2 ^ unitExponent a b := by positivity
  have hy := inUnits_den_pos a hb (unitExponent a b)
  have hyq : (0 : ℚ) < (inUnits a b (unitExponent a b)).2 := by exact_mod_cast hy
  have hnext : ((inUnits a b (unitExponent a b)).1 : ℚ) <
      (rounded a b + 1) * (inUnits a b (unitExponent a b)).2 := by
    exact_mod_cast lt_roundedQuotient_succ_mul (inUnits a b (unitExponent a b)).1 hy
  have hbitsq : (rounded a b : ℚ) ≤ 2 ^ 53 := by exact_mod_cast hbits
  rw [← div_lt_iff₀ hunit, ← inUnits_value, div_lt_iff₀ hyq]
  refine hnext.trans_le ?_
  gcongr

/-- A fraction answered by a positive magnitude is neither very small nor very
large. -/
theorem nearest?_bounds {m : Magnitude} {num den : Nat} (hm : m.mantissa ≠ 0) (hden : 0 < den)
    (h : nearest? num den = some m) : (10 ^ (-330 : Int) : ℚ) < num / den ∧
      (num / den : ℚ) < 10 ^ (309 : Int) := by
  have hnum : num ≠ 0 := by
    rintro rfl
    cases h
    exact hm rfl
  rw [nearest?_eq hnum] at h
  have hb := reduced_den_pos num hden
  have ha := reduced_num_pos hnum den
  rw [← reduced_value num hden]
  generalize num / num.gcd den = a at *
  generalize den / num.gcd den = b at *
  have hleast := (unitExponent_spec ha hb).1
  obtain ⟨hpositive, hbits, hgreatest⟩ := rounded_of_nearestReduced? hm h
  constructor
  · calc (10 ^ (-330 : Int) : ℚ) < 1 / 2 * 2 ^ (-1074 : Int) := least_gt
      _ ≤ 1 / 2 * 2 ^ unitExponent a b := by
        gcongr
        · norm_num
      _ ≤ a / b := half_unit_le hb hpositive
  · calc (a / b : ℚ) < (2 ^ 53 + 1) * 2 ^ unitExponent a b := lt_units hb hbits
      _ ≤ (2 ^ 53 + 1) * 2 ^ (971 : Int) := by
        gcongr
        · norm_num
      _ < 10 ^ (309 : Int) := greatest_lt

end Magnitude
end SsaEdit
