/-
The written form of a floating-point number reads back as that number.

Whatever `shortest` settles on reads back, by the grids' own test or because it
is the magnitude itself.  Laid out in either way the decimal is a regular numeral
of the same value, and the reader of decimals never takes its shortcut for very
small and very large ones, since the value lies close to a magnitude.
-/
import SsaEdit.Number.Shortest
import SsaEdit.Proofs.Number.Nearest
import SsaEdit.Proofs.Number.Numeral

namespace SsaEdit

namespace Decimal

/-- The rational number that a decimal stands for. -/
def value (d : Decimal) : ℚ := d.coefficient * 10 ^ d.exponent

end Decimal

/-- The fraction that stands for a decimal has its value. -/
theorem decimal_fraction_value (coefficient : Nat) (e : Int) :
    ((coefficient * Nat.pow 10 e.toNat : Nat) : ℚ) / (Nat.pow 10 (-e).toNat : Nat) =
      coefficient * 10 ^ e := by
  have hpow := pow_toNat_div (by decide : 0 < 10) e
  rw [Nat.cast_mul, mul_div_assoc, hpow]
  rfl

theorem pow_ten_pos (k : Nat) : 0 < Nat.pow 10 k := Nat.pow_pos (by decide)

namespace Magnitude

/-! ## The shortest decimal -/

theorem readsBack_exactDecimal {m : Magnitude} (hm : m.mantissa ≠ 0) :
    m.readsBack m.exactDecimal = true := by
  rw [readsBack, decide_eq_true_eq]
  refine nearest?_of_value hm (pow_ten_pos _) ?_
  rw [decimal_fraction_value, exactDecimal, value]
  split
  case isTrue hnegative =>
    obtain ⟨k, hk⟩ : ∃ k : Nat, m.exponent = -(k : Int) := ⟨(-m.exponent).toNat, by omega⟩
    have hten : (10 : ℚ) ^ k = 2 ^ k * 5 ^ k := by
      rw [← mul_pow]
      norm_num
    have hfive : (5 : ℚ) ^ k ≠ 0 := by positivity
    rw [hk, neg_neg, Int.toNat_natCast, Nat.pow_eq]
    push_cast
    rw [zpow_neg, zpow_neg, zpow_natCast, zpow_natCast, hten]
    field_simp
  case isFalse hwhole =>
    obtain ⟨k, hk⟩ : ∃ k : Nat, m.exponent = (k : Int) := ⟨m.exponent.toNat, by omega⟩
    rw [hk, Int.toNat_natCast, Nat.pow_eq]
    push_cast
    rw [zpow_natCast, mul_one]

theorem readsBack_of_onGrid? {m : Magnitude} {e : Int} {d : Decimal}
    (h : m.onGrid? e = some d) : m.readsBack d = true := by
  rw [onGrid?] at h
  generalize m.fraction = fraction at h
  obtain ⟨num, den⟩ := fraction
  simp only at h
  split at h
  case h_1 hbelow habove =>
    cases h
    split
    · exact hbelow
    · exact habove
  case h_2 hbelow _ =>
    cases h
    exact hbelow
  case h_3 _ habove =>
    cases h
    exact habove
  case h_4 => cases h

theorem readsBack_shortest {m : Magnitude} (hm : m.mantissa ≠ 0) :
    m.readsBack m.shortest = true := by
  rw [shortest]
  cases h : (List.range 17).findSome? fun k => m.onGrid? (m.decimalPoint - (k + 1 : Nat)) with
  | none => exact readsBack_exactDecimal hm
  | some d =>
    obtain ⟨k, _, hk⟩ := List.exists_of_findSome?_eq_some h
    exact readsBack_of_onGrid? hk

end Magnitude

/-! ## Reading a decimal -/

/-- A positive number of `k` digits lies between two powers of ten. -/
theorem toDigits_bounds {n : Nat} (hn : n ≠ 0) :
    10 ^ ((Nat.toDigits 10 n).length - 1) ≤ n ∧ n < 10 ^ (Nat.toDigits 10 n).length := by
  have hlength : 0 < (Nat.toDigits 10 n).length := Nat.length_toDigits_pos
  refine ⟨?_, (Nat.length_toDigits_le_iff (by decide) hlength).1 (Nat.le_refl _)⟩
  by_cases hone : (Nat.toDigits 10 n).length = 1
  · rw [hone]
    exact Nat.pos_of_ne_zero hn
  · by_contra hsmall
    have hle := (Nat.length_toDigits_le_iff (n := n) (k := (Nat.toDigits 10 n).length - 1)
      (by decide : 1 < 10) (by omega)).2 (by omega)
    omega

/-- A number of `k` digits in units of a power of ten lies between two powers of ten. -/
theorem scaled_bounds {coefficient : Nat} (hcoefficient : coefficient ≠ 0) (e : Int) :
    ((10 : ℚ) ^ ((Nat.toDigits 10 coefficient).length - 1 + e) ≤ coefficient * 10 ^ e) ∧
      (coefficient * 10 ^ e : ℚ) < 10 ^ ((Nat.toDigits 10 coefficient).length + e) := by
  obtain ⟨hmore, hless⟩ := toDigits_bounds hcoefficient
  have hlength : 0 < (Nat.toDigits 10 coefficient).length := Nat.length_toDigits_pos
  generalize (Nat.toDigits 10 coefficient).length = k at *
  constructor
  · obtain ⟨j, rfl⟩ : ∃ j, k = j + 1 := ⟨k - 1, by omega⟩
    rw [zpow_add₀ (by norm_num), Nat.cast_succ, add_sub_cancel_right, zpow_natCast]
    gcongr
    exact_mod_cast hmore
  · rw [zpow_add₀ (by norm_num), zpow_natCast]
    gcongr
    exact_mod_cast hless

/-- Between the points where the reader of decimals gives up, it rounds. -/
theorem Binary64.ofDecimal_of_bounds {m : Magnitude} {coefficient : Nat} {e : Int}
    (hlow : (10 ^ (-330 : Int) : ℚ) < coefficient * 10 ^ e)
    (hhigh : (coefficient * 10 ^ e : ℚ) < 10 ^ (309 : Int))
    (hnearest : Magnitude.nearest? (coefficient * Nat.pow 10 e.toNat) (Nat.pow 10 (-e).toNat) =
      some m) (negative : Bool) :
    Binary64.ofDecimal negative coefficient e = .finite negative m := by
  have hcoefficient : coefficient ≠ 0 := by
    rintro rfl
    rw [Nat.cast_zero, zero_mul] at hlow
    have hpositive : (0 : ℚ) < 10 ^ (-330 : Int) := by positivity
    exact absurd hlow (not_lt.2 hpositive.le)
  obtain ⟨hmore, hless⟩ := scaled_bounds hcoefficient e
  generalize hk : (Nat.toDigits 10 coefficient).length = k at *
  have hvanishing : ¬ (k : Int) + e ≤ Binary64.vanishingPoint := by
    intro hle
    have hpow : (10 : ℚ) ^ ((k : Int) + e) ≤ 10 ^ (-330 : Int) :=
      zpow_le_zpow_right₀ (by norm_num) hle
    linarith
  have hoverflow : ¬ Binary64.overflowPoint ≤ (k : Int) + e := by
    intro hle
    have hexponent : (309 : Int) ≤ (k : Int) - 1 + e := by
      have hpoint : (310 : Int) ≤ (k : Int) + e := hle
      omega
    have hpow : (10 : ℚ) ^ (309 : Int) ≤ 10 ^ ((k : Int) - 1 + e) :=
      zpow_le_zpow_right₀ (by norm_num) hexponent
    linarith
  rw [Binary64.ofDecimal]
  simp only [hk, hnearest]
  rw [if_neg (not_or.2 ⟨hcoefficient, hvanishing⟩), if_neg hoverflow]

/-- A decimal of the value of one that reads back as a magnitude is read as that
magnitude too. -/
theorem Binary64.ofDecimal_of_value {m : Magnitude} (hm : m.mantissa ≠ 0) {d : Decimal}
    (hback : m.readsBack d = true) {coefficient : Nat} {e : Int}
    (hvalue : (coefficient * 10 ^ e : ℚ) = d.value) (negative : Bool) :
    Binary64.ofDecimal negative coefficient e = .finite negative m := by
  rw [Magnitude.readsBack, decide_eq_true_eq] at hback
  have hbounds := Magnitude.nearest?_bounds hm (pow_ten_pos _) hback
  have hsame : Magnitude.nearest? (coefficient * Nat.pow 10 e.toNat) (Nat.pow 10 (-e).toNat) =
      some m := by
    rw [← hback]
    refine Magnitude.nearest?_congr (pow_ten_pos _) (pow_ten_pos _) ?_
    rw [decimal_fraction_value, decimal_fraction_value, hvalue]
    rfl
  rw [decimal_fraction_value] at hbounds
  obtain ⟨hlow, hhigh⟩ : (10 ^ (-330 : Int) : ℚ) < coefficient * 10 ^ e ∧
      (coefficient * 10 ^ e : ℚ) < 10 ^ (309 : Int) := by
    rw [hvalue]
    exact hbounds
  exact Binary64.ofDecimal_of_bounds hlow hhigh hsame negative

/-! ## The digits of a decimal -/

namespace Decimal

/-- The digits and the zeros that were stripped off. -/
theorem exists_zeros (d : Decimal) :
    ∃ k, Nat.toDigits 10 d.coefficient = d.digits ++ List.replicate k '0' := by
  generalize hall : (Nat.toDigits 10 d.coefficient).reverse = backwards
  have hsplit := List.takeWhile_append_dropWhile (p := (· == '0')) (l := backwards)
  have hzeros : backwards.takeWhile (· == '0') =
      List.replicate (backwards.takeWhile (· == '0')).length '0' :=
    List.eq_replicate_of_mem fun c hc => eq_of_beq (List.all_eq_true.1 List.all_takeWhile c hc)
  refine ⟨(backwards.takeWhile (· == '0')).length, ?_⟩
  rw [digits, hall, ← List.reverse_replicate, ← hzeros, ← List.reverse_append, hsplit, ← hall,
    List.reverse_reverse]

theorem allDigits_digits (d : Decimal) : AllDigits d.digits := by
  obtain ⟨k, hk⟩ := d.exists_zeros
  intro c hc
  apply allDigits_toDigits d.coefficient
  rw [hk]
  exact List.mem_append_left _ hc

theorem digits_ne_nil {d : Decimal} (hd : d.coefficient ≠ 0) : d.digits ≠ [] := by
  obtain ⟨k, hk⟩ := d.exists_zeros
  intro hnil
  have hvalue := digitsValue_toDigits d.coefficient
  rw [hk, hnil, List.nil_append, digitsValue_replicate_zero] at hvalue
  exact hd hvalue.symm

/-- The digits after a point that is moved to their front. -/
theorem digits_value (d : Decimal) :
    (digitsValue d.digits * 10 ^ (d.point - d.digits.length) : ℚ) = d.value := by
  obtain ⟨k, hk⟩ := d.exists_zeros
  have hcoefficient : d.coefficient = 10 ^ k * digitsValue d.digits := by
    have hvalue := digitsValue_toDigits d.coefficient
    rw [hk, digitsValue_append, digitsValue_replicate_zero, List.length_replicate, Nat.pow_eq] at hvalue
    omega
  have hpoint : d.point - d.digits.length = k + d.exponent := by
    rw [point, hk, List.length_append, List.length_replicate]
    push_cast
    omega
  rw [hpoint, value, hcoefficient, zpow_add₀ (by norm_num), zpow_natCast]
  push_cast
  ring

end Decimal

/-! ## Layouts -/

namespace Numeral

/-- The digits of a numeral as one number. -/
def coefficient (n : Numeral) : Nat := digitsValue (n.whole ++ n.fraction.getD [])

/-- The power of ten in whose units the coefficient counts. -/
def scale (n : Numeral) : Int :=
  (match n.exponent with
   | some e => e.value
   | none => 0) - (n.fraction.getD []).length

theorem toBinary64_eq (n : Numeral) :
    n.toBinary64 = .ofDecimal (n.sign = some '-') n.coefficient n.scale := rfl

/-- A numeral without a sign that lays out digits around a point, and is not an
integer. -/
structure Lays (n : Numeral) (cs digits : List Char) (point : Int) : Prop where
  regular : n.Regular
  unsigned : n.sign = none
  spelling : n.spelling = cs
  inexact : n.integer? = none
  value : (n.coefficient * 10 ^ n.scale : ℚ) =
    digitsValue digits * 10 ^ (point - digits.length)

end Numeral

namespace FloatLayout

variable {digits : List Char}

/-- Digits that stand behind the point, with the zeros that bring them there. -/
theorem lays_behind (hdigits : AllDigits digits) {point : Int} (hpoint : point ≤ 0) :
    Numeral.Lays ⟨none, ['0'], some (List.replicate (-point).toNat '0' ++ digits), none⟩
      ('0' :: '.' :: (List.replicate (-point).toNat '0' ++ digits)) digits point := by
  refine ⟨⟨by simp, by simp, allDigits_replicate_zero 1, ?_, by simp⟩, rfl,
    by simp [Numeral.spelling], rfl, ?_⟩
  · rintro _ ⟨⟩
    exact (allDigits_replicate_zero _).append hdigits
  · have hcoefficient : digitsValue (['0'] ++ (List.replicate (-point).toNat '0' ++ digits)) =
        digitsValue digits := by
      rw [← List.append_assoc]
      exact digitsValue_zeros_append ((-point).toNat + 1) digits
    have hscale : (0 : Int) - (List.replicate (-point).toNat '0' ++ digits).length =
        point - digits.length := by
      rw [List.length_append, List.length_replicate]
      push_cast
      omega
    simp only [Numeral.coefficient, Numeral.scale, Option.getD_some, hcoefficient, hscale]

/-- Digits that stand before the point, with the zeros that fill up to it. -/
theorem lays_before (hdigits : AllDigits digits) (hne : digits ≠ []) {point : Int}
    (hpoint : (digits.length : Int) ≤ point) :
    Numeral.Lays
      ⟨none, digits ++ List.replicate (point.toNat - digits.length) '0', some ['0'], none⟩
      (digits ++ List.replicate (point.toNat - digits.length) '0' ++ ['.', '0']) digits point := by
  refine ⟨⟨by simp, by simp [hne], hdigits.append (allDigits_replicate_zero _), ?_, by simp⟩, rfl,
    by simp [Numeral.spelling], rfl, ?_⟩
  · rintro _ ⟨⟩
    exact allDigits_replicate_zero 1
  · obtain ⟨k, rfl⟩ : ∃ k : Nat, point = digits.length + k :=
      ⟨(point - digits.length).toNat, by omega⟩
    have hzeros : ((digits.length : Int) + k).toNat - digits.length = k := by omega
    have hcoefficient : digitsValue (digits ++ List.replicate k '0' ++ ['0']) =
        10 ^ (k + 1) * digitsValue digits := by
      have hlast : List.replicate k '0' ++ ['0'] = List.replicate (k + 1) '0' :=
        List.replicate_succ'.symm
      rw [List.append_assoc, digitsValue_append, hlast, digitsValue_replicate_zero,
        List.length_replicate, Nat.add_zero, Nat.pow_eq]
    simp only [Numeral.coefficient, Numeral.scale, Option.getD_some, hzeros, hcoefficient,
      List.length_singleton, add_sub_cancel_left, zpow_natCast]
    push_cast
    rw [pow_succ, zpow_neg_one]
    ring

/-- Digits with the point among them. -/
theorem lays_around (hdigits : AllDigits digits) {point : Int} (hpositive : 0 < point)
    (hpoint : point < digits.length) :
    Numeral.Lays ⟨none, digits.take point.toNat, some (digits.drop point.toNat), none⟩
      (digits.take point.toNat ++ '.' :: digits.drop point.toNat) digits point := by
  refine ⟨⟨by simp, ?_, fun c hc => hdigits c (List.mem_of_mem_take hc), ?_, by simp⟩, rfl,
    by simp [Numeral.spelling], rfl, ?_⟩
  · intro hnil
    have hlength := congrArg List.length hnil
    rw [List.length_take, List.length_nil] at hlength
    omega
  · rintro _ ⟨⟩
    exact fun c hc => hdigits c (List.mem_of_mem_drop hc)
  · have hscale : (0 : Int) - (digits.drop point.toNat).length = point - digits.length := by
      rw [List.length_drop]
      omega
    simp only [Numeral.coefficient, Numeral.scale, Option.getD_some, List.take_append_drop, hscale]

theorem exists_lays_positional (hdigits : AllDigits digits) (hne : digits ≠ []) (point : Int) :
    ∃ n : Numeral, n.Lays (positional digits point) digits point := by
  rw [positional]
  split
  case isTrue hbehind => exact ⟨_, lays_behind hdigits hbehind⟩
  case isFalse hpositive =>
    simp only
    split
    case isTrue hbefore => exact ⟨_, lays_before hdigits hne (by omega)⟩
    case isFalse haround => exact ⟨_, lays_around hdigits (by omega) (by omega)⟩

/-- The exponent as the layout in powers of ten spells it. -/
def spelledExponent (layout : FloatLayout) (exponent : Int) : SpelledExponent where
  mark := 'e'
  sign := some (if exponent < 0 then '-' else '+')
  digits := List.replicate (layout.exponentWidth - (Nat.toDigits 10 exponent.natAbs).length) '0' ++
    Nat.toDigits 10 exponent.natAbs

theorem regular_spelledExponent (layout : FloatLayout) (exponent : Int) :
    (layout.spelledExponent exponent).Regular := by
  refine ⟨.inl rfl, ?_, by simp [spelledExponent],
    (allDigits_replicate_zero _).append (allDigits_toDigits _)⟩
  rintro _ ⟨⟩
  split
  · exact .inr rfl
  · exact .inl rfl

theorem value_spelledExponent (layout : FloatLayout) (exponent : Int) :
    (layout.spelledExponent exponent).value = exponent := by
  rw [SpelledExponent.value, spelledExponent]
  simp only
  rw [digitsValue_zeros_append, digitsValue_toDigits, withSign]
  split
  · rw [if_pos rfl]
    omega
  · rw [if_neg (by decide)]
    omega

theorem exists_lays_scientific (layout : FloatLayout) (hdigits : AllDigits digits)
    (hne : digits ≠ []) (point : Int) :
    ∃ n : Numeral, n.Lays (layout.scientific digits point) digits point := by
  obtain ⟨first, rest, rfl⟩ := List.exists_cons_of_ne_nil hne
  have hrest : AllDigits rest := fun c hc => hdigits c (List.mem_cons_of_mem _ hc)
  have hfirst : AllDigits [first] := fun c hc => by
    rw [List.mem_singleton.1 hc]
    exact hdigits first (List.mem_cons_self ..)
  have hfraction : (if rest.isEmpty then none else some rest).getD [] = rest := by
    cases rest <;> rfl
  have hscale : point - 1 - (rest.length : Int) = point - (first :: rest).length := by
    rw [List.length_cons]
    push_cast
    omega
  refine ⟨⟨none, [first], if rest.isEmpty then none else some rest,
      some (layout.spelledExponent (point - 1))⟩,
    ⟨by simp, by simp, hfirst, ?_, ?_⟩, rfl, ?_, by simp [Numeral.integer?], ?_⟩
  · intro ds hds
    split at hds
    · cases hds
    · cases hds
      exact hrest
  · rintro _ ⟨⟩
    exact layout.regular_spelledExponent (point - 1)
  · rw [scientific]
    cases rest <;> simp [Numeral.spelling, SpelledExponent.spelling, spelledExponent]
  · simp only [Numeral.coefficient, Numeral.scale, hfraction, value_spelledExponent, hscale]
    rfl

/-! ## Written numbers -/

/-- A numeral without a sign that is no integer and is read as a magnitude. -/
structure Spells (n : Numeral) (cs : List Char) (m : Magnitude) : Prop where
  regular : n.Regular
  unsigned : n.sign = none
  spelling : n.spelling = cs
  inexact : n.integer? = none
  value : ∀ negative, Binary64.ofDecimal negative n.coefficient n.scale = .finite negative m

theorem spells_zero : Spells ⟨none, ['0'], some ['0'], none⟩ ['0', '.', '0'] .zero := by
  refine ⟨⟨by simp, by simp, allDigits_replicate_zero 1, ?_, by simp⟩, rfl, rfl, rfl, fun _ => rfl⟩
  rintro _ ⟨⟩
  exact allDigits_replicate_zero 1

theorem exists_spells_magnitude (layout : FloatLayout) (m : Magnitude) :
    ∃ n : Numeral, Spells n (layout.magnitude m) m := by
  rw [magnitude]
  split
  case isTrue hzero =>
    rw [Magnitude.eq_zero_of_mantissa hzero]
    exact ⟨_, spells_zero⟩
  case isFalse hpositive =>
    have hback := Magnitude.readsBack_shortest hpositive
    have hcoefficient : m.shortest.coefficient ≠ 0 := by
      intro hzero
      rw [Magnitude.readsBack, decide_eq_true_eq, hzero, Nat.zero_mul] at hback
      cases hback
      exact hpositive rfl
    have hdigits := m.shortest.allDigits_digits
    have hne := Decimal.digits_ne_nil hcoefficient
    -- either layout keeps the value, and the value is all that matters
    have hlays : ∃ n : Numeral, n.Lays
        (if layout.leastPoint ≤ m.shortest.point ∧ m.shortest.point ≤ layout.greatestPoint then
          positional m.shortest.digits m.shortest.point
        else layout.scientific m.shortest.digits m.shortest.point)
        m.shortest.digits m.shortest.point := by
      split
      · exact exists_lays_positional hdigits hne _
      · exact exists_lays_scientific layout hdigits hne _
    obtain ⟨n, hn⟩ := hlays
    have hvalue := hn.value.trans (Decimal.digits_value m.shortest)
    exact ⟨n, hn.regular, hn.unsigned, hn.spelling, hn.inexact,
      Binary64.ofDecimal_of_value hpositive hback hvalue⟩

/-- What is written for a finite number is a regular numeral, not an integer, and
its value is that number. -/
theorem exists_numeral_write (layout : FloatLayout) (negative : Bool) (m : Magnitude) :
    ∃ n : Numeral, n.Regular ∧ n.spelling = layout.write (.finite negative m) ∧
      n.integer? = none ∧ n.toBinary64 = .finite negative m := by
  obtain ⟨n, hn⟩ := exists_spells_magnitude layout m
  have hregular := hn.regular
  refine ⟨{ n with sign := if negative then some '-' else none }, ⟨?_, hregular.nonempty,
    hregular.whole, hregular.fraction, hregular.exponent⟩, ?_, ?_, ?_⟩
  · intro c hc
    cases negative
    · cases hc
    · cases hc
      exact .inr rfl
  · rw [write, ← hn.spelling]
    cases negative <;> simp [Numeral.spelling, hn.unsigned]
  · have hinexact := hn.inexact
    rw [Numeral.integer?] at hinexact ⊢
    cases hfraction : n.fraction <;> cases hexponent : n.exponent <;> simp_all
  · have hsign : decide ((if negative then some '-' else none) = some '-') = negative := by
      cases negative <;> rfl
    rw [Numeral.toBinary64_eq]
    simp only [hsign]
    exact hn.value negative

end FloatLayout
end SsaEdit
