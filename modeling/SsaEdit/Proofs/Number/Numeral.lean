/-
Numerals read back.

A numeral is regular when its parts are what the reader looks for: a sign is a
sign, every digit is a digit, and the whole part and the exponent have digits.
`read?` finds a regular numeral in front of any text that does not continue it.
The decimal form of an integer is one, and its value is the integer.

What `read?` finds in any text is the front of that text, and reads as a numeral by
itself.
-/
import SsaEdit.Number.Numeral
import SsaEdit.Reference

namespace SsaEdit

/-- Decimal digits only. -/
def AllDigits (cs : List Char) : Prop := ∀ c ∈ cs, c.isDigit = true

theorem allDigits_toDigits (n : Nat) : AllDigits (Nat.toDigits 10 n) := fun _ hc =>
  Nat.isDigit_of_mem_toDigits (by decide) (by decide) hc

theorem AllDigits.append {a b : List Char} (ha : AllDigits a) (hb : AllDigits b) :
    AllDigits (a ++ b) := by
  intro c hc
  rcases List.mem_append.1 hc with hc | hc
  · exact ha c hc
  · exact hb c hc

theorem allDigits_replicate_zero (k : Nat) : AllDigits (List.replicate k '0') := by
  intro c hc
  rw [List.eq_of_mem_replicate hc]
  rfl

theorem digitsValue_toDigits (n : Nat) : digitsValue (Nat.toDigits 10 n) = n :=
  Nat.ofDigitChars_ten_toDigits

theorem digitsValue_append (a b : List Char) :
    digitsValue (a ++ b) = Nat.pow 10 b.length * digitsValue a + digitsValue b := by
  rw [digitsValue, Nat.ofDigitChars_append, Nat.ofDigitChars_eq_ofDigitChars_zero]
  rfl

theorem digitsValue_replicate_zero (k : Nat) : digitsValue (List.replicate k '0') = 0 :=
  Nat.ofDigitChars_replicate_zero

/-- Zeros in front change nothing. -/
theorem digitsValue_zeros_append (k : Nat) (cs : List Char) :
    digitsValue (List.replicate k '0' ++ cs) = digitsValue cs := by
  rw [digitsValue_append, digitsValue_replicate_zero, Nat.mul_zero, Nat.zero_add]

namespace SpelledExponent

/-- What the reader takes for an exponent. -/
structure Regular (e : SpelledExponent) : Prop where
  mark : e.mark = 'e' ∨ e.mark = 'E'
  sign : ∀ c ∈ e.sign, c = '+' ∨ c = '-'
  nonempty : e.digits ≠ []
  digits : AllDigits e.digits

end SpelledExponent

namespace Numeral

/-- What the reader takes for a numeral with digits before its point. -/
structure Regular (n : Numeral) : Prop where
  sign : ∀ c ∈ n.sign, c = '+' ∨ c = '-'
  nonempty : n.whole ≠ []
  whole : AllDigits n.whole
  fraction : ∀ digits ∈ n.fraction, AllDigits digits
  exponent : ∀ e ∈ n.exponent, e.Regular

/-- A text that continues no numeral. -/
def Ends (rest : List Char) : Prop :=
  ∀ c ∈ rest.head?, c.isDigit = false ∧ c ≠ '.' ∧ c ≠ 'e' ∧ c ≠ 'E'

/-! ## Reading the parts -/

theorem readDigits_append {digits rest : List Char} (hdigits : AllDigits digits)
    (hrest : ∀ c ∈ rest.head?, c.isDigit = false) :
    readDigits (digits ++ rest) = (digits, rest) := by
  rw [readDigits, List.takeWhile_append_of_pos hdigits, List.dropWhile_append_of_pos hdigits]
  cases rest with
  | nil => simp
  | cons c rest =>
    have hc : c.isDigit = false := hrest c rfl
    simp [hc]

theorem readSign_append {sign : Option Char} {rest : List Char}
    (hsign : ∀ c ∈ sign, c = '+' ∨ c = '-')
    (hrest : ∀ c ∈ rest.head?, c ≠ '+' ∧ c ≠ '-') :
    readSign (sign.toList ++ rest) = (sign, rest) := by
  cases sign with
  | none =>
    cases rest with
    | nil => rfl
    | cons c rest =>
      obtain ⟨hplus, hminus⟩ := hrest c rfl
      simp [readSign, hplus, hminus]
  | some c => exact if_pos (hsign c rfl)

/-- Digits do not begin with a sign. -/
theorem digits_no_sign {digits : List Char} (hdigits : AllDigits digits) (hne : digits ≠ [])
    (rest : List Char) : ∀ c ∈ (digits ++ rest).head?, c ≠ '+' ∧ c ≠ '-' := by
  intro c hc
  obtain ⟨first, others, rfl⟩ := List.exists_cons_of_ne_nil hne
  have hfirst : first = c := by simpa using hc
  have hdigit : c.isDigit = true := hdigits c (hfirst ▸ List.mem_cons_self ..)
  constructor <;>
    rintro rfl <;>
    exact absurd hdigit (by decide)

theorem readExponent_spelling {e : SpelledExponent} (he : e.Regular) {rest : List Char}
    (hrest : ∀ c ∈ rest.head?, c.isDigit = false) :
    readExponent (e.spelling ++ rest) = (some e, rest) := by
  have hsign := readSign_append he.sign (digits_no_sign he.digits he.nonempty rest)
  have hdigits := readDigits_append he.digits hrest
  rw [SpelledExponent.spelling, List.cons_append, readExponent, List.append_assoc, hsign]
  simp only [hdigits]
  exact if_pos ⟨he.mark, he.nonempty⟩

theorem readExponent_none {rest : List Char} (hrest : ∀ c ∈ rest.head?, c ≠ 'e' ∧ c ≠ 'E') :
    readExponent rest = (none, rest) := by
  cases rest with
  | nil => rfl
  | cons c rest =>
    obtain ⟨hlower, hupper⟩ := hrest c rfl
    rw [readExponent]
    exact if_neg fun h => h.1.elim hlower hupper

theorem readFraction_none {rest : List Char} (hrest : ∀ c ∈ rest.head?, c ≠ '.') :
    readFraction rest = (none, rest) := by
  cases rest with
  | nil => rfl
  | cons c rest =>
    rw [readFraction]
    intro _ heq
    cases heq
    exact hrest '.' rfl rfl

/-! ## Reading a numeral -/

/-- The characters of an exponent, if there is one. -/
def exponentSpelling (n : Numeral) : List Char :=
  match n.exponent with
  | some e => e.spelling
  | none => []

/-- The point and the characters after it, if there are any. -/
def fractionSpelling (n : Numeral) : List Char :=
  match n.fraction with
  | some digits => '.' :: digits
  | none => []

theorem spelling_eq (n : Numeral) :
    n.spelling = n.sign.toList ++ (n.whole ++ (n.fractionSpelling ++ n.exponentSpelling)) := by
  rw [spelling, List.append_assoc, List.append_assoc]
  rfl

variable {n : Numeral} {rest : List Char}

theorem readExponent_exponentSpelling (hn : n.Regular) (hrest : Ends rest) :
    readExponent (n.exponentSpelling ++ rest) = (n.exponent, rest) := by
  have hexponent := hn.exponent
  rw [exponentSpelling]
  cases h : n.exponent with
  | none => exact readExponent_none fun c hc => (hrest c hc).2.2
  | some e =>
    rw [h] at hexponent
    exact readExponent_spelling (hexponent e rfl) fun c hc => (hrest c hc).1

/-- What comes after the digits of a regular numeral is not a digit, and it is
not a point either if it comes after those of the fraction. -/
theorem exponentSpelling_head (hn : n.Regular) (hrest : Ends rest) :
    ∀ c ∈ (n.exponentSpelling ++ rest).head?, c.isDigit = false ∧ c ≠ '.' := by
  have hexponent := hn.exponent
  rw [exponentSpelling]
  cases h : n.exponent with
  | none =>
    intro c hc
    exact ⟨(hrest c hc).1, (hrest c hc).2.1⟩
  | some e =>
    intro c hc
    rw [h] at hexponent
    have hmark : e.mark = c := by simpa [SpelledExponent.spelling] using hc
    rcases (hexponent e rfl).mark with hlower | hupper
    · rw [← hmark, hlower]
      decide
    · rw [← hmark, hupper]
      decide

theorem readFraction_fractionSpelling (hn : n.Regular) (hrest : Ends rest) :
    readFraction (n.fractionSpelling ++ (n.exponentSpelling ++ rest)) =
      (n.fraction, n.exponentSpelling ++ rest) := by
  have hfraction := hn.fraction
  have hhead := exponentSpelling_head hn hrest
  rw [fractionSpelling]
  cases h : n.fraction with
  | none => exact readFraction_none fun c hc => (hhead c hc).2
  | some digits =>
    rw [h] at hfraction
    rw [List.cons_append, readFraction,
      readDigits_append (hfraction digits rfl) fun c hc => (hhead c hc).1]

theorem fractionSpelling_head (hn : n.Regular) (hrest : Ends rest) :
    ∀ c ∈ (n.fractionSpelling ++ (n.exponentSpelling ++ rest)).head?, c.isDigit = false := by
  rw [fractionSpelling]
  cases h : n.fraction with
  | none => exact fun c hc => (exponentSpelling_head hn hrest c hc).1
  | some digits =>
    intro c hc
    have hpoint : '.' = c := by simpa using hc
    rw [← hpoint]
    rfl

/-- A regular numeral is read whole in front of anything that does not continue
it. -/
theorem read?_spelling (hn : n.Regular) (hrest : Ends rest) :
    read? (n.spelling ++ rest) = some (n, rest) := by
  have hsign := readSign_append hn.sign (digits_no_sign hn.whole hn.nonempty
    (n.fractionSpelling ++ (n.exponentSpelling ++ rest)))
  have hwhole := readDigits_append hn.whole (fractionSpelling_head hn hrest)
  rw [spelling_eq, List.append_assoc, List.append_assoc, List.append_assoc, read?, hsign]
  simp only [hwhole, readFraction_fractionSpelling hn hrest, readExponent_exponentSpelling hn hrest]
  exact if_neg fun h => hn.nonempty h.1

theorem read?_self (hn : n.Regular) : read? n.spelling = some (n, []) := by
  have hends : Ends [] := fun c hc => by cases hc
  have hread := read?_spelling hn hends
  rwa [List.append_nil] at hread

/-! ## What is read -/

section Parts

variable {cs rest : List Char}

theorem of_readSign {sign : Option Char} (h : readSign cs = (sign, rest)) :
    sign.toList ++ rest = cs ∧ ∀ c ∈ sign, c = '+' ∨ c = '-' := by
  cases cs with
  | nil =>
    cases h
    exact ⟨rfl, fun c hc => by cases hc⟩
  | cons first others =>
    rw [readSign] at h
    split at h
    case isTrue hsign =>
      cases h
      exact ⟨rfl, fun c hc => Option.some.inj hc ▸ hsign⟩
    case isFalse =>
      cases h
      exact ⟨rfl, fun c hc => by cases hc⟩

theorem of_readDigits {digits : List Char} (h : readDigits cs = (digits, rest)) :
    digits ++ rest = cs ∧ AllDigits digits := by
  cases h
  exact ⟨List.takeWhile_append_dropWhile, List.all_eq_true.1 List.all_takeWhile⟩

theorem of_readFraction {fraction : Option (List Char)} (h : readFraction cs = (fraction, rest)) :
    (fraction = none ∧ rest = cs) ∨
      ∃ digits, fraction = some digits ∧ AllDigits digits ∧ '.' :: (digits ++ rest) = cs := by
  rw [readFraction.eq_def] at h
  split at h
  case h_1 after =>
    cases h
    obtain ⟨hsame, hdigits⟩ := of_readDigits (rfl : readDigits after = _)
    exact Or.inr ⟨_, rfl, hdigits, congrArg ('.' :: ·) hsame⟩
  case h_2 =>
    cases h
    exact Or.inl ⟨rfl, rfl⟩

theorem of_readExponent {exponent : Option SpelledExponent}
    (h : readExponent cs = (exponent, rest)) :
    (exponent = none ∧ rest = cs) ∨ ∃ e, exponent = some e ∧ e.spelling ++ rest = cs := by
  cases cs with
  | nil =>
    cases h
    exact Or.inl ⟨rfl, rfl⟩
  | cons mark others =>
    rcases hsign : readSign others with ⟨sign, unsigned⟩
    rcases hdigits : readDigits unsigned with ⟨digits, after⟩
    simp only [readExponent, hsign, hdigits] at h
    split at h
    case isTrue =>
      cases h
      refine Or.inr ⟨_, rfl, ?_⟩
      rw [SpelledExponent.spelling, List.cons_append, List.append_assoc,
        (of_readDigits hdigits).1, (of_readSign hsign).1]
    case isFalse =>
      cases h
      exact Or.inl ⟨rfl, rfl⟩

/-- The parts that a numeral is read in. -/
theorem exists_of_read? {n : Numeral} (h : read? cs = some (n, rest)) :
    ∃ unsigned afterWhole afterFraction, readSign cs = (n.sign, unsigned) ∧
      readDigits unsigned = (n.whole, afterWhole) ∧
        readFraction afterWhole = (n.fraction, afterFraction) ∧
          readExponent afterFraction = (n.exponent, rest) ∧
            ¬(n.whole = [] ∧ n.fraction.getD [] = []) := by
  rw [read?] at h
  obtain ⟨hsome, h⟩ := Option.ite_none_left_eq_some.1 h
  cases h
  exact ⟨_, _, _, rfl, rfl, rfl, rfl, hsome⟩

/-- What is read has digits only before its point. -/
theorem allDigits_whole {n : Numeral} (h : read? cs = some (n, rest)) : AllDigits n.whole := by
  obtain ⟨unsigned, afterWhole, afterFraction, -, hwhole, -⟩ := exists_of_read? h
  exact (of_readDigits hwhole).2

/-- A numeral that is read is in front of the rest. -/
theorem spelling_append_of_read? {n : Numeral} (h : read? cs = some (n, rest)) :
    n.spelling ++ rest = cs := by
  obtain ⟨unsigned, afterWhole, afterFraction, hsign, hwhole, hfraction, hexponent, -⟩ :=
    exists_of_read? h
  have hexponent : n.exponentSpelling ++ rest = afterFraction := by
    rw [exponentSpelling]
    rcases of_readExponent hexponent with ⟨hnone, hrest⟩ | ⟨e, hsome, hrest⟩
    · rw [hnone]
      exact hrest
    · rw [hsome]
      exact hrest
  have hfraction : n.fractionSpelling ++ afterFraction = afterWhole := by
    rw [fractionSpelling]
    rcases of_readFraction hfraction with ⟨hnone, hrest⟩ | ⟨digits, hsome, -, hrest⟩
    · rw [hnone]
      exact hrest
    · rw [hsome]
      exact hrest
  rw [spelling_eq, List.append_assoc, List.append_assoc, List.append_assoc, hexponent, hfraction,
    (of_readDigits hwhole).1, (of_readSign hsign).1]

/-- A digit after the sign, or after the sign and a point, begins a numeral. -/
theorem read?_ne_none {sign : Option Char} (hsign : ∀ c ∈ sign, c = '+' ∨ c = '-') {c : Char}
    (hc : c.isDigit = true) (rest : List Char) :
    read? (sign.toList ++ c :: rest) ≠ none ∧ read? (sign.toList ++ '.' :: c :: rest) ≠ none := by
  have hnosign : ∀ d, d = '.' ∨ d.isDigit = true → d ≠ '+' ∧ d ≠ '-' := by
    intro d hd
    constructor <;> rintro rfl <;> revert hd <;> decide
  have hdigit : readSign (sign.toList ++ c :: rest) = (sign, c :: rest) :=
    readSign_append hsign fun d hd => hnosign d (Or.inr (Option.some.inj hd ▸ hc))
  have hpoint : readSign (sign.toList ++ '.' :: c :: rest) = (sign, '.' :: c :: rest) :=
    readSign_append hsign fun d hd => hnosign d (Or.inl (Option.some.inj hd).symm)
  constructor
  · rw [read?, hdigit]
    simp [readDigits, hc]
  · rw [read?, hpoint]
    have hstop : Char.isDigit '.' = false := rfl
    simp [readDigits, readFraction, hc, hstop]

/-- What is read of a text is read of its spelling, too. -/
theorem exists_read?_spelling {n : Numeral} (h : read? cs = some (n, rest)) :
    ∃ found, read? n.spelling = some found := by
  obtain ⟨unsigned, afterWhole, afterFraction, hsign, hwhole, hfraction, -, hsome⟩ :=
    exists_of_read? h
  obtain ⟨-, hsign⟩ := of_readSign hsign
  obtain ⟨-, hwhole⟩ := of_readDigits hwhole
  refine Option.ne_none_iff_exists'.1 ?_
  rw [spelling_eq]
  cases hdigits : n.whole with
  | cons c digits =>
    rw [hdigits] at hwhole
    exact (read?_ne_none hsign (hwhole c List.mem_cons_self) _).1
  | nil =>
    rw [fractionSpelling]
    rcases of_readFraction hfraction with ⟨hnone, -⟩ | ⟨digits, hfound, hall, -⟩
    · exact absurd ⟨hdigits, by rw [hnone]; rfl⟩ hsome
    · cases digits with
      | nil => exact absurd ⟨hdigits, by rw [hfound]; rfl⟩ hsome
      | cons c digits =>
        rw [hfound]
        exact (read?_ne_none hsign (hall c List.mem_cons_self) _).2

end Parts

/-! ## Integers -/

/-- The numeral of an integer. -/
def ofInt (i : Int) : Numeral :=
  ⟨if i < 0 then some '-' else none, Nat.toDigits 10 i.natAbs, none, none⟩

theorem regular_ofInt (i : Int) : (ofInt i).Regular where
  sign := by
    intro c hc
    rw [ofInt] at hc
    split at hc
    · cases hc
      exact .inr rfl
    · cases hc
  nonempty := Nat.toDigits_ne_nil
  whole := allDigits_toDigits _
  fraction := fun _ h => by cases h
  exponent := fun _ h => by cases h

theorem spelling_ofInt (i : Int) : (ofInt i).spelling = (decimalInt i).toList := by
  rw [spelling, ofInt, decimalInt]
  split
  · simp [decimal]
  · simp [decimal]

theorem integer?_ofInt (i : Int) : (ofInt i).integer? = some i := by
  rw [integer?, ofInt]
  simp only [withSign, digitsValue_toDigits]
  split
  · rw [if_pos rfl]
    congr 1
    omega
  · rw [if_neg (by decide)]
    congr 1
    omega

theorem natAbs_integer? {n : Numeral} {value : Int} (h : n.integer? = some value) :
    value.natAbs = digitsValue n.whole := by
  rw [integer?] at h
  split at h
  · rw [← Option.some.inj h, withSign]
    split
    · exact Int.natAbs_neg _
    · rfl
  · cases h

end Numeral
end SsaEdit
