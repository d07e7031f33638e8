/-
Text literals read back.

What `encode` writes for a code point is taken whole by the scanner of literals
and decodes to that code point alone, provided that the code point needs one
sixteen-bit unit.  A text of such code points therefore comes back as it was.
-/
import SsaEdit.Listing.Token
import SsaEdit.Text.Literal

namespace SsaEdit
namespace Text

/-- A text in which every code point is one sixteen-bit unit. -/
def Narrow (t : Text) : Prop := ∀ p ∈ t, p.val < 0x10000

instance (t : Text) : Decidable (Narrow t) :=
  List.decidableBAll _ t

/-! ## Hexadecimal digits -/

theorem digitValue?_digitChar {d : Nat} (hd : d < 16) :
    digitValue? 16 (Nat.digitChar d) = some d := by
  have hall : ∀ d < 16, digitValue? 16 (Nat.digitChar d) = some d := by decide
  exact hall d hd

/-- Padded to four digits, a unit has one digit for each four bits. -/
theorem hexadecimal_four {n : Nat} (hn : n < 0x10000) :
    hexadecimal 4 n =
      [Nat.digitChar (n / 4096), Nat.digitChar (n / 256 % 16), Nat.digitChar (n / 16 % 16),
        Nat.digitChar (n % 16)] := by
  have hstep : ∀ m, 16 ≤ m → Nat.toDigits 16 m = Nat.toDigits 16 (m / 16) ++ [(m % 16).digitChar] :=
    fun m hm => Nat.toDigits_of_base_le (by decide) hm
  have hlast : ∀ m, m < 16 → Nat.toDigits 16 m = [m.digitChar] :=
    fun m hm => Nat.toDigits_of_lt_base hm
  unfold hexadecimal
  by_cases h1 : n < 16
  · have h256 : n / 256 = 0 := by omega
    have h16 : n / 16 = 0 := by omega
    have h4096 : n / 4096 = 0 := by omega
    rw [hlast n h1, h256, h16, h4096, Nat.mod_eq_of_lt h1]
    rfl
  by_cases h2 : n < 256
  · have h256 : n / 256 = 0 := by omega
    have h16 : n / 16 < 16 := by omega
    have h4096 : n / 4096 = 0 := by omega
    rw [hstep n (by omega), hlast _ h16, h256, h4096, Nat.mod_eq_of_lt h16]
    rfl
  by_cases h3 : n < 4096
  · have h256 : n / 16 / 16 < 16 := by omega
    have h4096 : n / 4096 = 0 := by omega
    have hquot : n / 16 / 16 = n / 256 := by omega
    have hsecond : n / 256 % 16 = n / 256 := Nat.mod_eq_of_lt (by omega)
    rw [hstep n (by omega), hstep (n / 16) (by omega), hlast _ h256, h4096, hquot, hsecond]
    rfl
  · have h4096 : n / 16 / 16 / 16 < 16 := by omega
    have hquot : n / 16 / 16 = n / 256 := by omega
    have htop : n / 256 / 16 = n / 4096 := by omega
    rw [hstep n (by omega), hstep (n / 16) (by omega), hstep (n / 16 / 16) (by omega),
      hlast _ h4096, hquot, htop]
    rfl

/-! ## Decoding one code point -/

theorem decodeFrom_encodeUnit {n : Nat} (hn : n < 0x10000) (rest : List Char) :
    decodeFrom .plain (encodeUnit n ++ rest) =
      (decodeFrom .plain rest).map (⟨n, by omega⟩ :: ·) := by
  have hvalue : 16 * (16 * (16 * (n / 4096) + n / 256 % 16) + n / 16 % 16) + n % 16 = n := by
    omega
  have hpoint : CodePoint.ofNat? n = some ⟨n, by omega⟩ := dif_pos (by omega)
  have h1 := digitValue?_digitChar (show n / 4096 < 16 by omega)
  have h2 := digitValue?_digitChar (show n / 256 % 16 < 16 by omega)
  have h3 := digitValue?_digitChar (show n / 16 % 16 < 16 by omega)
  have h4 := digitValue?_digitChar (show n % 16 < 16 by omega)
  rw [encodeUnit, hexadecimal_four hn]
  simp [decodeFrom, escapeLetter?, hexWidth?, h1, h2, h3, h4, hvalue, hpoint]

theorem toNat_ofNat {n : Nat} (hn : n < 0x7F) : (Char.ofNat n).toNat = n := by
  have hall : ∀ n < 0x7F, (Char.ofNat n).toNat = n := by decide
  exact hall n hn

theorem ofNat_ne {n : Nat} {c : Char} (hn : n < 0x7F) (hc : n ≠ c.toNat) : Char.ofNat n ≠ c := by
  intro heq
  rw [← heq, toNat_ofNat hn] at hc
  exact hc rfl

/-- A character that stands for itself inside a literal. -/
theorem decodeFrom_plain {c : Char} (hescape : c ≠ '\\') (hreturn : c ≠ '\r') (rest : List Char) :
    decodeFrom .plain (c :: rest) = (decodeFrom .plain rest).map (.ofChar c :: ·) := by
  simp only [decodeFrom, if_neg hescape, if_neg hreturn]

theorem decodeFrom_encodePoint {p : CodePoint} (hp : p.val < 0x10000) (rest : List Char) :
    decodeFrom .plain (encodePoint p ++ rest) = (decodeFrom .plain rest).map (p :: ·) := by
  obtain ⟨n, hn⟩ := p
  unfold encodePoint
  split
  case h_8 h1 h2 h3 h4 h5 h6 h7 =>
    split
    case isTrue hprintable =>
      have hescape : Char.ofNat n ≠ '\\' := ofNat_ne hprintable.2 h2
      have hreturn : Char.ofNat n ≠ '\r' := ofNat_ne hprintable.2 h4
      have hback : CodePoint.ofChar (Char.ofNat n) = ⟨n, hn⟩ :=
        Fin.ext (toNat_ofNat hprintable.2)
      rw [List.singleton_append, decodeFrom_plain hescape hreturn, hback]
    case isFalse hhidden => exact decodeFrom_encodeUnit hp rest
  all_goals
    rename_i hval
    cases hval
    rfl

theorem decode_flatMap_encodePoint {t : Text} (ht : t.Narrow) :
    decode (t.flatMap encodePoint) = some t := by
  unfold decode
  induction t with
  | nil => rfl
  | cons p t ih =>
    have hp : p.val < 0x10000 := ht p (List.mem_cons_self ..)
    have hrest : Narrow t := fun q hq => ht q (List.mem_cons_of_mem _ hq)
    rw [List.flatMap_cons, decodeFrom_encodePoint hp, ih hrest]
    rfl

/-! ## The scanner of literals -/

/-- A character inside a literal that neither closes nor shields. -/
theorem takeQuoted?_plain {c : Char} (hquote : c ≠ '"') (hescape : c ≠ '\\') (hnewline : c ≠ '\n')
    (rest : List Char) :
    Listing.takeQuoted? (c :: rest) = (Listing.takeQuoted? rest).map (c :: ·) := by
  rw [Listing.takeQuoted?, if_neg hquote, if_neg hnewline]
  intro _ _ hc
  exact absurd hc hescape

/-- A backslash and the character it shields. -/
theorem takeQuoted?_escape {c : Char} (hnewline : c ≠ '\n') (rest : List Char) :
    Listing.takeQuoted? ('\\' :: c :: rest) =
      (Listing.takeQuoted? rest).map fun inside => '\\' :: c :: inside := by
  rw [Listing.takeQuoted?, if_neg hnewline]

theorem takeQuoted?_digitChar {d : Nat} (hd : d < 16) (rest : List Char) :
    Listing.takeQuoted? (Nat.digitChar d :: rest) =
      (Listing.takeQuoted? rest).map (Nat.digitChar d :: ·) := by
  have hall : ∀ d < 16, Nat.digitChar d ≠ '"' ∧ Nat.digitChar d ≠ '\\' ∧ Nat.digitChar d ≠ '\n' := by
    decide
  obtain ⟨hquote, hescape, hnewline⟩ := hall d hd
  exact takeQuoted?_plain hquote hescape hnewline rest

theorem takeQuoted?_encodeUnit {n : Nat} (hn : n < 0x10000) (rest : List Char) :
    Listing.takeQuoted? (encodeUnit n ++ rest) =
      (Listing.takeQuoted? rest).map (encodeUnit n ++ ·) := by
  rw [encodeUnit, hexadecimal_four hn]
  simp only [List.cons_append, List.nil_append]
  rw [takeQuoted?_escape (by decide), takeQuoted?_digitChar (by omega),
    takeQuoted?_digitChar (by omega), takeQuoted?_digitChar (by omega),
    takeQuoted?_digitChar (by omega)]
  simp only [Option.map_map]
  rfl

theorem takeQuoted?_encodePoint {p : CodePoint} (hp : p.val < 0x10000) (rest : List Char) :
    Listing.takeQuoted? (encodePoint p ++ rest) =
      (Listing.takeQuoted? rest).map (encodePoint p ++ ·) := by
  obtain ⟨n, hn⟩ := p
  unfold encodePoint
  split
  case h_8 h1 h2 h3 h4 h5 h6 h7 =>
    split
    case isTrue hprintable =>
      exact takeQuoted?_plain (ofNat_ne hprintable.2 h1) (ofNat_ne hprintable.2 h2)
        (ofNat_ne hprintable.2 h3) rest
    case isFalse hhidden => exact takeQuoted?_encodeUnit hp rest
  all_goals rfl

theorem takeQuoted?_flatMap {t : Text} (ht : t.Narrow) (rest : List Char) :
    Listing.takeQuoted? (t.flatMap encodePoint ++ '"' :: rest) =
      some (t.flatMap encodePoint ++ ['"']) := by
  induction t with
  | nil =>
    rw [List.flatMap_nil, List.nil_append, Listing.takeQuoted?, if_pos rfl]
    · rfl
    · intro _ _ hc
      exact absurd hc (by decide)
  | cons p t ih =>
    have hp : p.val < 0x10000 := ht p (List.mem_cons_self ..)
    have hrest : Narrow t := fun q hq => ht q (List.mem_cons_of_mem _ hq)
    rw [List.flatMap_cons, List.append_assoc, takeQuoted?_encodePoint hp, ih hrest]
    rw [Option.map_some, List.append_assoc]

/-! ## No bare null -/

theorem encodePoint_ne_null {p : CodePoint} (hp : p.val < 0x10000) :
    '\x00' ∉ encodePoint p := by
  obtain ⟨n, hn⟩ := p
  have hdigit : ∀ d < 16, '\x00' ≠ Nat.digitChar d := by decide
  have hunit : n < 0x10000 := hp
  unfold encodePoint
  split
  case h_8 =>
    split
    case isTrue hprintable =>
      have hlow : 0x20 ≤ n := hprintable.1
      have hzero : n ≠ ('\x00').toNat := Nat.ne_of_gt (Nat.lt_of_lt_of_le (by decide) hlow)
      simpa using (ofNat_ne hprintable.2 hzero).symm
    case isFalse =>
      have hne : '\x00' ∉ encodeUnit n := by
        rw [encodeUnit, hexadecimal_four hunit]
        have h1 := hdigit (n / 4096) (by omega)
        have h2 := hdigit (n / 256 % 16) (by omega)
        have h3 := hdigit (n / 16 % 16) (by omega)
        have h4 := hdigit (n % 16) (by omega)
        simp [h1, h2, h3, h4]
      exact hne
  all_goals decide

theorem null_not_mem_encode {t : Text} (ht : t.Narrow) : '\x00' ∉ t.encode := by
  intro hmem
  simp only [encode, List.cons_append, List.mem_cons, List.mem_append, List.mem_flatMap,
    List.mem_nil_iff, or_false] at hmem
  rcases hmem with hquote | ⟨p, hp, hin⟩ | hquote
  · exact absurd hquote (by decide)
  · exact encodePoint_ne_null (ht p hp) hin
  · exact absurd hquote (by decide)

end Text
end SsaEdit
