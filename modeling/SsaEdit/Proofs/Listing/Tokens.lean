/-
The tokens that a listing is printed with.

For every kind of token there is a lemma that the lexer finds it in front of the
text that follows, and one that its value is what was printed.
-/
import SsaEdit.Listing.Reader
import SsaEdit.Proofs.Listing.Lexing

namespace SsaEdit
namespace Listing

variable {rest : List Char} {kinds : List Terminal}

/-! ## Marks and keywords -/

theorem takeSpelling?_append (spelling rest : List Char) :
    takeSpelling? spelling (spelling ++ rest) = some spelling :=
  if_pos (List.isPrefixOf_iff_prefix.2 (List.prefix_append spelling rest))

theorem cuts_mark {m : Mark} {c : Char} {cs : List Char} (hspelling : m.spelling = c :: cs)
    (halone : Alone kinds (.mark m) c = true) : Cuts kinds (.mark m) (c :: cs) rest := by
  obtain ⟨hspace, hcomment⟩ : isSpace c = false ∧ c ≠ ';' := by
    cases m <;> cases hspelling <;> decide
  refine cuts_of_alone (by simp) halone hspace hcomment ?_
  rw [← hspelling]
  exact takeSpelling?_append _ _

/-- A keyword where no name is welcome. -/
theorem cuts_keyword {k : Keyword} {c : Char} {cs : List Char} (hspelling : k.spelling = c :: cs)
    (halone : Alone kinds (.keyword k) c = true) : Cuts kinds (.keyword k) (c :: cs) rest := by
  obtain ⟨hspace, hcomment⟩ : isSpace c = false ∧ c ≠ ';' := by
    cases k <;> cases hspelling <;> decide
  refine cuts_of_alone (by simp) halone hspace hcomment ?_
  rw [← hspelling]
  exact takeSpelling?_append _ _

/-! ## Words -/

/-- The blanks, and what begins a comment. -/
def blankChars : List Char := [' ', '\t', '\x0c', '\r', '\n', ';']

/-- No character of a class without blanks is skipped between tokens. -/
theorem visible_of {p : Char → Bool} (hblanks : blankChars.any p = false) {c : Char}
    (hc : p c = true) : isSpace c = false ∧ c ≠ ';' := by
  have hnot : c ∉ blankChars := by
    intro hmem
    exact List.any_eq_false.1 hblanks c hmem hc
  simp only [blankChars, List.mem_cons, List.mem_nil_iff, or_false, not_or] at hnot
  obtain ⟨hblank, htab, hfeed, hreturn, hnewline, hcomment⟩ := hnot
  refine ⟨?_, hcomment⟩
  simp [isSpace, hblank, htab, hfeed, hreturn, hnewline]

theorem wordStart_visible {c : Char} (hc : isWordStart c = true) : isSpace c = false ∧ c ≠ ';' :=
  visible_of (by decide) hc

theorem take?_word {word : List Char} (hword : isWord word = true) (hrest : Stops rest) :
    Terminal.name.take? (word ++ rest) = some word := by
  cases word with
  | nil => cases hword
  | cons c cs =>
    obtain ⟨hfirst, hothers⟩ := Bool.and_eq_true_iff.1 hword
    have htail : (cs ++ rest).takeWhile isWordPart = cs := by
      rw [List.takeWhile_append_of_pos fun d hd => List.all_eq_true.1 hothers d hd]
      cases rest with
      | nil => simp
      | cons d rest =>
        have hd : isWordPart d = false := hrest.not_wordPart d rfl
        simp [hd]
    rw [List.cons_append, Terminal.take?, if_pos hfirst, htail]

theorem lex?_word {welcome : Terminal → Bool} {word : List Char} (hword : isWord word = true)
    (hrest : Stops rest) (hname : welcome .name = true) :
    lex? welcome (word ++ rest) = some (classifyWord welcome word, word) := by
  rw [lex?, if_pos hname, take?_word hword hrest]

theorem word_visible {word : List Char} (hword : isWord word = true) :
    ∃ c cs, word = c :: cs ∧ isSpace c = false ∧ c ≠ ';' := by
  cases word with
  | nil => cases hword
  | cons c cs => exact ⟨c, cs, rfl, wordStart_visible (Bool.and_eq_true_iff.1 hword).1⟩

/-- A word that is no keyword. -/
theorem cuts_name {word : List Char} (hword : isWord word = true)
    (hkeyword : Keyword.ofSpelling? word = none) (hname : kinds.contains .name = true)
    (hrest : Stops rest) : Cuts kinds .name word rest := by
  refine ⟨word_visible hword, ?_⟩
  rw [lex?_word hword hrest hname, classifyWord, hkeyword]

/-- A keyword where names are welcome too. -/
theorem cuts_keyword_word (k : Keyword) (hk : kinds.contains (.keyword k) = true)
    (hname : kinds.contains .name = true) (hrest : Stops rest) :
    Cuts kinds (.keyword k) k.spelling rest := by
  have hword : isWord k.spelling = true := by cases k <;> decide
  have hspelling : Keyword.ofSpelling? k.spelling = some k := by cases k <;> decide
  refine ⟨word_visible hword, ?_⟩
  rw [lex?_word hword hrest hname, classifyWord, hspelling]
  simp only [hk, if_true]

/-! ## References and numbers -/

/-- A natural number that is not too long to be read. -/
def Short (n : Nat) : Prop := (Nat.toDigits 10 n).length ≤ maxDigits

instance (n : Nat) : Decidable (Short n) :=
  inferInstanceAs (Decidable ((Nat.toDigits 10 n).length ≤ maxDigits))

theorem short_iff {n : Nat} : Short n ↔ n < 10 ^ maxDigits :=
  Nat.length_toDigits_le_iff (by decide) (by decide)

theorem natOf_toDigits {n : Nat} (hn : Short n) : natOf (Nat.toDigits 10 n) = .ok n := by
  have hle : (Nat.toDigits 10 n).length ≤ maxDigits := hn
  rw [natOf, if_pos hle, digitsValue_toDigits]

theorem takeDigits?_toDigits (n : Nat) (hrest : Stops rest) :
    takeDigits? (Nat.toDigits 10 n ++ rest) = some (Nat.toDigits 10 n) := by
  have hdigits := Numeral.readDigits_append (allDigits_toDigits n) hrest.not_digit
  have htake := congrArg Prod.fst hdigits
  rw [Numeral.readDigits] at htake
  simp only at htake
  simp [takeDigits?, htake, Nat.toDigits_ne_nil]

theorem digit_visible {c : Char} (hc : c.isDigit = true) : isSpace c = false ∧ c ≠ ';' :=
  visible_of (by decide) hc

theorem exists_first_digit (n : Nat) :
    ∃ c cs, Nat.toDigits 10 n = c :: cs ∧ c.isDigit = true := by
  obtain ⟨c, cs, h⟩ := List.exists_cons_of_ne_nil (Nat.toDigits_ne_nil (n := n) (b := 10))
  exact ⟨c, cs, h, allDigits_toDigits n c (h ▸ List.mem_cons_self ..)⟩

theorem cuts_digits (n : Nat) (hrest : Stops rest) (hkinds : kinds = [.digits]) :
    Cuts kinds .digits (Nat.toDigits 10 n) rest := by
  obtain ⟨c, cs, hcs, hdigit⟩ := exists_first_digit n
  obtain ⟨hspace, hcomment⟩ := digit_visible hdigit
  rw [hcs, hkinds]
  refine cuts_of_alone (by decide) (by simp [Alone]) hspace hcomment ?_
  rw [← hcs]
  exact takeDigits?_toDigits n hrest

/-- A variable, a label or an argument: a sigil and a number. -/
theorem cuts_sigil {kind : Terminal} {sigil : Char} (n : Nat) (hkind : kind ≠ .name)
    (halone : Alone kinds kind sigil = true) (hspace : isSpace sigil = false)
    (hcomment : sigil ≠ ';') (htake : kind.take? = takeSigil? sigil) (hrest : Stops rest) :
    Cuts kinds kind (sigil :: Nat.toDigits 10 n) rest := by
  refine cuts_of_alone hkind halone hspace hcomment ?_
  rw [htake, List.cons_append, takeSigil?, if_pos rfl, takeDigits?_toDigits n hrest]
  rfl

theorem variable_display (n : Nat) :
    (Variable.display ⟨n⟩).toList = '%' :: Nat.toDigits 10 n := by
  simp [Variable.display, decimal]

theorem label_display (n : Nat) : (Label.display ⟨n⟩).toList = '#' :: Nat.toDigits 10 n := by
  simp [Label.display, decimal]

theorem decimalInt_natCast (n : Nat) : (decimalInt n).toList = Nat.toDigits 10 n := by
  have hsign : ¬ (n : Int) < 0 := by omega
  rw [decimalInt, if_neg hsign, decimal, Int.natAbs_natCast, String.toList_ofList]

theorem argumentDisplay_natCast (n : Nat) :
    (argumentDisplay n).toList = '$' :: Nat.toDigits 10 n := by
  simp [argumentDisplay, decimalInt_natCast]

theorem cuts_variable (n : Nat) (halone : Alone kinds .variable '%' = true) (hrest : Stops rest) :
    Cuts kinds .variable ('%' :: Nat.toDigits 10 n) rest :=
  cuts_sigil n (by decide) halone (by decide) (by decide) rfl hrest

theorem cuts_label (n : Nat) (halone : Alone kinds .label '#' = true) (hrest : Stops rest) :
    Cuts kinds .label ('#' :: Nat.toDigits 10 n) rest :=
  cuts_sigil n (by decide) halone (by decide) (by decide) rfl hrest

theorem cuts_argument (n : Nat) (halone : Alone kinds .argument '$' = true) (hrest : Stops rest) :
    Cuts kinds .argument ('$' :: Nat.toDigits 10 n) rest :=
  cuts_sigil n (by decide) halone (by decide) (by decide) rfl hrest

theorem number_sigil {n : Nat} (hn : Short n) (kind : Terminal) (sigil : Char) (start : Nat) :
    Token.number ⟨kind, sigil :: Nat.toDigits 10 n, start⟩ = .ok n :=
  natOf_toDigits hn

/-! ## Numerals -/

/-- The characters a numeral begins with. -/
def isNumeralStart (c : Char) : Bool := c.isDigit || c = '+' || c = '-'

theorem isWordStart_of_isDigit {c : Char} (hc : c.isDigit = true) : isWordStart c = false := by
  have hhigh : c.toNat ≤ 0x39 := of_decide_eq_true (Bool.and_eq_true_iff.1 hc).2
  rw [Bool.eq_false_iff]
  intro hstart
  rcases Bool.or_eq_true_iff.1 hstart with hletter | hunderscore
  · rcases Bool.or_eq_true_iff.1 hletter with hupper | hlower
    · have hlow : 0x41 ≤ c.toNat := (of_decide_eq_true hupper).1
      omega
    · have hlow : 0x61 ≤ c.toNat := of_decide_eq_true (Bool.and_eq_true_iff.1 hlower).1
      omega
  · rw [eq_of_beq hunderscore] at hhigh
    exact absurd hhigh (by decide)

/-- No token but a number, digits and the negative infinity begins like a
numeral. -/
theorem canBegin_numeral {c : Char} (hc : isNumeralStart c = true) {t : Terminal}
    (hnumber : t ≠ .number) (hdigits : t ≠ .digits) (hinf : t ≠ .minusInf) :
    t.canBegin c = false := by
  -- every other kind begins with characters of its own
  have hkeyword : ∀ k : Keyword, ∀ c, k.spelling.head? = some c → isNumeralStart c = false := by
    intro k c h
    cases k <;> cases h <;> decide
  have hmark : ∀ m : Mark, ∀ c, m.spelling.head? = some c → isNumeralStart c = false := by
    intro m c h
    cases m <;> cases h <;> decide
  have hsingle : ∀ d ∈ ['"', '%', '#', '$'], c ≠ d := by
    have hnone : ['"', '%', '#', '$'].any isNumeralStart = false := by decide
    rintro d hd rfl
    exact List.any_eq_false.1 hnone c hd hc
  cases t with
  | keyword k =>
    refine decide_eq_false fun h => ?_
    rw [hkeyword k c h] at hc
    cases hc
  | mark m =>
    refine decide_eq_false fun h => ?_
    rw [hmark m c h] at hc
    cases hc
  | name =>
    rw [isNumeralStart, Bool.or_eq_true, Bool.or_eq_true, decide_eq_true_eq, decide_eq_true_eq] at hc
    rcases hc with (hdigit | rfl) | rfl
    · exact isWordStart_of_isDigit hdigit
    · decide
    · decide
  | quoted => exact decide_eq_false (hsingle '"' (by decide))
  | «variable» => exact decide_eq_false (hsingle '%' (by decide))
  | label => exact decide_eq_false (hsingle '#' (by decide))
  | argument => exact decide_eq_false (hsingle '$' (by decide))
  | digits => exact absurd rfl hdigits
  | number => exact absurd rfl hnumber
  | minusInf => exact absurd rfl hinf

/-- A regular numeral begins with a digit, or with a sign and a digit. -/
theorem exists_numeral_start {n : Numeral} (hn : n.Regular) :
    (∃ c cs, n.spelling = c :: cs ∧ c.isDigit = true) ∨
      ∃ c d cs, n.spelling = c :: d :: cs ∧ (c = '+' ∨ c = '-') ∧ d.isDigit = true := by
  obtain ⟨d, ds, hwhole⟩ := List.exists_cons_of_ne_nil hn.nonempty
  have hdigit : d.isDigit = true := hn.whole d (hwhole ▸ List.mem_cons_self ..)
  have hsign := hn.sign
  rw [Numeral.spelling_eq, hwhole]
  cases h : n.sign with
  | none => exact .inl ⟨d, _, rfl, hdigit⟩
  | some c =>
    rw [h] at hsign
    exact .inr ⟨c, d, _, rfl, hsign c rfl, hdigit⟩

theorem takeSpelling?_minusInf_none {n : Numeral} (hn : n.Regular) (rest : List Char) :
    takeSpelling? ('-' :: Keyword.inf.spelling) (n.spelling ++ rest) = none := by
  rcases exists_numeral_start hn with ⟨c, cs, hcs, hdigit⟩ | ⟨c, d, cs, hcs, _, hdigit⟩
  · have hc : c ≠ '-' := by
      rintro rfl
      exact absurd hdigit (by decide)
    rw [hcs]
    exact takeSpelling?_none (by decide) fun h => hc (by cases h; rfl)
  · have hd : ('i' == d) = false := by
      rw [beq_eq_false_iff_ne]
      rintro rfl
      exact absurd hdigit (by decide)
    rw [hcs]
    simp [takeSpelling?, Keyword.spelling, List.isPrefixOf, hd]

theorem cuts_number {n : Numeral} (hn : n.Regular) (hnumber : kinds.contains .number = true)
    (hdigits : kinds.contains .digits = false) (hrest : Stops rest) :
    Cuts kinds .number n.spelling rest := by
  have hread := Numeral.read?_spelling hn hrest.ends
  obtain ⟨c, cs, hcs, hstart⟩ : ∃ c cs, n.spelling = c :: cs ∧ isNumeralStart c = true := by
    rcases exists_numeral_start hn with ⟨c, cs, hcs, hdigit⟩ | ⟨c, d, cs, hcs, hsign, _⟩
    · exact ⟨c, cs, hcs, by simp [isNumeralStart, hdigit]⟩
    · exact ⟨c, d :: cs, hcs, by rcases hsign with rfl | rfl <;> decide⟩
  obtain ⟨hspace, hcomment⟩ := visible_of (by decide) hstart
  refine ⟨⟨c, cs, hcs, hspace, hcomment⟩, lex?_of_unique (by decide) hnumber ?_ ?_⟩
  · rw [Terminal.take?, hread]
    rfl
  · intro t ht hne
    by_cases hinf : t = .minusInf
    · rw [hinf]
      exact takeSpelling?_minusInf_none hn rest
    · have hother : t ≠ .digits := by
        rintro rfl
        rw [hdigits] at ht
        cases ht
      rw [hcs]
      exact take?_none (canBegin_numeral hstart hne hother hinf) _

theorem numeral_int {i : Int} (hi : Short i.natAbs) (kind : Terminal) (start : Nat) :
    Token.numeral ⟨kind, (Numeral.ofInt i).spelling, start⟩ = .int i := by
  have hlength : (Numeral.ofInt i).whole.length ≤ maxDigits := hi
  rw [Token.numeral]
  simp only [Numeral.read?_self (Numeral.regular_ofInt i), Numeral.integer?_ofInt, if_pos hlength]

theorem numeral_float {n : Numeral} (hn : n.Regular) (hinexact : n.integer? = none)
    (kind : Terminal) (start : Nat) :
    Token.numeral ⟨kind, n.spelling, start⟩ = .float n.toBinary64 := by
  rw [Token.numeral]
  simp only [Numeral.read?_self hn, hinexact]

/-- The negative infinity is one token. -/
theorem cuts_minusInf (hinf : kinds.contains .minusInf = true)
    (hdigits : kinds.contains .digits = false) :
    Cuts kinds .minusInf ('-' :: Keyword.inf.spelling) rest := by
  refine ⟨⟨'-', Keyword.inf.spelling, rfl, by decide, by decide⟩,
    lex?_of_unique (by decide) hinf (takeSpelling?_append _ _) ?_⟩
  intro t ht hne
  by_cases hnumber : t = .number
  · rw [hnumber]
    rfl
  · have hother : t ≠ .digits := by
      rintro rfl
      rw [hdigits] at ht
      cases ht
    exact take?_none (canBegin_numeral (by decide) hnumber hother hne) _

/-! ## Literals and names -/

theorem cuts_quoted {t : Text} (ht : t.Narrow) (halone : Alone kinds .quoted '"' = true) :
    Cuts kinds .quoted t.encode rest := by
  have htake : Terminal.quoted.take? (t.encode ++ rest) = some t.encode := by
    have hscan := Text.takeQuoted?_flatMap ht rest
    rw [Text.encode, List.append_assoc]
    simp only [List.cons_append, List.nil_append, Terminal.take?, if_true, hscan]
    rfl
  exact cuts_of_alone (by decide) halone (by decide) (by decide) htake

theorem literal_encode {t : Text} (ht : t.Narrow) (kind : Terminal) (start : Nat) :
    Token.literal ⟨kind, t.encode, start⟩ = .ok t := by
  have hnull : t.encode.contains '\x00' = false := by
    simpa using Text.null_not_mem_encode ht
  have hinside : t.encode.tail.dropLast = t.flatMap Text.encodePoint := by
    rw [Text.encode, List.cons_append, List.tail_cons, List.dropLast_concat]
  rw [Token.literal]
  simp only [hnull, hinside, Text.decode_flatMap_encodePoint ht]
  rfl

theorem toChar?_some {p : CodePoint} {c : Char} (h : p.toChar? = some c) : .ofChar c = p := by
  rw [CodePoint.toChar?] at h
  by_cases hvalid : p.val.isValidChar
  · rw [dif_pos hvalid] at h
    cases h
    rfl
  · rw [dif_neg hvalid] at h
    cases h

theorem ofChars_of_plainChars? {t : Text} {word : List Char} (h : plainChars? t = some word) :
    Text.ofChars word = t := by
  induction t generalizing word with
  | nil =>
    cases h
    rfl
  | cons p t ih =>
    rw [plainChars?, List.mapM_cons] at h
    cases hp : p.toChar? with
    | none => simp [hp] at h
    | some c =>
      cases ht : t.mapM CodePoint.toChar? with
      | none => simp [hp, ht] at h
      | some cs =>
        have hword : c :: cs = word := by simpa [hp, ht] using h
        rw [← hword, Text.ofChars, List.map_cons, toChar?_some hp]
        exact congrArg _ (ih ht)

theorem toChar?_ofChar (c : Char) : (CodePoint.ofChar c).toChar? = some c := by
  have hvalid : (CodePoint.ofChar c).val.isValidChar := c.valid
  rw [CodePoint.toChar?, dif_pos hvalid]
  rfl

theorem plainChars?_ofChars (word : List Char) : plainChars? (Text.ofChars word) = some word := by
  induction word with
  | nil => rfl
  | cons c word ih =>
    rw [plainChars?, Text.ofChars] at ih
    rw [plainChars?, Text.ofChars, List.map_cons, List.mapM_cons, toChar?_ofChar, ih]
    rfl

/-- Characters are no halves of surrogate pairs, so nothing is fused. -/
theorem joined_ofChars (cs : List Char) : (Text.ofChars cs).joined = Text.ofChars cs := by
  have hhigh : ∀ c : Char, (CodePoint.ofChar c).isHigh = false := by
    intro c
    have hvalid : c.toNat < 0xD800 ∨ (0xDFFF < c.toNat ∧ c.toNat < 0x110000) := c.valid
    have hval : (CodePoint.ofChar c).val = c.toNat := rfl
    rw [Bool.eq_false_iff]
    intro h
    simp only [CodePoint.isHigh, Bool.and_eq_true, decide_eq_true_eq] at h
    rw [hval] at h
    omega
  induction cs with
  | nil => rfl
  | cons c cs ih =>
    cases cs with
    | nil => rfl
    | cons d cs =>
      have hstep : (Text.ofChars (c :: d :: cs)).joined =
          .ofChar c :: (Text.ofChars (d :: cs)).joined := by
        simp [Text.ofChars, Text.joined, hhigh c]
      rw [hstep, ih]
      rfl

theorem toString_ofString (s : String) : Text.toString (Text.ofString s) = s := by
  have hchars : (Text.ofChars s.toList).map (fun p => p.toChar?.getD '\uFFFD') = s.toList := by
    rw [Text.ofChars, List.map_map]
    refine List.map_id'' ?_ s.toList
    intro c
    simp [toChar?_ofChar]
  rw [Text.toString, Text.ofString, joined_ofChars, hchars, String.ofList_toList]

/-- A printed name is one token, a word or a literal, and its text is the name. -/
theorem exists_name_token {t : Text} (ht : t.Narrow) (hname : kinds.contains .name = true)
    (hquoted : Alone kinds .quoted '"' = true) (hrest : Stops rest) :
    ∃ kind : Terminal, kind.isName = true ∧ Cuts kinds kind (printName t) rest ∧
      ∀ start, Token.text ⟨kind, printName t, start⟩ = .ok t := by
  have hliteral : ∃ kind : Terminal, kind.isName = true ∧ Cuts kinds kind t.encode rest ∧
      ∀ start, Token.text ⟨kind, t.encode, start⟩ = .ok t :=
    ⟨.quoted, rfl, cuts_quoted ht hquoted, fun start => literal_encode ht .quoted start⟩
  rw [printName]
  split
  case h_1 word hplain =>
    split
    case isTrue hbare =>
      obtain ⟨hword, hkeyword⟩ := Bool.and_eq_true_iff.1 hbare
      refine ⟨.name, rfl, cuts_name hword (Option.isNone_iff_eq_none.1 hkeyword) hname hrest, ?_⟩
      intro start
      rw [← ofChars_of_plainChars? hplain]
      rfl
    case isFalse => exact hliteral
  case h_2 => exact hliteral

end Listing
end SsaEdit
