/-
Tokens before a blank.

The lexer may look beyond the token it takes, but not past a blank: apart from literals,
which end at their own quote, no token holds a blank or begins a comment.  So a token in
front of a text is taken as well when the text is cut off somewhere behind that token and
goes on with a blank, and in the same way every kind that takes nothing takes nothing.
-/
import SsaEdit.Proofs.Listing.Derivation
import SsaEdit.Proofs.Listing.Tokens

namespace SsaEdit

namespace Listing

/-! ## Blanks behind a text -/

/-- Nothing, or something that begins with a blank or a comment. -/
def Apart (rest : List Char) : Prop := ∀ c ∈ rest.head?, c ∈ blankChars

variable {u v apart : List Char}

theorem Apart.not {p : Char → Bool} (hnone : blankChars.any p = false) (h : Apart apart) :
    ∀ c ∈ apart.head?, p c = false := by
  intro c hc
  rw [← Bool.not_eq_true]
  exact List.any_eq_false.1 hnone c (h c hc)

/-- What holds no blank and is in front of a text is in front of the part before a blank. -/
theorem Apart.prefix_of_append (h : Apart apart) {front : List Char}
    (hfront : front <+: u ++ apart) (hvisible : ∀ c ∈ front, c ∉ blankChars) : front <+: u := by
  rcases List.prefix_or_prefix_of_prefix hfront (List.prefix_append u apart) with hle | hle
  · exact hle
  · obtain ⟨more, rfl⟩ := hle
    have hmore : more <+: apart := (List.prefix_append_right_inj u).1 hfront
    cases more with
    | nil => exact (List.append_nil u).symm ▸ List.prefix_rfl
    | cons c more =>
      obtain ⟨rest, rfl⟩ := hmore
      exact absurd (h c rfl) (hvisible c (List.mem_append_right u List.mem_cons_self))

/-- The longest run of a class without blanks, when it ends before a place. -/
theorem Apart.takeWhile_eq {p : Char → Bool} (hnone : blankChars.any p = false) (h : Apart apart)
    (hfront : (u ++ v).takeWhile p <+: u) : (u ++ apart).takeWhile p = (u ++ v).takeWhile p := by
  have hstop : apart.takeWhile p = [] := by
    cases apart with
    | nil => rfl
    | cons c rest => simp [h.not hnone c rfl]
  rw [List.takeWhile_append] at hfront ⊢
  rw [List.takeWhile_append]
  split
  case isTrue hall =>
    rw [if_pos hall] at hfront
    have hlength := hfront.length_le
    rw [List.length_append] at hlength
    have hnil : v.takeWhile p = [] := List.length_eq_zero_iff.1 (by omega)
    rw [hstop, hnil]
  case isFalse => rfl

end Listing

/-! ## Numerals -/

namespace Numeral

open Listing

variable {u v apart rest : List Char}

/-- A sign is read before a blank as it is before anything else. -/
theorem readSign_apart (h : Apart apart) {sign : Option Char}
    (hread : readSign (u ++ v) = (sign, rest ++ v)) :
    readSign (u ++ apart) = (sign, rest ++ apart) := by
  obtain ⟨hsame, hsign⟩ := of_readSign hread
  rw [← List.append_assoc] at hsame
  obtain rfl := List.append_cancel_right hsame
  rw [List.append_assoc]
  cases sign with
  | some c => exact if_pos (hsign c rfl)
  | none =>
    refine readSign_append hsign fun c hc => ?_
    cases rest with
    | nil =>
      have hother := h.not (p := fun c => c = '+' || c = '-') (by decide) c hc
      simpa using hother
    | cons d rest =>
      cases hc
      have hnone : readSign (c :: (rest ++ v)) = (none, c :: (rest ++ v)) := hread
      rw [readSign] at hnone
      split at hnone
      case isTrue => cases hnone
      case isFalse hother => exact not_or.1 hother

theorem readDigits_apart (h : Apart apart) {digits : List Char}
    (hread : readDigits (u ++ v) = (digits, rest ++ v)) :
    readDigits (u ++ apart) = (digits, rest ++ apart) := by
  obtain ⟨hsame, hdigits⟩ := of_readDigits hread
  rw [← List.append_assoc] at hsame
  obtain rfl := List.append_cancel_right hsame
  rw [List.append_assoc]
  refine readDigits_append hdigits fun c hc => ?_
  cases rest with
  | nil => exact h.not (by decide) c hc
  | cons d rest =>
    cases hc
    have hdrop : (digits ++ c :: rest ++ v).dropWhile Char.isDigit = c :: (rest ++ v) :=
      congrArg Prod.snd hread
    have hhead := List.head?_dropWhile_not Char.isDigit (digits ++ c :: rest ++ v)
    rw [hdrop] at hhead
    exact hhead

theorem readFraction_apart (h : Apart apart) {fraction : Option (List Char)}
    (hread : readFraction (u ++ v) = (fraction, rest ++ v)) :
    readFraction (u ++ apart) = (fraction, rest ++ apart) := by
  rcases of_readFraction hread with ⟨rfl, hsame⟩ | ⟨digits, rfl, -, hsame⟩
  · obtain rfl := List.append_cancel_right hsame
    refine readFraction_none fun c hc => ?_
    cases rest with
    | nil =>
      have hother := h.not (p := fun c => c = '.') (by decide) c hc
      exact of_decide_eq_false hother
    | cons d rest =>
      rintro rfl
      cases hc
      cases hread
  · cases u with
    | nil =>
      have hlength := congrArg List.length hsame
      simp at hlength
      omega
    | cons c u =>
      obtain ⟨rfl, hbehind⟩ := List.cons.inj hsame
      have hdigits : readDigits (u ++ v) = (digits, rest ++ v) := by
        rw [List.cons_append, readFraction] at hread
        obtain ⟨hfound, hafter⟩ := Prod.mk.inj hread
        exact Prod.ext (Option.some.inj hfound) hafter
      rw [List.cons_append, readFraction, readDigits_apart h hdigits]

theorem readSign_of_apart (h : Apart apart) : readSign apart = (none, apart) := by
  have hnil : readSign ([] ++ []) = (none, [] ++ []) := rfl
  exact readSign_apart h hnil

theorem readDigits_of_apart (h : Apart apart) : readDigits apart = ([], apart) := by
  have hnil : readDigits ([] ++ []) = ([], [] ++ []) := rfl
  exact readDigits_apart h hnil

/-- Behind a mark that no digits follow there are none before a blank either. -/
theorem digits_eq_nil_of_apart (h : Apart apart) {sign : Option Char} {unsigned after : List Char}
    (hsign : readSign (u ++ v) = (sign, unsigned)) (hdigits : readDigits unsigned = ([], after)) :
    (readDigits (readSign (u ++ apart)).2).1 = [] := by
  cases u with
  | nil => rw [List.nil_append, readSign_of_apart h, readDigits_of_apart h]
  | cons c u =>
    obtain ⟨a, rfl⟩ : ∃ a, unsigned = a ++ v := by
      rw [List.cons_append, readSign] at hsign
      split at hsign
      · exact ⟨u, (congrArg Prod.snd hsign).symm⟩
      · exact ⟨c :: u, (congrArg Prod.snd hsign).symm⟩
    have hafter : readDigits (a ++ v) = ([], a ++ v) := by
      rw [hdigits, ← (of_readDigits hdigits).1]
      rfl
    rw [readSign_apart h hsign, readDigits_apart h hafter]

theorem readExponent_apart (h : Apart apart) {exponent : Option SpelledExponent}
    (hread : readExponent (u ++ v) = (exponent, rest ++ v)) :
    readExponent (u ++ apart) = (exponent, rest ++ apart) := by
  cases u with
  | nil =>
    -- no exponent ends before it begins
    have hnothing : rest = [] ∧ exponent = none := by
      rcases of_readExponent hread with ⟨rfl, hsame⟩ | ⟨e, rfl, hsame⟩
      · exact ⟨List.append_cancel_right hsame, rfl⟩
      · have hlength := congrArg List.length hsame
        simp [SpelledExponent.spelling] at hlength
        omega
    obtain ⟨rfl, rfl⟩ := hnothing
    refine readExponent_none fun c hc => ?_
    have hother := h.not (p := fun c => c = 'e' || c = 'E') (by decide) c hc
    simpa using hother
  | cons mark u =>
    rcases hsign : readSign (u ++ v) with ⟨sign, unsigned⟩
    rcases hdigits : readDigits unsigned with ⟨digits, after⟩
    simp only [List.cons_append, readExponent, hsign, hdigits] at hread ⊢
    split at hread
    case isTrue hfound =>
      obtain ⟨rfl, rfl⟩ := Prod.mk.inj hread
      have hbehind := (of_readDigits hdigits).1
      rw [← List.append_assoc] at hbehind
      subst hbehind
      simp only [readSign_apart h hsign, readDigits_apart h hdigits]
      exact if_pos hfound
    case isFalse hnone =>
      obtain ⟨rfl, hrest⟩ := Prod.mk.inj hread
      obtain rfl : mark :: u = rest := List.append_cancel_right hrest
      refine if_neg fun hfound => hfound.2 ?_
      have hnil : digits = [] := by_contra fun hne => hnone ⟨hfound.1, hne⟩
      exact digits_eq_nil_of_apart h hsign (hnil ▸ hdigits)

/-- A numeral that ends before a place is read before a blank there, too. -/
theorem read?_apart (h : Apart apart) {n : Numeral} (hread : read? (u ++ v) = some (n, rest ++ v)) :
    read? (u ++ apart) = some (n, rest ++ apart) := by
  obtain ⟨unsigned, afterWhole, afterFraction, hsign, hwhole, hfraction, hexponent, hsome⟩ :=
    exists_of_read? hread
  obtain ⟨third, rfl⟩ : ∃ third, afterFraction = third ++ v := by
    rcases of_readExponent hexponent with ⟨-, hsame⟩ | ⟨e, -, hsame⟩
    · exact ⟨rest, hsame.symm⟩
    · exact ⟨e.spelling ++ rest, by rw [← hsame, List.append_assoc]⟩
  obtain ⟨second, rfl⟩ : ∃ second, afterWhole = second ++ v := by
    rcases of_readFraction hfraction with ⟨-, hsame⟩ | ⟨digits, -, -, hsame⟩
    · exact ⟨third, hsame.symm⟩
    · exact ⟨'.' :: (digits ++ third), by rw [← hsame, List.cons_append, List.append_assoc]⟩
  obtain ⟨first, rfl⟩ : ∃ first, unsigned = first ++ v :=
    ⟨n.whole ++ second, by rw [← (of_readDigits hwhole).1, List.append_assoc]⟩
  rw [read?, readSign_apart h hsign]
  simp only [readDigits_apart h hwhole, readFraction_apart h hfraction,
    readExponent_apart h hexponent]
  exact if_neg hsome

/-- A numeral begins with a digit, or with a point and a digit, a sign before them or not. -/
theorem front_of_read? {cs : List Char} {n : Numeral} (h : read? cs = some (n, rest)) :
    ∃ (sign : Option Char) (c : Char), (∀ d ∈ sign, d = '+' ∨ d = '-') ∧ c.isDigit = true ∧
      (sign.toList ++ [c] <+: cs ∨ sign.toList ++ ['.', c] <+: cs) := by
  obtain ⟨unsigned, afterWhole, afterFraction, hfirst, hsecond, hfraction, -, hdigits⟩ :=
    exists_of_read? h
  obtain ⟨rfl, hsign⟩ := of_readSign hfirst
  obtain ⟨rfl, hwhole⟩ := of_readDigits hsecond
  cases hcase : n.whole with
  | cons c digits =>
    rw [hcase] at hwhole
    refine ⟨n.sign, c, hsign, hwhole c List.mem_cons_self, Or.inl ?_⟩
    exact ⟨digits ++ afterWhole, by simp⟩
  | nil =>
    rcases of_readFraction hfraction with ⟨hnone, -⟩ | ⟨digits, hsome, hall, rfl⟩
    · exact absurd ⟨hcase, by rw [hnone]; rfl⟩ hdigits
    · cases digits with
      | nil => exact absurd ⟨hcase, by rw [hsome]; rfl⟩ hdigits
      | cons c digits =>
        refine ⟨n.sign, c, hsign, hall c List.mem_cons_self, Or.inr ?_⟩
        exact ⟨digits ++ afterFraction, by simp⟩

/-- What begins no numeral begins none when it goes on with a blank somewhere. -/
theorem read?_apart_none (h : Apart apart) (hread : read? (u ++ v) = none) :
    read? (u ++ apart) = none := by
  by_contra hsome
  obtain ⟨⟨n, rest⟩, hfound⟩ := Option.ne_none_iff_exists'.1 hsome
  obtain ⟨sign, c, hsign, hc, hfront⟩ := front_of_read? hfound
  have hsignVisible : ∀ d ∈ sign.toList, d ∉ blankChars := by
    intro d hd
    rcases hsign d (Option.mem_toList.1 hd) with rfl | rfl <;> decide
  have hnone : blankChars.any Char.isDigit = false := by decide
  have hdigit : c ∉ blankChars := fun hmem => List.any_eq_false.1 hnone c hmem hc
  have hlast : ∀ d ∈ [c], d ∉ blankChars := List.forall_mem_singleton.2 hdigit
  -- the beginning of the numeral stands before the blank, so it is in the first text, too
  rcases hfront with hfront | hfront
  · obtain ⟨between, rfl⟩ :=
      h.prefix_of_append hfront (List.forall_mem_append.2 ⟨hsignVisible, hlast⟩)
    rw [List.append_assoc, List.append_assoc] at hread
    exact (read?_ne_none hsign hc (between ++ v)).1 hread
  · have hpoint : ∀ d ∈ ['.', c], d ∉ blankChars := List.forall_mem_cons.2 ⟨by decide, hlast⟩
    obtain ⟨between, rfl⟩ :=
      h.prefix_of_append hfront (List.forall_mem_append.2 ⟨hsignVisible, hpoint⟩)
    rw [List.append_assoc, List.append_assoc] at hread
    exact (read?_ne_none hsign hc (between ++ v)).2 hread

end Numeral

namespace Listing

/-! ## Tokens -/

variable {u v apart chars : List Char}

theorem takeDigits?_apart (h : Apart apart) (htake : takeDigits? (u ++ v) = some chars)
    (hfront : chars <+: u) : takeDigits? (u ++ apart) = some chars := by
  have hdigits := htake
  rw [takeDigits?] at hdigits
  obtain ⟨-, hchars⟩ := Option.ite_none_left_eq_some.1 hdigits
  rw [← Option.some.inj hchars] at hfront
  rw [takeDigits?, h.takeWhile_eq (by decide) hfront]
  exact htake

theorem takeDigits?_apart_none (h : Apart apart) (htake : takeDigits? (u ++ v) = none) :
    takeDigits? (u ++ apart) = none := by
  have hnil : (u ++ v).takeWhile Char.isDigit = [] := by
    rw [takeDigits?] at htake
    simpa using htake
  rw [takeDigits?, h.takeWhile_eq (by decide) (hnil ▸ List.nil_prefix)]
  exact htake

theorem takeSigil?_apart (h : Apart apart) (hu : u ≠ []) {sigil : Char}
    (htake : takeSigil? sigil (u ++ v) = some chars) (hfront : chars <+: u) :
    takeSigil? sigil (u ++ apart) = some chars := by
  obtain ⟨c, u, rfl⟩ := List.exists_cons_of_ne_nil hu
  rw [List.cons_append, takeSigil?] at htake ⊢
  split
  case isTrue hc =>
    rw [if_pos hc] at htake
    obtain ⟨digits, hdigits, rfl⟩ := Option.map_eq_some_iff.1 htake
    rw [takeDigits?_apart h hdigits ((List.prefix_cons_inj c).1 hfront)]
    rfl
  case isFalse hc =>
    rw [if_neg hc] at htake
    cases htake

theorem takeSigil?_apart_none (h : Apart apart) (hu : u ≠ []) {sigil : Char}
    (htake : takeSigil? sigil (u ++ v) = none) : takeSigil? sigil (u ++ apart) = none := by
  obtain ⟨c, u, rfl⟩ := List.exists_cons_of_ne_nil hu
  rw [List.cons_append, takeSigil?] at htake ⊢
  split
  case isTrue hc =>
    rw [if_pos hc, Option.map_eq_none_iff] at htake
    rw [takeDigits?_apart_none h htake]
    rfl
  case isFalse => rfl

theorem takeSpelling?_of_front {spelling s other : List Char}
    (htake : takeSpelling? spelling s = some chars) (hfront : chars <+: other) :
    takeSpelling? spelling other = some chars := by
  obtain rfl := eq_of_takeSpelling? htake
  exact if_pos (List.isPrefixOf_iff_prefix.2 hfront)

theorem takeSpelling?_apart_none (h : Apart apart) {spelling : List Char}
    (hnone : blankChars.any spelling.contains = false)
    (htake : takeSpelling? spelling (u ++ v) = none) :
    takeSpelling? spelling (u ++ apart) = none := by
  have hvisible : ∀ c ∈ spelling, c ∉ blankChars := fun c hc hmem =>
    List.any_eq_false.1 hnone c hmem (List.contains_iff_mem.2 hc)
  rw [takeSpelling?, ite_eq_right_iff] at htake ⊢
  intro hfound
  have hfront := h.prefix_of_append (List.isPrefixOf_iff_prefix.1 hfound) hvisible
  exact htake (List.isPrefixOf_iff_prefix.2 (hfront.trans (List.prefix_append u v)))

/-- A literal is over at its closing quote. -/
theorem LiteralRest.of_front {s other taken : List Char} (h : LiteralRest s taken)
    (hfront : taken <+: other) : LiteralRest other taken := by
  obtain ⟨more, rfl⟩ := hfront
  induction h with
  | close => exact .close more
  | shield hline _ ih => exact .shield hline ih
  | plain hquote hescape hline _ ih => exact .plain hquote hescape hline ih

/-- A token that ends before a place is taken when a blank stands there. -/
theorem take?_apart {t : Terminal} (h : Apart apart) (hu : u ≠ [])
    (htake : t.take? (u ++ v) = some chars) (hfront : chars <+: u) :
    t.take? (u ++ apart) = some chars := by
  cases t with
  | keyword | mark | minusInf =>
    exact takeSpelling?_of_front htake (hfront.trans (List.prefix_append u apart))
  | «variable» | label | argument => exact takeSigil?_apart h hu htake hfront
  | digits => exact takeDigits?_apart h htake hfront
  | number =>
    obtain ⟨⟨n, rest⟩, hread, rfl⟩ := Option.map_eq_some_iff.1 htake
    obtain ⟨between, rfl⟩ := hfront
    have hrest := Numeral.spelling_append_of_read? hread
    rw [List.append_assoc] at hrest
    obtain rfl := List.append_cancel_left hrest
    rw [Terminal.take?, Numeral.read?_apart h hread]
    rfl
  | name =>
    obtain ⟨c, u, rfl⟩ := List.exists_cons_of_ne_nil hu
    rw [List.cons_append, Terminal.take?] at htake ⊢
    split
    case isTrue hc =>
      rw [if_pos hc] at htake
      cases htake
      rw [h.takeWhile_eq (by decide) ((List.prefix_cons_inj c).1 hfront)]
    case isFalse hc =>
      rw [if_neg hc] at htake
      cases htake
  | quoted =>
    obtain ⟨c, u, rfl⟩ := List.exists_cons_of_ne_nil hu
    rw [List.cons_append, Terminal.take?] at htake ⊢
    split
    case isTrue hc =>
      rw [if_pos hc] at htake
      obtain ⟨inside, hinside, rfl⟩ := Option.map_eq_some_iff.1 htake
      have hbehind := ((List.prefix_cons_inj c).1 hfront).trans (List.prefix_append u apart)
      rw [((literalRest_of_takeQuoted? hinside).of_front hbehind).takeQuoted?_eq]
      rfl
    case isFalse hc =>
      rw [if_neg hc] at htake
      cases htake

/-- A kind of which no token is in front has none in front when a blank stands somewhere. A
literal may reach over the blank, so it is left out. -/
theorem take?_apart_none {t : Terminal} (h : Apart apart) (hu : u ≠ [])
    (hquote : t = .quoted → u.head? ≠ some '"') (htake : t.take? (u ++ v) = none) :
    t.take? (u ++ apart) = none := by
  cases t with
  | keyword k =>
    have hnone : blankChars.any k.spelling.contains = false := by cases k <;> decide
    exact takeSpelling?_apart_none h hnone htake
  | mark m =>
    have hnone : blankChars.any m.spelling.contains = false := by cases m <;> decide
    exact takeSpelling?_apart_none h hnone htake
  | minusInf => exact takeSpelling?_apart_none h (by decide) htake
  | «variable» | label | argument => exact takeSigil?_apart_none h hu htake
  | digits => exact takeDigits?_apart_none h htake
  | number =>
    rw [Terminal.take?, Option.map_eq_none_iff] at htake ⊢
    exact Numeral.read?_apart_none h htake
  | name =>
    obtain ⟨c, u, rfl⟩ := List.exists_cons_of_ne_nil hu
    rw [List.cons_append, Terminal.take?] at htake ⊢
    split
    case isTrue hc =>
      rw [if_pos hc] at htake
      cases htake
    case isFalse => rfl
  | quoted =>
    obtain ⟨c, u, rfl⟩ := List.exists_cons_of_ne_nil hu
    exact if_neg fun hc => hquote rfl (congrArg some hc)

/-- The lexer takes the same token in front of a place, whatever is behind it, and when a
blank stands there. -/
theorem lex?_apart {welcome : Terminal → Bool} {kind : Terminal} (h : Apart apart)
    (hlex : lex? welcome (u ++ v) = some (kind, chars)) (hchars : chars ≠ [])
    (hfront : chars <+: u) : lex? welcome (u ++ apart) = some (kind, chars) := by
  have hu : u ≠ [] := fun hnil => hchars (List.prefix_nil.1 (hnil ▸ hfront))
  rw [lex?] at hlex ⊢
  split at hlex
  case h_1 word hword =>
    cases hlex
    obtain ⟨hwelcome, htake⟩ := Option.ite_none_right_eq_some.1 hword
    rw [if_pos hwelcome, take?_apart h hu htake hfront]
  case h_2 hname =>
    have hname : (if welcome .name then Terminal.name.take? (u ++ apart) else none) = none := by
      rw [ite_eq_right_iff] at hname ⊢
      exact fun hwelcome => take?_apart_none h hu (fun hkind => by cases hkind) (hname hwelcome)
    rw [hname]
    obtain ⟨earlier, t, later, hsplit, ht, hearlier⟩ := List.findSome?_eq_some_iff.1 hlex
    obtain ⟨hwelcome, hsome⟩ := Option.ite_none_right_eq_some.1 ht
    obtain ⟨taken, htake, hsame⟩ := Option.map_eq_some_iff.1 hsome
    cases hsame
    refine List.findSome?_eq_some_iff.2 ⟨earlier, kind, later, hsplit, ?_, fun other hother => ?_⟩
    · rw [if_pos hwelcome, take?_apart h hu htake hfront]
      rfl
    · have hnone := hearlier other hother
      rw [ite_eq_right_iff] at hnone ⊢
      intro hmember
      have hnothing := Option.map_eq_none_iff.1 (hnone hmember)
      refine Option.map_eq_none_iff.2 (take?_apart_none h hu (fun hquoted hhead => ?_) hnothing)
      -- only a literal begins with a quote, and then it is the token in front
      obtain ⟨c, u, rfl⟩ := List.exists_cons_of_ne_nil hu
      cases hhead
      have hkind : kind = .quoted := by_contra fun hne => by
        rw [List.cons_append, take?_none (canBegin_quote hne)] at htake
        cases htake
      rw [hquoted, ← hkind, htake] at hnothing
      cases hnothing

end Listing
end SsaEdit
