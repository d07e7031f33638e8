/-
Which token stands in front of a text.

A kind of token begins with few characters only.  Where no other welcome kind can
begin like the token in front, the lexer finds that token; names and keywords are
told apart by their spelling, numbers and the negative infinity by their second
character.  `Cuts` says that a token is found among some kinds, and there is one
lemma for each kind of token that is printed.
-/
import SsaEdit.Listing.Printer
import SsaEdit.Proofs.Number.Shortest
import SsaEdit.Proofs.Text.Literal

namespace SsaEdit
namespace Listing

/-! ## What follows a token -/

/-- The characters that follow a printed word or number. -/
def stopChars : List Char := [' ', '\n', ',', '(', ')', ']']

/-- A text that continues no word and no number. -/
def Stops (rest : List Char) : Prop := ∀ c ∈ rest.head?, c ∈ stopChars

theorem stops_cons {c : Char} (hc : c ∈ stopChars) (rest : List Char) : Stops (c :: rest) := by
  rintro _ ⟨⟩
  exact hc

variable {rest : List Char}

theorem Stops.not {p : Char → Bool} (hnone : stopChars.any p = false) (h : Stops rest) :
    ∀ c ∈ rest.head?, p c = false := by
  intro c hc
  rw [← Bool.not_eq_true]
  exact List.any_eq_false.1 hnone c (h c hc)

theorem Stops.not_digit (h : Stops rest) : ∀ c ∈ rest.head?, c.isDigit = false :=
  h.not (by decide)

theorem Stops.not_wordPart (h : Stops rest) : ∀ c ∈ rest.head?, isWordPart c = false :=
  h.not (by decide)

theorem Stops.ends (h : Stops rest) : Numeral.Ends rest := by
  intro c hc
  have hothers : (c = '.' || c = 'e' || c = 'E') = false :=
    h.not (p := fun c => c = '.' || c = 'e' || c = 'E') (by decide) c hc
  simp only [Bool.or_eq_false_iff, decide_eq_false_iff_not] at hothers
  exact ⟨h.not_digit c hc, hothers.1.1, hothers.1.2, hothers.2⟩

/-! ## How tokens begin -/

/-- Whether a token of a kind can begin with a character. -/
def Terminal.canBegin : Terminal → Char → Bool
  | .keyword k, c => k.spelling.head? = some c
  | .mark m, c => m.spelling.head? = some c
  | .name, c => isWordStart c
  | .quoted, c => c = '"'
  | .variable, c => c = '%'
  | .label, c => c = '#'
  | .argument, c => c = '$'
  | .digits, c => c.isDigit
  | .number, c => c.isDigit || c = '+' || c = '-' || c = '.'
  | .minusInf, c => c = '-'

theorem takeSpelling?_none {spelling s : List Char} {c : Char} (hne : spelling ≠ [])
    (hc : spelling.head? ≠ some c) : takeSpelling? spelling (c :: s) = none := by
  obtain ⟨first, others, rfl⟩ := List.exists_cons_of_ne_nil hne
  have hfirst : (first == c) = false := beq_eq_false_iff_ne.2 fun heq => hc (by rw [heq]; rfl)
  simp [takeSpelling?, List.isPrefixOf, hfirst]

theorem takeDigits?_none {s : List Char} {c : Char} (hc : c.isDigit = false) :
    takeDigits? (c :: s) = none := by
  simp [takeDigits?, hc]

theorem read?_none {s : List Char} {c : Char} (hdigit : c.isDigit = false) (hplus : c ≠ '+')
    (hminus : c ≠ '-') (hpoint : c ≠ '.') : Numeral.read? (c :: s) = none := by
  have hsign : Numeral.readSign (c :: s) = (none, c :: s) := if_neg (not_or.2 ⟨hplus, hminus⟩)
  have hdigits : Numeral.readDigits (c :: s) = ([], c :: s) := by
    simp [Numeral.readDigits, hdigit]
  have hfraction : Numeral.readFraction (c :: s) = (none, c :: s) :=
    Numeral.readFraction_none fun d hd => by cases hd; exact hpoint
  rw [Numeral.read?, hsign]
  simp only [hdigits, hfraction]
  rfl

theorem take?_none {t : Terminal} {c : Char} (h : t.canBegin c = false) (s : List Char) :
    t.take? (c :: s) = none := by
  cases t with
  | keyword k =>
    have hne : k.spelling ≠ [] := by cases k <;> decide
    exact takeSpelling?_none hne (of_decide_eq_false h)
  | mark m =>
    have hne : m.spelling ≠ [] := by cases m <;> decide
    exact takeSpelling?_none hne (of_decide_eq_false h)
  | name => exact if_neg (by rw [show isWordStart c = false from h]; decide)
  | quoted => exact if_neg (of_decide_eq_false h)
  | «variable» => exact if_neg (of_decide_eq_false h)
  | label => exact if_neg (of_decide_eq_false h)
  | argument => exact if_neg (of_decide_eq_false h)
  | digits => exact takeDigits?_none h
  | number =>
    simp only [Terminal.canBegin, Bool.or_eq_false_iff, decide_eq_false_iff_not] at h
    obtain ⟨⟨⟨hdigit, hplus⟩, hminus⟩, hpoint⟩ := h
    rw [Terminal.take?, read?_none hdigit hplus hminus hpoint]
    rfl
  | minusInf => exact takeSpelling?_none (by decide) fun heq => (of_decide_eq_false h) (by cases heq; rfl)

/-- Nothing but a literal begins with a quote. -/
theorem canBegin_quote {t : Terminal} (ht : t ≠ .quoted) : t.canBegin '"' = false := by
  cases t with
  | keyword k => cases k <;> decide
  | mark m => cases m <;> decide
  | quoted => exact absurd rfl ht
  | _ => decide

/-! ## The lexer -/

/-- A search that one entry of a list alone can answer. -/
theorem findSome?_of_unique {α β : Type} {f : α → Option β} {l : List α} {a : α} {b : β}
    (ha : a ∈ l) (hfa : f a = some b) (hothers : ∀ x, x ≠ a → f x = none) :
    l.findSome? f = some b := by
  induction l with
  | nil => cases ha
  | cons x l ih =>
    by_cases hx : x = a
    · rw [hx, List.findSome?_cons, hfa]
    · rw [List.findSome?_cons, hothers x hx]
      exact ih ((List.mem_cons.1 ha).resolve_left (Ne.symm hx))

theorem mem_otherTerminals {t : Terminal} (ht : t ≠ .name) : t ∈ otherTerminals := by
  cases t with
  | keyword k => cases k <;> decide
  | mark m => cases m <;> decide
  | name => exact absurd rfl ht
  | quoted => decide
  | «variable» => decide
  | label => decide
  | argument => decide
  | digits => decide
  | number => decide
  | minusInf => decide

/-- The lexer finds the one welcome kind that has a token in front. -/
theorem lex?_of_unique {welcome : Terminal → Bool} {kind : Terminal} {s chars : List Char}
    (hkind : kind ≠ .name) (hwelcome : welcome kind = true) (htake : kind.take? s = some chars)
    (hothers : ∀ t, welcome t = true → t ≠ kind → t.take? s = none) :
    lex? welcome s = some (kind, chars) := by
  have hname : (if welcome .name then Terminal.name.take? s else none) = none := by
    split
    · next hwelcome' => exact hothers .name hwelcome' (Ne.symm hkind)
    · rfl
  rw [lex?, hname]
  refine findSome?_of_unique (mem_otherTerminals hkind) ?_ ?_
  · rw [if_pos hwelcome, htake]
    rfl
  · intro t ht
    split
    · next hwelcome' =>
      rw [hothers t hwelcome' ht]
      rfl
    · rfl

/-! ## Tokens in front -/

/-- Among some kinds of tokens, the lexer finds a token in front of a text. -/
structure Cuts (kinds : List Terminal) (kind : Terminal) (chars rest : List Char) : Prop where
  visible : ∃ c cs, chars = c :: cs ∧ isSpace c = false ∧ c ≠ ';'
  lexes : lex? (fun t => kinds.contains t) (chars ++ rest) = some (kind, chars)

/-- A kind is among some kinds, and no other of them begins with this character. -/
def Alone (kinds : List Terminal) (kind : Terminal) (c : Char) : Bool :=
  kinds.contains kind && kinds.all fun t => t = kind || !t.canBegin c

variable {kinds : List Terminal} {kind : Terminal}

theorem cuts_of_alone {c : Char} {cs : List Char} (hkind : kind ≠ .name)
    (halone : Alone kinds kind c = true) (hspace : isSpace c = false) (hcomment : c ≠ ';')
    (htake : kind.take? (c :: cs ++ rest) = some (c :: cs)) : Cuts kinds kind (c :: cs) rest := by
  obtain ⟨hmem, hall⟩ := Bool.and_eq_true_iff.1 halone
  refine ⟨⟨c, cs, rfl, hspace, hcomment⟩, lex?_of_unique hkind hmem htake ?_⟩
  intro t ht hne
  have hbegin := List.all_eq_true.1 hall t (List.contains_iff_mem.1 ht)
  rw [Bool.or_eq_true, decide_eq_true_eq, Bool.not_eq_true'] at hbegin
  exact take?_none (hbegin.resolve_left hne) _

end Listing
end SsaEdit
