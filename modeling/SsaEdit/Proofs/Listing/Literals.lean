/-
Text literals as tokens.

The end of a literal is the first quote with an even number of backslashes right before it.
`takeQuoted?` finds that quote without counting, since every backslash that shields a
character goes with it.  What is written for a text is such a literal, whatever follows, and
it is read as the text with its wide code points split: as the text itself exactly if it has
none.
-/
import Mathlib.Algebra.Group.Even
import Mathlib.Algebra.Ring.Parity
import SsaEdit.Proofs.Listing.Derivation
import SsaEdit.Proofs.Listing.Lossless

namespace SsaEdit
namespace Listing

/-! ## The pattern of a literal -/

/-- How many backslashes there are at the end. -/
def shieldsAtEnd (s : List Char) : Nat := (s.reverse.takeWhile (· == '\\')).length

/-- Two quotes with no line feed between them and an even number of backslashes before the
second. -/
def IsLiteral (s : List Char) : Prop :=
  ∃ inside, s = '"' :: inside ++ ['"'] ∧ '\n' ∉ inside ∧ Even (shieldsAtEnd inside)

/-- The shortest literal in front of a text. -/
structure FirstLiteral (chars s : List Char) : Prop where
  literal : IsLiteral chars
  front : chars <+: s
  shortest : ∀ other, other <+: s → IsLiteral other → chars.length ≤ other.length

theorem shieldsAtEnd_le (s : List Char) : shieldsAtEnd s ≤ s.length := by
  have hle : shieldsAtEnd s ≤ s.reverse.length := (List.takeWhile_prefix _).length_le
  rwa [List.length_reverse] at hle

theorem shieldsAtEnd_cons (c : Char) (s : List Char) :
    shieldsAtEnd (c :: s) =
      if shieldsAtEnd s = s.length ∧ c = '\\' then s.length + 1 else shieldsAtEnd s := by
  have hcons : (c :: s).reverse.takeWhile (· == '\\') =
      if shieldsAtEnd s = s.length then s.reverse ++ [c].takeWhile (· == '\\')
      else s.reverse.takeWhile (· == '\\') := by
    rw [List.reverse_cons, List.takeWhile_append, shieldsAtEnd, List.length_reverse]
  rw [shieldsAtEnd, hcons]
  by_cases hall : shieldsAtEnd s = s.length
  · by_cases hc : c = '\\'
    · simp [hall, hc]
    · simp [hall, hc]
  · rw [if_neg hall, if_neg fun h => hall h.1]
    rfl

/-- A character that is no backslash does not count. -/
theorem shieldsAtEnd_cons_of_ne {c : Char} (hc : c ≠ '\\') (s : List Char) :
    shieldsAtEnd (c :: s) = shieldsAtEnd s := by
  rw [shieldsAtEnd_cons, if_neg fun h => hc h.2]

/-- A backslash goes with the character after it: together they do not change the parity. -/
theorem even_shieldsAtEnd_pair (c : Char) (s : List Char) :
    Even (shieldsAtEnd ('\\' :: c :: s)) ↔ Even (shieldsAtEnd s) := by
  have hle := shieldsAtEnd_le s
  rw [shieldsAtEnd_cons '\\', List.length_cons]
  by_cases hc : c = '\\'
  · subst hc
    rw [shieldsAtEnd_cons '\\']
    by_cases hall : shieldsAtEnd s = s.length
    · simp [hall, Nat.even_add_one]
    · have hfew : shieldsAtEnd s ≠ s.length + 1 := by omega
      simp [hall, hfew]
  · rw [shieldsAtEnd_cons_of_ne hc, if_neg fun h => by omega]

/-! ## The end of a literal -/

/-- What is taken up to a closing quote. -/
theorem LiteralRest.isLiteral {s taken : List Char} (h : LiteralRest s taken) :
    IsLiteral ('"' :: taken) := by
  suffices hinside : ∃ inside, taken = inside ++ ['"'] ∧ '\n' ∉ inside ∧
      Even (shieldsAtEnd inside) by
    obtain ⟨inside, rfl, hline, heven⟩ := hinside
    exact ⟨inside, rfl, hline, heven⟩
  induction h with
  | close => exact ⟨[], rfl, List.not_mem_nil, by decide⟩
  | @shield c _ _ hline _ ih =>
    obtain ⟨inside, rfl, hnone, heven⟩ := ih
    refine ⟨'\\' :: c :: inside, rfl, ?_, (even_shieldsAtEnd_pair c inside).2 heven⟩
    simp [hnone, Ne.symm hline]
  | @plain c _ _ _ hescape hline _ ih =>
    obtain ⟨inside, rfl, hnone, heven⟩ := ih
    refine ⟨c :: inside, rfl, ?_, (shieldsAtEnd_cons_of_ne hescape inside).symm ▸ heven⟩
    simp [hnone, Ne.symm hline]

/-- No quote before the one that is found closes a literal. -/
theorem LiteralRest.length_le {s taken : List Char} (h : LiteralRest s taken)
    {inside : List Char} (hfront : inside ++ ['"'] <+: s) (heven : Even (shieldsAtEnd inside)) :
    taken.length ≤ inside.length + 1 := by
  induction h generalizing inside with
  | close => simp
  | shield _ _ ih =>
    -- a literal cannot end at a character that a backslash shields
    match inside with
    | [] => cases (List.cons_prefix_cons.1 hfront).1
    | [d] =>
      cases (List.cons_prefix_cons.1 hfront).1
      exact absurd heven (by decide)
    | d :: e :: inside =>
      obtain ⟨hd, hbehind⟩ := List.cons_prefix_cons.1 hfront
      obtain ⟨rfl, hrest⟩ := List.cons_prefix_cons.1 hbehind
      have hle := ih hrest ((even_shieldsAtEnd_pair _ _).1 (hd ▸ heven))
      simpa using hle
  | plain hquote hescape _ _ ih =>
    cases inside with
    | nil => exact absurd (List.cons_prefix_cons.1 hfront).1.symm hquote
    | cons d inside =>
      obtain ⟨rfl, hrest⟩ := List.cons_prefix_cons.1 hfront
      have hle := ih hrest ((shieldsAtEnd_cons_of_ne hescape inside) ▸ heven)
      simpa using hle

/-- The lexer takes the shortest literal in front. -/
theorem firstLiteral_of_take? {s chars : List Char} (h : Terminal.quoted.take? s = some chars) :
    FirstLiteral chars s := by
  have hfront := take?_front h
  cases s with
  | nil => cases h
  | cons c rest =>
    rw [Terminal.take?] at h
    split at h
    case isTrue hquote =>
      obtain ⟨taken, htaken, rfl⟩ := Option.map_eq_some_iff.1 h
      subst hquote
      have hliteral := literalRest_of_takeQuoted? htaken
      refine ⟨hliteral.isLiteral, hfront, ?_⟩
      rintro _ hother ⟨inside, rfl, -, heven⟩
      have hle := hliteral.length_le (List.cons_prefix_cons.1 hother).2 heven
      simpa using hle
    case isFalse => cases h

/-! ## Written texts -/

theorem take?_encode (t : Text) (rest : List Char) :
    Terminal.quoted.take? (t.encode ++ rest) = some t.encode := by
  have hscan := Text.takeQuoted?_flatMap t.narrow_halved rest
  rw [← Text.encode_halved t, Text.encode, List.append_assoc]
  simp only [List.cons_append, List.nil_append, Terminal.take?, if_true, hscan]
  rfl

/-- Wherever a literal is welcome, the lexer takes what is written for a text. -/
theorem lex?_encode {welcome : Terminal → Bool} (hwelcome : welcome .quoted = true) (t : Text)
    (rest : List Char) : lex? welcome (t.encode ++ rest) = some (.quoted, t.encode) :=
  lex?_of_unique (by decide) hwelcome (take?_encode t rest) fun _ _ hother =>
    take?_none (canBegin_quote hother) _

/-- A text is read as itself with its wide code points split. -/
theorem literal_encode_halved (t : Text) (start : Nat) :
    Token.literal ⟨.quoted, t.encode, start⟩ = .ok t.halved := by
  rw [← Text.encode_halved t]
  exact literal_encode t.narrow_halved .quoted start

/-- The literal of a text, with any text after it.  The lexer takes all of it and nothing
more, and that is the shortest literal in front; and it spells the text exactly if no code
point of the text is above U+FFFF, each such code point being spelled as its two halves. -/
theorem literal_roundTrip {welcome : Terminal → Bool} (hwelcome : welcome .quoted = true)
    (t : Text) (rest : List Char) (start : Nat) :
    lex? welcome (t.encode ++ rest) = some (.quoted, t.encode) ∧
      FirstLiteral t.encode (t.encode ++ rest) ∧
        Token.literal ⟨.quoted, t.encode, start⟩ = .ok t.halved ∧
          (Token.literal ⟨.quoted, t.encode, start⟩ = .ok t ↔ t.Narrow) := by
  refine ⟨lex?_encode hwelcome t rest, firstLiteral_of_take? (take?_encode t rest),
    literal_encode_halved t start, ?_⟩
  rw [literal_encode_halved, Except.ok.injEq, Text.halved_eq_self_iff]

/-- A backslash, a quote, two backslashes, a line feed and a letter beyond ASCII. -/
def shieldedQuotes : Text := Text.ofChars ['\\', '"', '\\', '\\', '\n', 'é']

theorem literal_roundTrip_shieldedQuotes :
    State.title.welcomes .quoted = true ∧ shieldedQuotes.Narrow ∧
      lex? State.title.welcomes (shieldedQuotes.encode ++ ['"', '\\', '"']) =
        some (.quoted, shieldedQuotes.encode) ∧
      Token.literal ⟨.quoted, shieldedQuotes.encode, 3⟩ = .ok shieldedQuotes := by
  have hwelcome : State.title.welcomes .quoted = true := by decide
  have hnarrow : shieldedQuotes.Narrow := by decide
  obtain ⟨hlex, -, -, hback⟩ := literal_roundTrip hwelcome shieldedQuotes ['"', '\\', '"'] 3
  exact ⟨hwelcome, hnarrow, hlex, hback.2 hnarrow⟩

/-- A face at U+1F600 is read as two code points, so not every text comes back. -/
theorem literal_lost_wideFace :
    ¬ ∀ (cs : List Char), '\x00' ∉ cs →
      ∀ start,
        Token.literal ⟨.quoted, (Text.ofChars cs).encode, start⟩ = .ok (Text.ofChars cs) := by
  intro hall
  have hback := hall ['😀'] (by decide) 0
  rw [literal_encode_halved, Except.ok.injEq] at hback
  exact absurd (congrArg List.length hback) (by decide)

end Listing
end SsaEdit
