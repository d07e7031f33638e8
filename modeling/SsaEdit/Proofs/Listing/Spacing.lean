/-
Blanks between tokens.

Blanks and finished comments that are put between two tokens of a listing, or before the
first, change the places of the tokens behind them and nothing else.  The scan of the longer
text follows the scan of the shorter one token by token: up to the place each token is cut
off just as before, at the place the new blanks join those that are there, and behind it the
two scans see the same characters.
-/
import SsaEdit.Proofs.Listing.Boundaries
import SsaEdit.Proofs.Listing.Unplaced

namespace SsaEdit
namespace Listing

/-! ## Blanks -/

/-- Blanks, and comments with the ends of their lines. -/
inductive Blanks : List Char → Prop
  | nil : Blanks []
  | space {c : Char} {rest : List Char} (hc : isSpace c = true) (h : Blanks rest) :
    Blanks (c :: rest)
  | comment {words rest : List Char} (hwords : '\n' ∉ words) (h : Blanks rest) :
    Blanks (';' :: (words ++ '\n' :: rest))

theorem not_comment_of_isSpace {c : Char} (hc : isSpace c = true) : c ≠ ';' := by
  rintro rfl
  cases hc

theorem splitBlanks_space {c : Char} (hc : isSpace c = true) (s : List Char) :
    splitBlanks false (c :: s) = (c :: (splitBlanks false s).1, (splitBlanks false s).2) := by
  simp [splitBlanks, hc, not_comment_of_isSpace hc]

theorem splitBlanks_visible {c : Char} (hspace : isSpace c = false) (hcomment : c ≠ ';')
    (s : List Char) : splitBlanks false (c :: s) = ([], c :: s) := by
  simp [splitBlanks, hspace, hcomment]

theorem splitBlanks_semicolon (s : List Char) :
    splitBlanks false (';' :: s) = (';' :: (splitBlanks true s).1, (splitBlanks true s).2) := by
  simp [splitBlanks]

theorem splitBlanks_word {c : Char} (hc : c ≠ '\n') (s : List Char) :
    splitBlanks true (c :: s) = (c :: (splitBlanks true s).1, (splitBlanks true s).2) := by
  simp [splitBlanks, hc]

theorem splitBlanks_lineEnd (s : List Char) :
    splitBlanks true ('\n' :: s) = ('\n' :: (splitBlanks false s).1, (splitBlanks false s).2) := by
  simp [splitBlanks, isSpace]

/-- To the end of the line of a comment. -/
theorem splitBlanks_words {words : List Char} (hwords : '\n' ∉ words) (s : List Char) :
    splitBlanks true (words ++ '\n' :: s) =
      (words ++ '\n' :: (splitBlanks false s).1, (splitBlanks false s).2) := by
  induction words with
  | nil => exact splitBlanks_lineEnd s
  | cons c words ih =>
    rw [List.cons_append, splitBlanks_word (List.ne_of_not_mem_cons hwords).symm,
      ih (List.not_mem_of_not_mem_cons hwords)]
    rfl

/-- Blanks in front are split off with those that follow them. -/
theorem Blanks.splitBlanks_append {w : List Char} (h : Blanks w) (s : List Char) :
    splitBlanks false (w ++ s) = (w ++ (splitBlanks false s).1, (splitBlanks false s).2) := by
  induction h with
  | nil => rfl
  | space hc _ ih => rw [List.cons_append, splitBlanks_space hc, ih, List.cons_append]
  | @comment words rest hwords _ ih =>
    have hjoin : ';' :: (words ++ '\n' :: rest) ++ s = ';' :: (words ++ '\n' :: (rest ++ s)) := by
      simp
    rw [hjoin, splitBlanks_semicolon, splitBlanks_words hwords, ih]
    simp

theorem Blanks.append {w more : List Char} (h : Blanks w) (hmore : Blanks more) :
    Blanks (w ++ more) := by
  induction h with
  | nil => exact hmore
  | space hc _ ih => exact .space hc ih
  | @comment words rest hwords _ ih =>
    have hjoin : ';' :: (words ++ '\n' :: rest) ++ more =
        ';' :: (words ++ '\n' :: (rest ++ more)) := by
      simp
    exact hjoin ▸ .comment hwords ih

/-- A text that begins with blanks is apart from what precedes it. -/
theorem Blanks.apart {w : List Char} (h : Blanks w) (hw : w ≠ []) (s : List Char) :
    Apart (w ++ s) := by
  cases h with
  | nil => exact absurd rfl hw
  | @space c rest hc =>
    rintro _ ⟨⟩
    by_contra hnot
    simp only [blankChars, List.mem_cons, List.mem_nil_iff, or_false, not_or] at hnot
    simp [isSpace, hnot] at hc
  | comment =>
    rintro _ ⟨⟩
    decide

/-- What is split off before something else are blanks and finished comments, and what
comes then is visible.  Within a comment they begin behind the end of its line. -/
theorem splitBlanks_cases (s : List Char) {c : Char} {rest : List Char} :
    ((splitBlanks false s).2 = c :: rest →
      Blanks (splitBlanks false s).1 ∧ isSpace c = false ∧ c ≠ ';') ∧
    ((splitBlanks true s).2 = c :: rest →
      (∃ words more, '\n' ∉ words ∧ Blanks more ∧ (splitBlanks true s).1 = words ++ '\n' :: more) ∧
        isSpace c = false ∧ c ≠ ';') := by
  induction s with
  | nil => exact ⟨fun h => (by cases h), fun h => (by cases h)⟩
  | cons d s ih =>
    obtain ⟨ihOutside, ihInside⟩ := ih
    constructor
    · intro h
      by_cases hcomment : d = ';'
      · subst hcomment
        rw [splitBlanks_semicolon] at h ⊢
        obtain ⟨⟨words, more, hwords, hmore, hsame⟩, hvisible⟩ := ihInside h
        refine ⟨?_, hvisible⟩
        show Blanks (';' :: (splitBlanks true s).1)
        exact hsame ▸ .comment hwords hmore
      · cases hspace : isSpace d with
        | true =>
          rw [splitBlanks_space hspace] at h ⊢
          exact ⟨.space hspace (ihOutside h).1, (ihOutside h).2⟩
        | false =>
          rw [splitBlanks_visible hspace hcomment] at h ⊢
          cases h
          exact ⟨.nil, hspace, hcomment⟩
    · intro h
      by_cases hline : d = '\n'
      · subst hline
        rw [splitBlanks_lineEnd] at h ⊢
        exact ⟨⟨[], _, List.not_mem_nil, (ihOutside h).1, rfl⟩, (ihOutside h).2⟩
      · rw [splitBlanks_word hline] at h ⊢
        obtain ⟨⟨words, more, hwords, hmore, hsame⟩, hvisible⟩ := ihInside h
        exact ⟨⟨d :: words, more, List.not_mem_cons_of_ne_of_not_mem (Ne.symm hline) hwords, hmore,
          congrArg (d :: ·) hsame⟩, hvisible⟩

theorem blanks_of_splitBlanks {s : List Char} {c : Char} {rest : List Char}
    (h : (splitBlanks false s).2 = c :: rest) : Blanks (splitBlanks false s).1 :=
  ((splitBlanks_cases s).1 h).1

theorem visible_of_splitBlanks {s : List Char} {c : Char} {rest : List Char}
    (h : (splitBlanks false s).2 = c :: rest) : isSpace c = false ∧ c ≠ ';' :=
  ((splitBlanks_cases s).1 h).2

/-! ## Places between tokens -/

section Places

variable {text : List Char}

/-- Where the last of some pieces ends is fixed by where the others end. -/
theorem Covers.concat {pieces : List Piece} {p : Piece} {stop : Nat}
    (h : Covers text (pieces ++ [p]) stop) :
    ∃ here, Covers text pieces here ∧ stop = visibleFrom text here + p.chars.length ∧
      p.chars <+: text.drop (visibleFrom text here) := by
  generalize hsame : pieces ++ [p] = all at h
  cases h with
  | nil => exact absurd hsame (List.concat_ne_nil p pieces)
  | @piece before here q hbefore hchars hstart =>
    obtain ⟨rfl, hlast⟩ := List.append_inj' hsame rfl
    cases hlast
    exact ⟨here, hbefore, rfl, hchars⟩

theorem Covers.nil_eq {stop : Nat} (h : Covers text [] stop) : stop = 0 := by
  generalize hsame : ([] : List Piece) = all at h
  cases h with
  | nil => rfl
  | @piece before _ p => exact absurd hsame.symm (List.concat_ne_nil p before)

theorem Covers.unique {pieces : List Piece} {a b : Nat} (ha : Covers text pieces a)
    (hb : Covers text pieces b) : a = b := by
  induction pieces using List.reverseRecOn generalizing a b with
  | nil => rw [ha.nil_eq, hb.nil_eq]
  | append_singleton pieces p ih =>
    obtain ⟨here, hfirst, rfl, -⟩ := ha.concat
    obtain ⟨there, hsecond, rfl, -⟩ := hb.concat
    rw [ih hfirst hsecond]

/-- Fewer pieces end earlier. -/
theorem Covers.le {front more : List Piece} {here stop : Nat} (hfront : Covers text front here)
    (h : Covers text (front ++ more) stop) : here ≤ stop := by
  induction more using List.reverseRecOn generalizing stop with
  | nil => exact (hfront.unique (List.append_nil front ▸ h)).le
  | append_singleton more p ih =>
    rw [← List.append_assoc] at h
    obtain ⟨there, hbefore, rfl, -⟩ := h.concat
    exact (ih hbefore).trans (by rw [visibleFrom]; omega)

end Places

/-! ## Two scans -/

/-- A scan goes on behind the token in front. -/
theorem scan_of_lex? {state next : State} {here : Nat} {s : List Char} {kind : Terminal}
    {chars : List Char} (hne : chars ≠ [])
    (hlex : lex? state.welcomes (splitBlanks false s).2 = some (kind, chars))
    (hnext : state.advance? ⟨kind, chars, here + (splitBlanks false s).1.length⟩ = some next)
    (last : Nat) :
    scan state last here s =
      scan next (here + (splitBlanks false s).1.length)
        (here + (splitBlanks false s).1.length + chars.length)
        ((splitBlanks false s).2.drop chars.length) := by
  obtain ⟨first, others, rfl⟩ := List.exists_cons_of_ne_nil hne
  obtain ⟨rest, hrest⟩ := lex?_front hlex
  rw [scan_eq]
  rw [← hrest] at hlex ⊢
  rw [List.cons_append] at hlex ⊢
  simp only [scanVisible, hlex, hnext]
  rfl

/-- Blanks in front only move what is behind them. -/
theorem scan_blanks {b : List Char} (hb : Blanks b) (state : State) (last here : Nat)
    (s : List Char) : scan state last here (b ++ s) = scan state last (here + b.length) s := by
  rw [scan_eq, scan_eq, hb.splitBlanks_append, List.length_append, Nat.add_assoc]

/-- The pieces of a state are the first of the tree that is found from it. -/
theorem pieces_of_scan {state : State} (h : state.Lexed) {last here : Nat} {s : List Char}
    {tree : Tree} (hscan : scan state last here s = .ok tree) : state.pieces <+: tree.pieces := by
  obtain ⟨-, -, ⟨-, hfront⟩, -⟩ := exists_of_scan
    (P := fun now _ _ => now.Lexed ∧ state.pieces <+: now.pieces) (fun hbefore _ hlex hnext => by
      obtain ⟨p, -, hpieces⟩ := adds_of_advance? hbefore.1 hnext
      exact ⟨lexed_of_advance? hbefore.1 (lexed_of_lex? hlex _) hnext,
        hpieces ▸ hbefore.2.trans (List.prefix_append _ _)⟩) ⟨h, List.prefix_rfl⟩ hscan
  exact hfront

/-- The piece that a step adds on the way to a tree is the next one of the tree. -/
theorem pieces_of_advance? {state next : State} {t : Token} (h : state.Lexed)
    (hlexed : next.Lexed) (hnext : state.advance? t = some next) {last here : Nat}
    {s : List Char} {tree : Tree} (hscan : scan next last here s = .ok tree) {p : Piece}
    {more : List Piece} (hpieces : state.pieces ++ p :: more <+: tree.pieces) :
    next.pieces = state.pieces ++ [p] := by
  obtain ⟨q, -, hadded⟩ := adds_of_advance? h hnext
  obtain ⟨others, hothers⟩ := hadded ▸ pieces_of_scan hlexed hscan
  obtain ⟨later, hlater⟩ := hpieces
  rw [List.append_assoc] at hothers hlater
  have hq : q = p :=
    List.head_eq_of_cons_eq (List.append_cancel_left (hothers.trans hlater.symm))
  exact hq ▸ hadded

/-- Two scans of one text that set out from places of their own, and from states that
differ in places only, find trees that differ in places only. -/
theorem scan_of_unplaced {state other : State} (h : state.unplaced = other.unplaced)
    {last here : Nat} {s : List Char} {tree : Tree} (hscan : scan state last here s = .ok tree)
    (earlier place : Nat) :
    ∃ found, scan other earlier place s = .ok found ∧ tree.unplaced = found.unplaced := by
  induction hlength : s.length using Nat.strong_induction_on
    generalizing state other last here s earlier place with
  | h n ih =>
    subst hlength
    rcases scan_cases hscan with ⟨rfl, hblank⟩ | ⟨kind, chars, next, hne, hlex, hnext, hrest, hlt⟩
    · have hother : other.tree?.map Tree.unplaced = some tree.unplaced := by
        rw [unplaced_tree?, ← h]
        rfl
      obtain ⟨found, hfound, hsame⟩ := Option.map_eq_some_iff.1 hother
      refine ⟨found, ?_, hsame.symm⟩
      rw [scan_eq, hblank, scanVisible, hfound]
    · obtain ⟨after, hafter, hsame⟩ :=
        advance?_of_unplaced h hnext (place + (splitBlanks false s).1.length)
      rw [welcomes_of_unplaced h] at hlex
      rw [scan_of_lex? hne hlex hafter]
      exact ih _ hlt hsame hrest _ _ rfl

/-! ## Blanks put in -/

/-- A token that is in front of a place is in front of it still when blanks are put there. -/
theorem lex?_spaced {welcome : Terminal → Bool} {kind : Terminal} {chars between w v : List Char}
    (hne : chars ≠ []) (hw : Blanks w)
    (hlex : lex? welcome (chars ++ between ++ v) = some (kind, chars)) :
    lex? welcome (chars ++ between ++ (w ++ v)) = some (kind, chars) := by
  by_cases hnil : w = []
  · rw [hnil]
    exact hlex
  · exact lex?_apart (hw.apart hnil v) hlex hne (List.prefix_append chars between)

/-- The token in front ends before a place, so what is before the place splits into blanks,
the token and more. -/
theorem exists_between {u v chars : List Char}
    (hchars : chars <+: (splitBlanks false (u ++ v)).2)
    (hlength : (splitBlanks false (u ++ v)).1.length + chars.length ≤ u.length) :
    ∃ between, u = (splitBlanks false (u ++ v)).1 ++ chars ++ between ∧
      (splitBlanks false (u ++ v)).2 = chars ++ between ++ v := by
  have hjoined := splitBlanks_rejoins false (u ++ v)
  obtain ⟨rest, hrest⟩ := hchars
  have hfront : (splitBlanks false (u ++ v)).1 ++ chars <+: u := by
    refine List.prefix_of_prefix_length_le ⟨rest, ?_⟩ (List.prefix_append u v) ?_
    · rw [List.append_assoc, hrest, hjoined]
    · rwa [List.length_append]
  obtain ⟨between, hbetween⟩ := hfront
  refine ⟨between, hbetween.symm, ?_⟩
  have hsame : (splitBlanks false (u ++ v)).1 ++ (splitBlanks false (u ++ v)).2 =
      (splitBlanks false (u ++ v)).1 ++ (chars ++ between ++ v) := by
    rw [hjoined]
    nth_rewrite 1 [← hbetween]
    simp
  exact List.append_cancel_left hsame

/-- A token before the place is taken from the text with blanks put in as well. -/
theorem scan_token_spaced {state next : State} {kind : Terminal}
    {b chars between w v : List Char} (hb : Blanks b) (hw : Blanks w)
    (hvisible : ∃ c cs, chars = c :: cs ∧ isSpace c = false ∧ c ≠ ';')
    (hlex : lex? state.welcomes (chars ++ between ++ v) = some (kind, chars)) {here : Nat}
    (hnext : state.advance? ⟨kind, chars, here + b.length⟩ = some next) (last : Nat) :
    scan state last here (b ++ chars ++ between ++ w ++ v) =
      scan next (here + b.length) (here + b.length + chars.length) (between ++ w ++ v) := by
  have hne : chars ≠ [] := by
    obtain ⟨c, cs, rfl, -⟩ := hvisible
    exact List.cons_ne_nil c cs
  have hcuts : Cuts state.kinds kind chars (between ++ w ++ v) := by
    refine ⟨hvisible, ?_⟩
    rw [← welcomes_eq, List.append_assoc between, ← List.append_assoc]
    exact lex?_spaced hne hw hlex
  have hjoined : b ++ chars ++ between ++ w ++ v = b ++ (chars ++ (between ++ w ++ v)) := by
    simp
  rw [hjoined, scan_blanks hb, scan_token hcuts last _ hnext]

/-- The scan of a text with blanks put in follows the scan without them, token by token up
to the place and then at one stroke. -/
theorem scan_spaced {text w v gap : List Char} {tree : Tree} {stop : Nat} (hw : Blanks w)
    (hgap : Blanks gap) (hfront : gap <+: text.drop stop) {more : List Piece} {state other : State}
    {last here : Nat} {u : List Char} (hreached : Reached text state here (u ++ v))
    (hsame : state.unplaced = other.unplaced) (hcovers : Covers text (state.pieces ++ more) stop)
    (hpieces : state.pieces ++ more <+: tree.pieces)
    (hplace : here + u.length = stop + gap.length)
    (hscan : scan state last here (u ++ v) = .ok tree) (earlier place : Nat) :
    ∃ found, scan other earlier place (u ++ w ++ v) = .ok found ∧
      tree.unplaced = found.unplaced := by
  induction more generalizing state other last here u earlier place with
  | nil =>
    -- only the gap is left before the place
    rw [List.append_nil] at hcovers
    obtain rfl := hreached.covers.unique hcovers
    have hu : u = gap := by
      have hle : u <+: gap :=
        List.prefix_of_prefix_length_le ⟨v, hreached.rest.symm⟩ hfront (by omega)
      exact hle.eq_of_length (by omega)
    subst hu
    rw [scan_blanks hgap] at hscan
    rw [scan_blanks (hgap.append hw)]
    exact scan_of_unplaced hsame hscan _ _
  | cons p more ih =>
    rcases scan_cases hscan with ⟨rfl, -⟩ | ⟨kind, chars, next, hne, hlex, hnext, hrest, -⟩
    · have hlength := hpieces.length_le
      rw [List.length_append, List.length_cons] at hlength
      exact absurd hlength (by simp [State.pieces])
    · have hstep := hreached.advance hlex hnext
      have hmore : next.pieces ++ more = state.pieces ++ p :: more := by
        rw [pieces_of_advance? hreached.lexed hstep.lexed hnext hrest hpieces, List.append_assoc,
          List.singleton_append]
      rw [← hmore] at hcovers hpieces
      have hle := hstep.covers.le hcovers
      obtain ⟨between, hu, hsplit⟩ := exists_between (lex?_front hlex) (by omega)
      have hvisible : ∃ c cs, chars = c :: cs ∧ isSpace c = false ∧ c ≠ ';' := by
        obtain ⟨c, cs, rfl⟩ := List.exists_cons_of_ne_nil hne
        exact ⟨c, cs, rfl, visible_of_splitBlanks hsplit⟩
      have hblanks : Blanks (splitBlanks false (u ++ v)).1 := by
        obtain ⟨c, cs, rfl, -⟩ := hvisible
        exact blanks_of_splitBlanks hsplit
      rw [hsplit] at hlex hrest hstep
      generalize (splitBlanks false (u ++ v)).1 = b at *
      subst hu
      have hdrop : (chars ++ between ++ v).drop chars.length = between ++ v := by
        rw [List.append_assoc, List.drop_left]
      rw [hdrop] at hrest hstep
      have hshort : here + b.length + chars.length + between.length = stop + gap.length := by
        rw [← hplace, List.length_append, List.length_append, ← Nat.add_assoc, ← Nat.add_assoc]
      obtain ⟨after, hafter, hagain⟩ := advance?_of_unplaced hsame hnext (place + b.length)
      rw [scan_token_spaced hblanks hw hvisible (welcomes_of_unplaced hsame ▸ hlex) hafter]
      exact ih hstep hagain hcovers hpieces hshort hrest _ _

/-- The place between two parts of a text is behind some of the first pieces of its tree, with
nothing but blanks and finished comments from their end to the place.  It is directly behind
a token if nothing is there, and before the first token if there are no pieces. -/
def IsGap (u v : List Char) : Prop :=
  ∃ tree pieces stop gap, scan .start 0 0 (u ++ v) = .ok tree ∧ pieces <+: tree.pieces ∧
    Covers (u ++ v) pieces stop ∧ Blanks gap ∧ u = (u ++ v).take stop ++ gap

theorem Covers.front {text : List Char} {front more : List Piece} {stop : Nat}
    (h : Covers text (front ++ more) stop) : ∃ here, Covers text front here := by
  induction more using List.reverseRecOn generalizing stop with
  | nil => exact ⟨stop, List.append_nil front ▸ h⟩
  | append_singleton more p ih =>
    rw [← List.append_assoc] at h
    obtain ⟨here, hbefore, -⟩ := h.concat
    exact ih hbefore

/-- There is a gap behind every piece of a tree. -/
theorem isGap_behind {text : List Char} {tree : Tree} (hscan : scan .start 0 0 text = .ok tree)
    {pieces : List Piece} (hpieces : pieces <+: tree.pieces) :
    ∃ stop, Covers text pieces stop ∧ IsGap (text.take stop) (text.drop stop) := by
  obtain ⟨stop, hcovers, -⟩ := (derives_of_scan hscan).covers
  obtain ⟨more, hmore⟩ := hpieces
  obtain ⟨here, hhere⟩ := (hmore ▸ hcovers).front
  refine ⟨here, hhere, tree, pieces, here, [], ?_⟩
  rw [List.take_append_drop, List.append_nil]
  exact ⟨hscan, ⟨more, hmore⟩, hhere, .nil, rfl⟩

theorem Covers.le_length {text : List Char} {pieces : List Piece} {stop : Nat}
    (h : Covers text pieces stop) : stop ≤ text.length := by
  induction h with
  | nil => exact Nat.zero_le _
  | @piece pieces here p _ hchars _ ih =>
    have hfront : (splitBlanks false (text.drop here)).1.length ≤ (text.drop here).length := by
      have hjoined := congrArg List.length (splitBlanks_rejoins false (text.drop here))
      rw [List.length_append] at hjoined
      omega
    have hle := hchars.length_le
    rw [List.length_drop] at hle hfront
    rw [visibleFrom] at hle ⊢
    omega

/-- Blanks, line ends and finished comments of any number can be put behind a token or before
the first one: the text is read as the same body. -/
theorem read_spaced {home : Namespace} {u v w : List Char} {ir : IR}
    (h : read home (u ++ v) = .ok ir) (hgap : IsGap u v) (hw : Blanks w) :
    read home (u ++ w ++ v) = .ok ir := by
  obtain ⟨tree, pieces, stop, gap, hscan, hpieces, hcovers, hblank, hu⟩ := hgap
  have hlength : u.length = stop + gap.length := by
    have hsum := congrArg List.length hu
    have hle := hcovers.le_length
    rw [List.length_append, List.length_take] at hsum
    omega
  have hfront : gap <+: (u ++ v).drop stop := by
    have hjoined : (u ++ v).take stop ++ (gap ++ v) =
        (u ++ v).take stop ++ (u ++ v).drop stop := by
      rw [List.take_append_drop, ← List.append_assoc, ← hu]
    exact ⟨v, List.append_cancel_left hjoined⟩
  have hstart : Reached (u ++ v) .start 0 (u ++ v) := ⟨rfl, trivial, .nil⟩
  obtain ⟨found, hfound, hsame⟩ := scan_spaced hw hblank hfront hstart rfl hcovers hpieces
    (by rw [Nat.zero_add, hlength]) hscan 0 0
  have hvalue := @read_of_unplaced home _ _ _ _ hscan hfound hsame
  cases hread : read home (u ++ w ++ v) with
  | error fault =>
    rw [h, hread] at hvalue
    cases hvalue
  | ok other =>
    rw [h, hread] at hvalue
    rw [Option.some.inj hvalue]

/-- A listing written without blanks where it can be. -/
def tight : List Char := " f(x)\x7b%1=call g(1e3,-inf)%2=return\"a;b\"\x7d".toList

/-- A blank, a comment that looks like something else, and several kinds of blanks. -/
def remark : List Char := " ;\"ir f( \x7b %1\n\t\x0c\r;\n".toList

theorem blanks_remark : Blanks remark := by
  refine .space rfl (@Blanks.comment "\"ir f( \x7b %1".toList _ (by decide) ?_)
  exact .space rfl (.space rfl (.space rfl (@Blanks.comment [] [] List.not_mem_nil .nil)))

/-- Behind the first word of a listing. -/
theorem isGap_word {rest : List Char} {tree : Tree}
    (hscan : scan .start 0 0 ("ir".toList ++ rest) = .ok tree) : IsGap "ir".toList rest := by
  refine ⟨tree, [.word .ir], 2, [], hscan, ⟨_, rfl⟩, ?_, .nil, rfl⟩
  exact .piece (.word .ir) .nil (List.prefix_append ['i', 'r'] rest) fun _ h => by cases h

theorem read_spaced_remark :
    ∃ ir, read (.named "main") ("ir".toList ++ tight) = .ok ir ∧ IsGap "ir".toList tight ∧
      Blanks remark ∧ read (.named "main") ("ir".toList ++ remark ++ tight) = .ok ir := by
  have hok : (read (.named "main") ("ir".toList ++ tight)).isOk = true := by decide +kernel
  cases hread : read (.named "main") ("ir".toList ++ tight) with
  | error fault =>
    rw [hread] at hok
    cases hok
  | ok ir =>
    cases hscan : scan .start 0 0 ("ir".toList ++ tight) with
    | error offset => cases (read_of_scan_error hscan).symm.trans hread
    | ok tree =>
      have hgap := isGap_word hscan
      exact ⟨ir, rfl, hgap, blanks_remark, read_spaced hread hgap blanks_remark⟩

end Listing
end SsaEdit
