/-
The characters of a listing.

Whatever a printable body holds, its listing is made of printable ASCII characters,
tabs and line feeds: a bare name is a word, a numeral is made of digits, signs, points
and exponent marks, and a literal spells everything else by escapes.  So nothing in a
listing is changed when line ends are unified.
-/
import SsaEdit.Proofs.Listing.RoundTrip

namespace SsaEdit
namespace Listing

/-- The characters that listings are made of. -/
def isPlain (c : Char) : Bool := c == '\t' || c == '\n' || (' ' ≤ c && c ≤ '~')

theorem isPlain_of_bounds {c : Char} (hlow : 32 ≤ c.toNat) (hhigh : c.toNat ≤ 126) :
    isPlain c = true := by
  have hprintable : ' ' ≤ c ∧ c ≤ '~' := ⟨hlow, hhigh⟩
  simp [isPlain, hprintable]

theorem toNat_lt_of_isPlain {c : Char} (hc : isPlain c = true) : c.toNat < 0x80 := by
  rcases Bool.or_eq_true_iff.1 hc with hblank | hprintable
  · rcases Bool.or_eq_true_iff.1 hblank with htab | hfeed
    · exact eq_of_beq htab ▸ by decide
    · exact eq_of_beq hfeed ▸ by decide
  · have hhigh : c.toNat ≤ 126 := of_decide_eq_true (Bool.and_eq_true_iff.1 hprintable).2
    omega

/-! ## Words and numerals -/

theorem isPlain_of_isDigit {c : Char} (hc : c.isDigit = true) : isPlain c = true := by
  simp only [Char.isDigit, Bool.and_eq_true, decide_eq_true_eq] at hc
  have hlow : 48 ≤ c.toNat := hc.1
  have hhigh : c.toNat ≤ 57 := hc.2
  exact isPlain_of_bounds (by omega) (by omega)

theorem isPlain_of_isWordPart {c : Char} (hc : isWordPart c = true) : isPlain c = true := by
  rcases Bool.or_eq_true_iff.1 hc with hplain | hunderscore
  · rcases Bool.or_eq_true_iff.1 hplain with hletter | hdigit
    · rcases Bool.or_eq_true_iff.1 hletter with hupper | hlower
      · have hlow : 65 ≤ c.toNat := (of_decide_eq_true hupper).1
        have hhigh : c.toNat ≤ 90 := (of_decide_eq_true hupper).2
        exact isPlain_of_bounds (by omega) (by omega)
      · have hlow : 97 ≤ c.toNat := of_decide_eq_true (Bool.and_eq_true_iff.1 hlower).1
        have hhigh : c.toNat ≤ 122 := of_decide_eq_true (Bool.and_eq_true_iff.1 hlower).2
        exact isPlain_of_bounds (by omega) (by omega)
    · exact isPlain_of_isDigit hdigit
  · exact eq_of_beq hunderscore ▸ by decide

theorem plain_word {word : List Char} (hword : isWord word = true) : word.all isPlain = true := by
  cases word with
  | nil => cases hword
  | cons first rest =>
    obtain ⟨hfirst, hrest⟩ := Bool.and_eq_true_iff.1 hword
    have hstart : isWordPart first = true := by
      rcases Bool.or_eq_true_iff.1 hfirst with hletter | hunderscore
      · simp [isWordPart, Char.isAlphanum, hletter]
      · simp [isWordPart, hunderscore]
    rw [List.all_cons, isPlain_of_isWordPart hstart, Bool.true_and, List.all_eq_true]
    exact fun c hc => isPlain_of_isWordPart (List.all_eq_true.1 hrest c hc)

theorem plain_of_allDigits {digits : List Char} (h : AllDigits digits) :
    digits.all isPlain = true :=
  List.all_eq_true.2 fun c hc => isPlain_of_isDigit (h c hc)

theorem plain_toDigits (n : Nat) : (Nat.toDigits 10 n).all isPlain = true :=
  plain_of_allDigits (allDigits_toDigits n)

theorem plain_sign {sign : Option Char} (h : ∀ c ∈ sign, c = '+' ∨ c = '-') :
    sign.toList.all isPlain = true := by
  cases sign with
  | none => rfl
  | some c =>
    rcases h c rfl with rfl | rfl
    · rfl
    · rfl

theorem plain_exponent {e : SpelledExponent} (he : e.Regular) : e.spelling.all isPlain = true := by
  have hmark : isPlain e.mark = true := by
    rcases he.mark with hmark | hmark
    · exact hmark ▸ rfl
    · exact hmark ▸ rfl
  simp [SpelledExponent.spelling, List.all_append, hmark, plain_sign he.sign,
    plain_of_allDigits he.digits]

theorem plain_numeral {n : Numeral} (hn : n.Regular) : n.spelling.all isPlain = true := by
  obtain ⟨sign, whole, fraction, exponent⟩ := n
  have hsign := plain_sign hn.sign
  have hwhole := plain_of_allDigits hn.whole
  have hfraction : ∀ digits ∈ fraction, digits.all isPlain = true := fun digits h =>
    plain_of_allDigits (hn.fraction digits h)
  have hexponent : ∀ e ∈ exponent, e.spelling.all isPlain = true := fun e h =>
    plain_exponent (hn.exponent e h)
  have hpoint : isPlain '.' = true := rfl
  rw [Numeral.spelling, List.all_append, List.all_append, List.all_append, hsign, hwhole]
  cases fraction with
  | none =>
    cases exponent with
    | none => rfl
    | some e => simp [hexponent e rfl]
  | some digits =>
    cases exponent with
    | none => simp [hpoint, hfraction digits rfl]
    | some e => simp [hpoint, hfraction digits rfl, hexponent e rfl]

/-! ## Literals -/

theorem plain_encodeUnit {n : Nat} (hn : n < 0x10000) : (Text.encodeUnit n).all isPlain = true := by
  have hdigit : ∀ d < 16, isPlain (Nat.digitChar d) = true := by decide
  have h1 := hdigit (n / 4096) (by omega)
  have h2 := hdigit (n / 256 % 16) (by omega)
  have h3 := hdigit (n / 16 % 16) (by omega)
  have h4 := hdigit (n % 16) (by omega)
  have hbackslash : isPlain '\\' = true := rfl
  have hletter : isPlain 'u' = true := rfl
  rw [Text.encodeUnit, Text.hexadecimal_four hn]
  simp [h1, h2, h3, h4, hbackslash, hletter]

theorem plain_encodePoint {p : CodePoint} (hp : p.val < 0x10000) :
    (Text.encodePoint p).all isPlain = true := by
  obtain ⟨n, hn⟩ := p
  unfold Text.encodePoint
  split
  case h_8 =>
    split
    case isTrue hprintable =>
      have hnat : (Char.ofNat n).toNat = n := Text.toNat_ofNat hprintable.2
      have hbounds : 32 ≤ n ∧ n < 127 := hprintable
      have hplain : isPlain (Char.ofNat n) = true := isPlain_of_bounds (by omega) (by omega)
      simp [hplain]
    case isFalse => exact plain_encodeUnit hp
  all_goals rfl

theorem plain_encode {t : Text} (ht : t.Narrow) : t.encode.all isPlain = true := by
  have hinside : (t.flatMap Text.encodePoint).all isPlain = true := by
    rw [List.all_flatMap, List.all_eq_true]
    exact fun p hp => plain_encodePoint (ht p hp)
  have hquote : isPlain '"' = true := rfl
  simp [Text.encode, hinside, hquote]

theorem plain_printName {t : Text} (ht : t.Narrow) : (printName t).all isPlain = true := by
  rw [printName]
  split
  · split
    case isTrue hbare => exact plain_word (Bool.and_eq_true_iff.1 hbare).1
    case isFalse => exact plain_encode ht
  · exact plain_encode ht

/-! ## Nodes -/

variable {home : Namespace}

theorem plain_decimalInt (n : Int) : (decimalInt n).toList.all isPlain = true :=
  Numeral.spelling_ofInt n ▸ plain_numeral (Numeral.regular_ofInt n)

theorem plain_sigil {sigil : Char} (hsigil : isPlain sigil = true) (n : Nat) :
    (sigil :: Nat.toDigits 10 n).all isPlain = true := by
  rw [List.all_cons, hsigil, plain_toDigits, Bool.true_and]

theorem plain_float (x : Binary64) : (floatLayout.write x).all isPlain = true := by
  cases x with
  | nan => rfl
  | infinite negative => cases negative <;> rfl
  | finite negative m =>
    obtain ⟨n, hregular, hspelling, -, -⟩ := floatLayout.exists_numeral_write negative m
    exact hspelling ▸ plain_numeral hregular

theorem plain_literal {v : Value} (hv : Literal v) : (printOperand v).all isPlain = true := by
  cases v with
  | null => rfl
  | bool b => cases b <;> rfl
  | int n => exact plain_decimalInt n
  | float x => exact plain_float x
  | text t => exact plain_encode hv
  | «variable» | label | callable | «foreign» | list | tuple | unknown | node | statement =>
    cases hv

theorem plain_constant {v : Value} (hv : Constant home v) :
    (printOperand v).all isPlain = true := by
  cases v with
  | node n =>
    cases n with
    | argument index =>
      obtain ⟨k, rfl⟩ := Int.eq_ofNat_of_zero_le hv.1
      have hprint : printOperand (.node (.argument k)) = '$' :: Nat.toDigits 10 k :=
        argumentDisplay_natCast k
      exact hprint ▸ plain_sigil rfl k
    | global g =>
      have hprint : printOperand (.node (.global g)) = g.name.toList := by
        rw [printOperand, printName, Text.ofString, plainChars?_ofChars]
        simp [hv.2.1, hv.2.2]
      exact hprint ▸ plain_word hv.2.1
    | call | branch | ret | phi | const => cases hv
  | null | bool | int | float | text => exact plain_literal hv
  | «variable» | label | callable | «foreign» | list | tuple | unknown | statement => cases hv

theorem plain_operand {v : Value} (hv : Operand home v) : (printOperand v).all isPlain = true := by
  cases v with
  | «variable» v =>
    have hprint : printOperand (.variable v) = '%' :: Nat.toDigits 10 v.id := variable_display v.id
    exact hprint ▸ plain_sigil rfl v.id
  | _ => exact @plain_constant home _ hv

theorem plain_separated {items : List (List Char)}
    (h : ∀ item ∈ items, item.all isPlain = true) : (separated items).all isPlain = true := by
  cases items with
  | nil => rfl
  | cons first rest =>
    have hcomma : isPlain ',' = true := rfl
    have hspace : isPlain ' ' = true := rfl
    have hrest : (rest.flatMap fun item => ',' :: ' ' :: item).all isPlain = true := by
      rw [List.all_flatMap, List.all_eq_true]
      intro item hitem
      simp [hcomma, hspace, h item (List.mem_cons_of_mem _ hitem)]
    rw [separated_cons, List.all_append, h first List.mem_cons_self, hrest, Bool.true_and]

theorem plain_separated_map {α : Type} {print : α → List Char} {items : List α}
    (h : ∀ item ∈ items, (print item).all isPlain = true) :
    (separated (items.map print)).all isPlain = true := by
  refine plain_separated fun chars hchars => ?_
  obtain ⟨item, hitem, rfl⟩ := List.mem_map.1 hchars
  exact h item hitem

theorem plain_spelling (k : Keyword) : k.spelling.all isPlain = true := by
  cases k <;> rfl

theorem plain_label (l : Label) : l.display.toList.all isPlain = true :=
  label_display l.id ▸ plain_sigil rfl l.id

theorem plain_node {n : Node} (hn : PrintableNode home n) : (printNode n).all isPlain = true := by
  cases n with
  | call callee args =>
    have hargs := plain_separated_map fun arg harg => plain_operand (hn.2 arg harg)
    simp only [printNode, List.all_append, List.all_cons, plain_spelling, plain_operand hn.1, hargs]
    rfl
  | branch target cond =>
    simp only [printNode, List.all_append, List.all_cons, plain_spelling, plain_label]
    split
    · rfl
    · simp only [List.all_append, List.all_cons, plain_spelling, plain_operand hn.2]
      rfl
  | ret value =>
    simp only [printNode, List.all_append, List.all_cons, plain_spelling, plain_operand hn]
    rfl
  | phi incoming =>
    have hedges : (separated (incoming.map printEdge)).all isPlain = true := by
      refine plain_separated_map fun edge hedge => ?_
      simp only [printEdge, List.all_append, plain_label, plain_operand (hn edge hedge).2]
      rfl
    simp only [printNode, List.all_append, plain_spelling, hedges]
    rfl
  | const value => exact plain_literal hn
  | «global» g =>
    have hconstant : Constant home (.node (.global g)) := hn
    exact plain_constant hconstant
  | argument index =>
    have hconstant : Constant home (.node (.argument index)) := hn
    exact plain_constant hconstant

/-! ## Whole listings -/

theorem plain_line {info : LineInfo} (h : PrintableLine info) :
    (printLine info).all isPlain = true := by
  have hfile := plain_encode (narrow_getD h.file)
  have hfunction : (printFunction info.function).all isPlain = true := by
    have hname := h.function
    unfold printFunction
    split
    next q t hsome =>
      rw [hsome] at hname
      simp only [List.all_append, List.all_cons, plain_spelling, plain_printName hname.2]
      rfl
    next => rfl
  rw [printLine_eq]
  simp only [List.all_append, List.all_cons, plain_spelling, hfile, plain_decimalInt, hfunction]
  rfl

theorem plain_type {type : Value} (h : PrintableType type) : (printType type).all isPlain = true := by
  cases type with
  | unknown => rfl
  | text t =>
    have hprint : printType (.text t) = [' ', ':', ':', ' '] ++ printName t := rfl
    rw [hprint, List.all_append, plain_printName h]
    rfl
  | _ => cases h

theorem plain_location {location : Value} (h : PrintableLocation location) :
    (printLocation location).all isPlain = true := by
  cases location with
  | int n =>
    obtain ⟨k, rfl⟩ := Int.eq_ofNat_of_zero_le h.1
    rw [printLocation_natCast]
    split
    · rfl
    · simp only [List.all_cons, plain_toDigits]
      rfl
  | _ => cases h

theorem plain_statement {ir : IR} (h : Printable home ir) {s : Statement} {number : Nat}
    (hs : s ∈ ir.body) :
    (printStatement number s (ir.locations[number - 1]?.getD (.int 0))).all isPlain = true := by
  have hlocation : PrintableLocation (ir.locations[number - 1]?.getD (.int 0)) := by
    cases hfound : ir.locations[number - 1]? with
    | none => exact (by decide : PrintableLocation (.int 0))
    | some location => exact h.locations location (List.mem_of_getElem? hfound)
  have hnumber : ('%' :: Nat.toDigits 10 number).all isPlain = true := plain_sigil rfl number
  rw [printStatement, variable_display]
  simp only [List.all_append, hnumber, plain_node (h.nodes s hs), plain_type (h.types s hs),
    plain_location hlocation]
  rfl

/-- A listing is made of printable ASCII characters, tabs and line feeds. -/
theorem plain_print {ir : IR} (h : Printable home ir) : (print ir).all isPlain = true := by
  have hslots := plain_separated_map fun slot hslot => plain_printName (h.slots slot hslot)
  have hlines : (ir.lineTable.flatMap fun info => '\t' :: printLine info ++ ['\n']).all isPlain =
      true := by
    rw [List.all_flatMap, List.all_eq_true]
    intro info hinfo
    simp only [List.all_append, List.all_cons, plain_line (h.lines info hinfo)]
    rfl
  have hstatements : ((ir.body.zipIdx 1).flatMap fun x =>
      '\t' :: printStatement x.2 x.1 (ir.locations[x.2 - 1]?.getD (.int 0)) ++ ['\n']).all
        isPlain = true := by
    rw [List.all_flatMap, List.all_eq_true]
    intro x hx
    simp only [List.all_append, List.all_cons, plain_statement h (List.fst_mem_of_mem_zipIdx hx)]
    rfl
  rw [print_eq]
  simp only [List.all_append, List.all_cons, plain_spelling, plain_printName h.name, hslots,
    hlines, hstatements]
  rfl

/-- So no carriage return stands in a listing. -/
theorem return_not_mem_print {ir : IR} (h : Printable home ir) : '\r' ∉ print ir := fun hmem =>
  absurd (List.all_eq_true.1 (plain_print h) _ hmem) (by decide)

end Listing
end SsaEdit
