/-
Texts with their wide code points split.

A literal spells a code point above U+FFFF by its two surrogate halves, and a reader
takes these for two code points.  `Text.halved` is the text that comes back.  It is
narrow, and it is written as the text it was made from.
-/
import SsaEdit.Proofs.Text.Literal

namespace SsaEdit

namespace CodePoint

theorem halves_bounds (p : CodePoint) :
    0xD800 ≤ p.halves.1 ∧ p.halves.1 < 0xDC00 ∧ 0xDC00 ≤ p.halves.2 ∧ p.halves.2 < 0xE000 := by
  have hlt := p.isLt
  have hoffset : p.val - 0x10000 < 0x100000 := by omega
  simp only [halves]
  omega

/-- The code points that a reader takes from the literal of one code point. -/
def units (p : CodePoint) : List CodePoint :=
  if p.val < 0x10000 then [p]
  else
    [⟨p.halves.1, by have := p.halves_bounds; omega⟩, ⟨p.halves.2, by have := p.halves_bounds; omega⟩]

theorem units_of_narrow {p : CodePoint} (hp : p.val < 0x10000) : p.units = [p] := if_pos hp

theorem units_of_wide {p : CodePoint} (hp : ¬ p.val < 0x10000) :
    p.units = [⟨p.halves.1, by have := p.halves_bounds; omega⟩,
      ⟨p.halves.2, by have := p.halves_bounds; omega⟩] := if_neg hp

end CodePoint

namespace Text

def halved (t : Text) : Text := t.flatMap CodePoint.units

theorem narrow_halved (t : Text) : t.halved.Narrow := by
  intro q hq
  obtain ⟨p, -, hunit⟩ := List.mem_flatMap.1 hq
  have hbounds := p.halves_bounds
  by_cases hp : p.val < 0x10000
  · rw [CodePoint.units_of_narrow hp, List.mem_singleton] at hunit
    rw [hunit]
    exact hp
  · rw [CodePoint.units_of_wide hp] at hunit
    simp only [List.mem_cons, List.mem_nil_iff, or_false] at hunit
    rcases hunit with rfl | rfl
    · show p.halves.1 < 0x10000
      omega
    · show p.halves.2 < 0x10000
      omega

/-- Nothing but a code point is lost by splitting it. -/
theorem halved_eq_nil {t : Text} : t.halved = [] ↔ t = [] := by
  cases t with
  | nil => simp [halved]
  | cons p t =>
    have hunits : p.units ≠ [] := by
      by_cases hp : p.val < 0x10000
      · simp [CodePoint.units_of_narrow hp]
      · simp [CodePoint.units_of_wide hp]
    simp [halved, hunits]

/-! ## The literal of a split text -/

theorem encodePoint_of_unit {p : CodePoint} (hlow : 0x7F ≤ p.val) (hhigh : p.val < 0x10000) :
    encodePoint p = encodeUnit p.val := by
  have hnot : ¬ (0x20 ≤ p.val ∧ p.val < 0x7F) := by omega
  unfold encodePoint
  split
  case h_8 => rw [if_neg hnot, if_pos hhigh]
  all_goals omega

theorem encodePoint_of_wide {p : CodePoint} (hp : ¬ p.val < 0x10000) :
    encodePoint p = encodeUnit p.halves.1 ++ encodeUnit p.halves.2 := by
  have hnot : ¬ (0x20 ≤ p.val ∧ p.val < 0x7F) := by omega
  unfold encodePoint
  split
  case h_8 => rw [if_neg hnot, if_neg hp]
  all_goals omega

theorem encode_units (p : CodePoint) : p.units.flatMap encodePoint = encodePoint p := by
  by_cases hp : p.val < 0x10000
  · rw [CodePoint.units_of_narrow hp]
    simp
  · have hbounds := p.halves_bounds
    rw [CodePoint.units_of_wide hp, encodePoint_of_wide hp]
    simp only [List.flatMap_cons, List.flatMap_nil, List.append_nil]
    rw [encodePoint_of_unit (by show 0x7F ≤ p.halves.1; omega) (by show p.halves.1 < _; omega),
      encodePoint_of_unit (by show 0x7F ≤ p.halves.2; omega) (by show p.halves.2 < _; omega)]

theorem encode_halved (t : Text) : t.halved.encode = t.encode := by
  have hinside : t.halved.flatMap encodePoint = t.flatMap encodePoint := by
    rw [halved, List.flatMap_assoc]
    simp only [encode_units]
  rw [encode, encode, hinside]

/-! ## Texts that need no splitting -/

/-- A text of ASCII characters. -/
def Ascii (t : Text) : Prop := ∀ p ∈ t, p.val < 0x80

theorem halved_of_ascii {t : Text} (ht : t.Ascii) : t.halved = t := by
  induction t with
  | nil => rfl
  | cons p t ih =>
    have hp : p.val < 0x80 := ht p List.mem_cons_self
    have hrest : halved t = t := ih fun q hq => ht q (List.mem_cons_of_mem _ hq)
    show p.units ++ halved t = p :: t
    rw [hrest, CodePoint.units_of_narrow (by omega)]
    rfl

theorem ascii_of_halved {t : Text} (ht : t.halved.Ascii) : t.Ascii := by
  intro p hp
  have hunit : ∀ q ∈ p.units, q.val < 0x80 := fun q hq => ht q (List.mem_flatMap.2 ⟨p, hp, hq⟩)
  by_cases hnarrow : p.val < 0x10000
  · rw [CodePoint.units_of_narrow hnarrow] at hunit
    exact hunit p List.mem_cons_self
  · have hbounds := p.halves_bounds
    rw [CodePoint.units_of_wide hnarrow] at hunit
    have hhalf : p.halves.1 < 0x80 := hunit _ List.mem_cons_self
    omega

end Text
end SsaEdit
