/-
The end of a session.

A builder that is still copying always finishes when it is asked to leniently.
The body holds the live statements of the canvas at their new ids, and the source
statements that were kept are found there through `Builder.renumbering`.  The strict
end looks for dangling references first, and validates the body of the lenient end
when there are none.
-/
import SsaEdit.Proofs.Session.Calls
import SsaEdit.Proofs.Session.Emitted

namespace SsaEdit

namespace Builder

/-- Whether a source statement was copied and is live. -/
def keeps (b : Builder) (id : Nat) : Bool :=
  (b.remap.lookup ⟨id⟩).isSome &&
    match b.canvas with
    | some c => c.contains ⟨id⟩
    | none => false

/-- The place of a source statement in the result, or the number that names no
statement. -/
def finalId (b : Builder) (id : Nat) : Nat :=
  ((b.renumbering.lookup ⟨id⟩).map Variable.id).getD danglingId

/-- The builder after it has emitted the canvas. -/
def finished (b : Builder) (c : Canvas) : Builder :=
  { b with
    canvas := none
    phase := .finished
    renumbering := finalPlaces b.remap c.newIds }

/-- What the builder logs about the canvas that it has emitted. -/
def finishLog (b : Builder) (c : Canvas) : List LogRecord :=
  c.renumbering.log ++ c.renumbering.dangling.map (danglingWarning b.source.name) ++
    [finishedRecord (emit b.source c.renumbered) (finalPlaces b.remap c.newIds).length
      c.renumbering.dropped]

theorem finish_false {b : Builder} {c : Canvas} (h : b.canvas = some c) :
    b.finish false = ⟨b.finished c, b.finishLog c, .ok (emit b.source c.renumbered)⟩ := by
  simp only [finish, liveCanvas, h, Except.bind, Canvas.renumber, Bool.false_and]
  rfl

theorem finish_lenient {b : Builder} {c : Canvas} (h : b.canvas = some c) :
    ∃ log, b.finish false = ⟨b.finished c, log, .ok (emit b.source c.renumbered)⟩ :=
  ⟨_, finish_false h⟩

/-- The strict end refuses before anything changed, or it comes to the state of the
lenient end and returns the body of it if that is valid. -/
theorem finish_true {b : Builder} {c : Canvas} (h : b.canvas = some c) :
    b.finish true =
      if c.renumbering.dangling.isEmpty then
        match validate (emit b.source c.renumbered) with
        | .error fault => ⟨b.finished c, b.finishLog c, .error fault⟩
        | .ok report =>
          ⟨b.finished c, b.finishLog c ++ report.log b.source.name,
            if report.ok then .ok (emit b.source c.renumbered)
            else .error (.invalid report (some (emit b.source c.renumbered)))⟩
      else ⟨b, [], .error (.dangling c.renumbering.dangling)⟩ := by
  rw [finish, liveCanvas, h]
  cases hclean : c.renumbering.dangling.isEmpty with
  | false => simp [Except.bind, Canvas.renumber, hclean]
  | true =>
    simp only [Except.bind, Canvas.renumber, hclean, Bool.not_true, Bool.and_false,
      Bool.false_eq_true, if_false, if_true]
    rfl

/-- When the strict end succeeds, the builder and the body are those of the lenient
end. -/
theorem of_finish_true {b after : Builder} {c : Canvas} (h : b.canvas = some c)
    {log : List LogRecord} {out : IR} (hfinish : b.finish true = ⟨after, log, .ok out⟩) :
    after = b.finished c ∧ out = emit b.source c.renumbered := by
  rw [finish_true h] at hfinish
  split at hfinish
  · split at hfinish
    · injection hfinish with _ _ hresult
      injection hresult
    · injection hfinish with hafter _ hresult
      split at hresult
      · exact ⟨hafter.symm, (Except.ok.inj hresult).symm⟩
      · injection hresult
  · injection hfinish with _ _ hresult
    injection hresult

/-! ## Lookups among statements that kept their ids -/

theorem lookup_map_same (ids : List Nat) (id : Nat) :
    (ids.map fun k => ((⟨k⟩, ⟨k⟩) : Variable × Variable)).lookup ⟨id⟩ =
      if id ∈ ids then some ⟨id⟩ else none := by
  induction ids with
  | nil => rfl
  | cons first rest ih =>
    rw [List.map_cons, List.lookup_cons, ih]
    by_cases h : id = first
    · simp [h]
    · have hbeq : ((⟨id⟩ : Variable) == ⟨first⟩) = false := by simpa using h
      simp [hbeq, h]

theorem lookup_finalPlaces_map (ids : List Nat) (mapping : List (Nat × Nat)) (id : Nat) :
    (finalPlaces (ids.map fun k => (⟨k⟩, ⟨k⟩)) mapping).lookup ⟨id⟩ =
      if id ∈ ids then (mapping.lookup id).map Variable.mk else none := by
  induction ids with
  | nil => rfl
  | cons first rest ih =>
    by_cases h : id = first
    · subst h
      cases hk : mapping.lookup id with
      | none =>
        rw [hk] at ih
        simpa [finalPlaces, hk] using ih
      | some k => simp [finalPlaces, hk]
    · have hbeq : ((⟨id⟩ : Variable) == ⟨first⟩) = false := by simpa using h
      cases hk : mapping.lookup first with
      | none => simpa [finalPlaces, hk, h] using ih
      | some k => simpa [finalPlaces, hk, h, hbeq, List.lookup_cons] using ih

end Builder

namespace Session
namespace Copying

variable {ir : IR} {overwritten : List Variable} {b : Builder} {c : Canvas}

theorem isSome_lookup_remap (h : Copying ir overwritten b c) {id : Nat} :
    (b.remap.lookup ⟨id⟩).isSome = true ↔ 1 ≤ id ∧ id ≤ b.cursor := by
  rw [h.remap, Builder.lookup_map_same]
  have hmem : id ∈ List.range' 1 b.cursor ↔ 1 ≤ id ∧ id ≤ b.cursor := by
    rw [List.mem_range'_1]
    omega
  by_cases hid : id ∈ List.range' 1 b.cursor
  · simpa [hid] using hmem.1 hid
  · simpa [hid] using fun hle => Nat.lt_of_not_le fun hlt => hid (hmem.2 ⟨hle, hlt⟩)

theorem keeps_iff (h : Copying ir overwritten b c) {id : Nat} :
    b.keeps id = true ↔ id ≤ ir.size ∧ c.contains ⟨id⟩ = true := by
  rw [Builder.keeps, h.canvas, Bool.and_eq_true, h.isSome_lookup_remap]
  have := h.cursor_le
  constructor
  · rintro ⟨⟨-, hle⟩, hlive⟩
    exact ⟨by omega, hlive⟩
  · rintro ⟨hle, hlive⟩
    exact ⟨(h.mem_order hle).1 (h.lawful.mem_order_of_contains hlive), hlive⟩

/-- The place of a source statement in the result is its new id on the canvas. -/
theorem lookup_finalPlaces (h : Copying ir overwritten b c) {id : Nat} :
    (Builder.finalPlaces b.remap c.newIds).lookup ⟨id⟩ =
      if b.keeps id then (c.newIds.lookup id).map Variable.mk else none := by
  rw [h.remap, Builder.lookup_finalPlaces_map]
  have hremap : (b.remap.lookup ⟨id⟩).isSome = true ↔ 1 ≤ id ∧ id ≤ b.cursor :=
    h.isSome_lookup_remap
  cases hlive : c.contains ⟨id⟩ with
  | false =>
    rw [h.lawful.lookup_newIds_eq_none.2 hlive]
    simp
  | true =>
    have hkeeps : b.keeps id = true ↔ id ∈ List.range' 1 b.cursor := by
      rw [Builder.keeps, h.canvas]
      simp only [hlive, Bool.and_true]
      rw [hremap, List.mem_range'_1]
      omega
    by_cases hmem : id ∈ List.range' 1 b.cursor
    · rw [if_pos hmem, if_pos (hkeeps.2 hmem)]
    · rw [if_neg hmem, if_neg fun hk => hmem (hkeeps.1 hk)]

/-- The place of a source statement in the result, as a number. -/
theorem finalId_finished (h : Copying ir overwritten b c) (id : Nat) :
    (b.finished c).finalId id =
      if b.keeps id then Renumbering.target c.newIds id else danglingId := by
  show ((List.lookup _ (Builder.finalPlaces b.remap c.newIds)).map Variable.id).getD _ = _
  rw [h.lookup_finalPlaces, Renumbering.target]
  cases b.keeps id with
  | false => rfl
  | true => cases c.newIds.lookup id <;> rfl

/-- The final id of a source statement that is live is its new id. -/
theorem finalId_of_lookup (h : Copying ir overwritten b c) {id k : Nat} (hle : id ≤ ir.size)
    (hk : c.newIds.lookup id = some k) : (b.finished c).finalId id = k := by
  have hkeeps := h.keeps_iff.2 ⟨hle, h.lawful.contains_of_newId hk⟩
  rw [h.finalId_finished, if_pos hkeeps, Renumbering.target, hk]
  rfl

theorem exists_finalId (h : Copying ir overwritten b c) {id : Nat} (hkeeps : b.keeps id = true) :
    id ≤ ir.size ∧ ∃ k, c.newIds.lookup id = some k ∧ (b.finished c).finalId id = k := by
  obtain ⟨hle, hlive⟩ := h.keeps_iff.1 hkeeps
  obtain ⟨k, hk⟩ := h.lawful.exists_newId hlive
  exact ⟨hle, k, hk, h.finalId_of_lookup hle hk⟩

end Copying
end Session
end SsaEdit
