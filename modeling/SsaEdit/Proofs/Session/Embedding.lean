/-
Where the statements of the source are emitted.

When a session that used the operations of its builder ends, the renumbering leads
every source statement that was copied and is live to its place in the emitted body,
and keeps them in the order of the source.  The other places are those of the live
inserted statements, and there are no more.
-/
import SsaEdit.Proofs.Session.Defects

namespace SsaEdit

namespace Builder

variable {b : Builder} {c : Canvas}

/-- An end that emits a body, also one that is refused because of its other defects. -/
def Emits (result : Except Fault IR) (out : IR) : Prop :=
  result = .ok out ∨ ∃ report, result = .error (.invalid report (some out))

theorem emits_ok {ir out : IR} (h : Emits (.ok ir) out) : ir = out := by
  rcases h with hok | ⟨report, herror⟩
  · exact Except.ok.inj hok
  · cases herror

theorem emits_error {fault : Fault} {out : IR} (h : Emits (.error fault) out) :
    ∃ report, fault = .invalid report (some out) := by
  rcases h with hok | ⟨report, herror⟩
  · cases hok
  · exact ⟨report, Except.error.inj herror⟩

/-- Whatever the end emits is the body of the renumbered canvas. -/
theorem of_emits (hc : b.canvas = some c) {strict : Bool} {after : Builder}
    {log : List LogRecord} {result : Except Fault IR}
    (hfinish : b.finish strict = ⟨after, log, result⟩) {out : IR} (hout : Emits result out) :
    after = b.finished c ∧ out = emit b.source c.renumbered := by
  cases strict with
  | false =>
    rw [finish_false hc] at hfinish
    injection hfinish with hafter _ hresult
    subst hresult
    exact ⟨hafter.symm, (emits_ok hout).symm⟩
  | true =>
    rw [finish_true hc] at hfinish
    split at hfinish
    · split at hfinish
      · rename_i fault hvalidate
        injection hfinish with hafter _ hresult
        subst hresult
        obtain ⟨report, rfl⟩ := emits_error hout
        rw [validate] at hvalidate
        split at hvalidate
        · cases hvalidate
        · cases hvalidate
      · injection hfinish with hafter _ hresult
        refine ⟨hafter.symm, ?_⟩
        split at hresult
        · subst hresult
          exact (emits_ok hout).symm
        · subst hresult
          obtain ⟨report, hfault⟩ := emits_error hout
          injection hfault with _ hsame
          exact (Option.some.inj hsame).symm
    · injection hfinish with _ _ hresult
      subst hresult
      obtain ⟨report, hfault⟩ := emits_error hout
      cases hfault

theorem not_emits_of_no_canvas (hc : b.canvas = none) (strict : Bool) (out : IR) :
    ¬ Emits (b.finish strict).result out := by
  have hresult : (b.finish strict).result = .error (.alreadyFinished b.source.name) := by
    simp [finish, liveCanvas, hc, Except.bind]
  rintro (hok | ⟨report, herror⟩)
  · rw [hresult] at hok
    cases hok
  · rw [hresult] at herror
    cases herror

end Builder

namespace Session

/-! ## Places in the result -/

section Places

variable {ir : IR} {overwritten inserted : List Variable} {b : Builder} {c : Canvas}

theorem map_fst_finalPlaces (ids : List Nat) (mapping : List (Nat × Nat)) :
    (Builder.finalPlaces (ids.map fun k => (⟨k⟩, ⟨k⟩)) mapping).map Prod.fst =
      (ids.filter fun k => (mapping.lookup k).isSome).map Variable.mk := by
  induction ids with
  | nil => rfl
  | cons first rest ih =>
    cases hk : mapping.lookup first with
    | none => simpa [Builder.finalPlaces, hk] using ih
    | some k => simpa [Builder.finalPlaces, hk] using ih

/-- The copied statements that are live have a place. -/
theorem Copying.map_fst_places (h : Copying ir overwritten b c) :
    (Builder.finalPlaces b.remap c.newIds).map Prod.fst =
      ((List.range' 1 b.cursor).filter fun k => c.contains ⟨k⟩).map Variable.mk := by
  rw [h.remap, map_fst_finalPlaces]
  simp only [h.lawful.isSome_lookup_newIds]

theorem Copying.nodup_map_fst_places (h : Copying ir overwritten b c) :
    ((Builder.finalPlaces b.remap c.newIds).map Prod.fst).Nodup := by
  rw [h.map_fst_places]
  exact (List.Nodup.filter _ List.nodup_range').map fun _ _ hsame => congrArg Variable.id hsame

/-- The variables that a copying has met. -/
theorem Copying.mem_map_fst_remap (h : Copying ir overwritten b c) {v : Variable} :
    v ∈ b.remap.map Prod.fst ↔ v.id ∈ List.range' 1 b.cursor := by
  rw [h.remap, List.map_map, List.mem_map]
  constructor
  · rintro ⟨k, hk, rfl⟩
    exact hk
  · exact fun hv => ⟨v.id, hv, rfl⟩

theorem Copying.mem_places (h : Copying ir overwritten b c) {p : Variable × Variable} :
    p ∈ Builder.finalPlaces b.remap c.newIds ↔
      p.1.id ∈ List.range' 1 b.cursor ∧ c.newIds.lookup p.1.id = some p.2.id := by
  obtain ⟨⟨i⟩, ⟨k⟩⟩ := p
  rw [h.remap, Builder.finalPlaces, List.filterMap_map, List.mem_filterMap]
  constructor
  · rintro ⟨j, hj, hplace⟩
    obtain ⟨l, hl, hsame⟩ := Option.map_eq_some_iff.1 hplace
    injection hsame with hij hkl
    injection hij with hij
    injection hkl with hkl
    subst hij hkl
    exact ⟨hj, hl⟩
  · rintro ⟨hi, hk⟩
    exact ⟨i, hi, Option.map_eq_some_iff.2 ⟨k, hk, rfl⟩⟩

/-- The live ids are those of the copied statements and of the inserted ones. -/
theorem Copying.liveIds_perm (h : Copying ir overwritten b c)
    (hids : (c.idsBeyond ir.size).Perm (inserted.map Variable.id)) :
    c.liveIds.Perm (((List.range' 1 b.cursor).filter fun k => c.contains ⟨k⟩) ++
      (inserted.filter c.contains).map Variable.id) := by
  have hlive : c.liveIds = (c.entries.map Prod.fst).filter fun k => c.contains ⟨k⟩ := by
    rw [Canvas.liveIds, Canvas.liveEntries, List.filter_map]
    refine congrArg (List.map Prod.fst) (List.filter_congr ?_)
    rintro ⟨id, slot⟩ hmem
    simp [Canvas.contains, h.lawful.mem_entries.1 hmem]
  have hsplit : ((List.range' 1 b.cursor) ++ c.idsBeyond ir.size).Perm (c.entries.map Prod.fst) := by
    rw [← h.placed]
    have hnot : (fun k => !decide (k ≤ ir.size)) = fun k => decide (ir.size < k) := by
      funext k
      rw [← decide_not]
      exact decide_eq_decide.2 Nat.not_le
    have hperm := List.filter_append_perm (fun k => decide (k ≤ ir.size)) (c.entries.map Prod.fst)
    rw [hnot] at hperm
    exact hperm
  have hinserted : (inserted.map Variable.id).filter (fun k => c.contains ⟨k⟩) =
      (inserted.filter c.contains).map Variable.id := by
    rw [List.filter_map]
    rfl
  rw [hlive, ← hinserted, ← List.filter_append]
  exact (hsplit.symm.trans (hids.append_left _)).filter _

/-- A new number that no copied statement has is that of an inserted one. -/
theorem Copying.exists_inserted (h : Copying ir overwritten b c)
    (hids : (c.idsBeyond ir.size).Perm (inserted.map Variable.id)) {k : Nat} (hpos : 1 ≤ k)
    (hk : k ≤ c.liveIds.length)
    (hnot : ⟨k⟩ ∉ (Builder.finalPlaces b.remap c.newIds).map Prod.snd) :
    ∃ v ∈ inserted, c.newIds.lookup v.id = some k := by
  have hlt : k - 1 < c.liveIds.length := by omega
  have hi : c.liveIds[k - 1]? = some c.liveIds[k - 1] := List.getElem?_eq_getElem hlt
  generalize c.liveIds[k - 1] = id at hi
  have hnew : c.newIds.lookup id = some k := h.lawful.lookup_newIds.2 ⟨k - 1, by omega, hi⟩
  have hmem := (h.liveIds_perm hids).mem_iff.1 (List.mem_of_getElem? hi)
  rcases List.mem_append.1 hmem with hcopied | hinserted
  · have hplace : ((⟨id⟩, ⟨k⟩) : Variable × Variable) ∈ Builder.finalPlaces b.remap c.newIds :=
      h.mem_places.2 ⟨(List.mem_filter.1 hcopied).1, hnew⟩
    exact absurd (List.mem_map.2 ⟨_, hplace, rfl⟩) hnot
  · obtain ⟨v, hv, rfl⟩ := List.mem_map.1 hinserted
    exact ⟨v, (List.mem_filter.1 hv).1, hnew⟩

/-- What is emitted for a live entry. -/
theorem emitted_at (h : c.Lawful) {id k : Nat} {slot : Slot} (hmem : (id, slot) ∈ c.liveEntries)
    (hk : c.newIds.lookup id = some k) (source : IR) :
    (Builder.emit source c.renumbered).statement? k =
        some ⟨slot.statement.node.mapIds fun r => Renumbering.target c.newIds r.id,
          slot.statement.type⟩ ∧
      (Builder.emit source c.renumbered).locations[k - 1]? = some slot.location := by
  refine ⟨Canvas.statement?_emit h hmem hk source, ?_⟩
  show c.renumbered.locations[k - 1]? = _
  rw [c.locations_renumbered, List.getElem?_map, Canvas.getElem?_liveEntries h hmem hk]
  rfl

end Places

/-- The renumbering leads the source statements that were copied and are live to where
they are emitted, in their order, and everything else that is emitted was inserted and
is live. -/
structure OrderedEmbedding (copied inserted : List Variable) (c : Canvas)
    (renumbering : List (Variable × Variable)) (out : IR) : Prop where
  keys_nodup : (renumbering.map Prod.fst).Nodup
  domain : ∀ v, v ∈ renumbering.map Prod.fst ↔ v ∈ copied ∧ c.contains v = true
  range : ∀ p ∈ renumbering, 1 ≤ p.2.id ∧ p.2.id ≤ out.size
  places_nodup : (renumbering.map Prod.snd).Nodup
  increasing : ∀ p ∈ renumbering, ∀ q ∈ renumbering, p.1.id < q.1.id ↔ p.2.id < q.2.id
  /-- A place holds the live statement with its references rewritten, and keeps its type
  and its location. -/
  emitted : ∀ p ∈ renumbering, ∃ slot, (p.1.id, slot) ∈ c.liveEntries ∧
    out.statement? p.2.id =
      some ⟨slot.statement.node.mapIds fun r => Renumbering.target c.newIds r.id,
        slot.statement.type⟩ ∧
    out.locations[p.2.id - 1]? = some slot.location
  /-- What is emitted at any other place was inserted and is live. -/
  others : ∀ k, 1 ≤ k → k ≤ out.size → ⟨k⟩ ∉ renumbering.map Prod.snd →
    ∃ v slot, v ∈ inserted ∧ (v.id, slot) ∈ c.liveEntries ∧
      out.statement? k =
        some ⟨slot.statement.node.mapIds fun r => Renumbering.target c.newIds r.id,
          slot.statement.type⟩ ∧
      out.locations[k - 1]? = some slot.location
  size : out.size = renumbering.length + (inserted.filter c.contains).length

theorem Copying.orderedEmbedding {ir : IR} {overwritten inserted : List Variable} {b : Builder}
    {c : Canvas} (h : Copying ir overwritten b c)
    (hids : (c.idsBeyond ir.size).Perm (inserted.map Variable.id)) :
    OrderedEmbedding (b.remap.map Prod.fst) inserted c (Builder.finalPlaces b.remap c.newIds)
      (Builder.emit ir c.renumbered) := by
  have hkeys := h.nodup_map_fst_places
  have hle : ∀ p ∈ Builder.finalPlaces b.remap c.newIds, p.1.id ≤ ir.size := by
    intro p hp
    have hrange := List.mem_range'_1.1 (h.mem_places.1 hp).1
    have := h.cursor_le
    omega
  refine ⟨hkeys, ?_, ?_, ?_, ?_, ?_, ?_, ?_⟩
  · intro v
    rw [h.map_fst_places, h.mem_map_fst_remap, List.mem_map]
    constructor
    · rintro ⟨k, hk, rfl⟩
      exact List.mem_filter.1 hk
    · exact fun hv => ⟨v.id, List.mem_filter.2 hv, rfl⟩
  · intro p hp
    have hnew := (h.mem_places.1 hp).2
    rw [Canvas.size_emit]
    exact ⟨h.lawful.newId_pos hnew, h.lawful.newId_le hnew⟩
  · refine (List.Nodup.of_map Prod.fst hkeys).map_on fun p hp q hq hsame => ?_
    have hp' := (h.mem_places.1 hp).2
    have hq' := (h.mem_places.1 hq).2
    rw [← hsame] at hq'
    have hid : p.1.id = q.1.id := h.lawful.newId_injective hp' hq'
    exact Prod.ext (congrArg Variable.mk hid) hsame
  · intro p hp q hq
    exact (h.newId_lt_iff (hle p hp) (hle q hq) (h.mem_places.1 hp).2 (h.mem_places.1 hq).2).symm
  · intro p hp
    have hnew := (h.mem_places.1 hp).2
    obtain ⟨slot, hslot⟩ := h.lawful.exists_liveEntry (h.lawful.contains_of_newId hnew)
    exact ⟨slot, hslot, emitted_at h.lawful hslot hnew ir⟩
  · intro k hpos hk hnot
    rw [Canvas.size_emit] at hk
    obtain ⟨v, hv, hnew⟩ := h.exists_inserted hids hpos hk hnot
    obtain ⟨slot, hslot⟩ := h.lawful.exists_liveEntry (h.lawful.contains_of_newId hnew)
    exact ⟨v, slot, hv, hslot, emitted_at h.lawful hslot hnew ir⟩
  · have hlength := (h.liveIds_perm hids).length_eq
    have hplaces := congrArg List.length h.map_fst_places
    rw [List.length_map, List.length_map] at hplaces
    rw [List.length_append, List.length_map] at hlength
    rw [Canvas.size_emit, hlength, hplaces]

/-- A session that used the operations of its builder and then emits a body has led the
source statements that were copied and are live to their places in it. -/
theorem emits_orderedEmbedding {ir : IR} {start : Session} (h : ofIR ir = .ok start)
    {calls : List Call} (ho : ∀ call ∈ calls, call.isOwn = true) {strict : Bool}
    {after : Session} {log : List LogRecord} {result : Except Fault IR}
    (hfinish : (start.run calls).finish strict = (after, log, result)) {out : IR}
    (hout : Builder.Emits result out) :
    ∃ c, (start.run calls).builder.canvas = some c ∧
      OrderedEmbedding ((start.run calls).builder.remap.map Prod.fst) (start.inserted calls) c
        after.builder.renumbering out := by
  have hbuilder : (start.run calls).builder.finish strict = ⟨after.builder, log, result⟩ := by
    injection hfinish with hafter hrest
    injection hrest with hlog hresult
    rw [← hafter, ← hlog, ← hresult]
  rcases run_populated h ho with hgone | ⟨c, hc, hids⟩
  · exact absurd (hbuilder ▸ hout) (Builder.not_emits_of_no_canvas hgone strict out)
  · obtain ⟨hafter, rfl⟩ := Builder.of_emits hc.canvas hbuilder hout
    refine ⟨c, hc.canvas, ?_⟩
    rw [hafter, hc.source]
    exact hc.orderedEmbedding hids

/-- Three copies, the first deleted; a statement put before the deleted one and deleted
too, one put at the start, and a strict end in between that is refused. -/
def filledIn : List Call :=
  [.iter, .next .empty 0, .edit (.delete (.variable ⟨1⟩)),
    .edit (.insertBefore (.variable ⟨1⟩) (.node (.const .null)) none), .next .empty 0,
    .edit (.pushFirst (.node (.const .null)) none), .next .empty 0, .finish true,
    .edit (.delete (.variable ⟨8⟩))]

theorem emits_orderedEmbedding_filledIn :
    ∃ after log out c,
      (run ⟨⟨Samples.countingLoop, some (.empty 7), [], 0, .idle, [], false⟩, []⟩ filledIn).finish
        false = (after, log, .ok out) ∧
      after.builder.renumbering = [(⟨2⟩, ⟨2⟩), (⟨3⟩, ⟨3⟩)] ∧ out.size = 3 ∧
      OrderedEmbedding [⟨1⟩, ⟨2⟩, ⟨3⟩] [⟨8⟩, ⟨9⟩] c after.builder.renumbering out := by
  have ho : ∀ call ∈ filledIn, call.isOwn = true := by decide
  have hfinish :
      (run ⟨⟨Samples.countingLoop, some (.empty 7), [], 0, .idle, [], false⟩, []⟩ filledIn).finish
        false = (_, _, .ok _) := rfl
  obtain ⟨c, -, hembedding⟩ := emits_orderedEmbedding ofIR_countingLoop ho hfinish (Or.inl rfl)
  exact ⟨_, _, _, c, hfinish, rfl, rfl, hembedding⟩

end Session
end SsaEdit
