/-
A rebuild without edits.

`Rebuilt` says what comes out when nothing is edited: the source with its global callees
bound and with the references that mean no statement sent to number 0.  `Unedited` is
what every round of the loop over the copies keeps, with the entries of the canvas
written down; at its end the renumbering leads every statement to where it was.
`Rebuilt.eq_of_fixed` then gives the two cases in which nothing changes at all: a source
that needs no binding and no clamping, and a result that is rebuilt once more.

The loop is the one of `Session.rewrite`, in which each step has an environment of its
own; `rebuild_eq_rewrite` says that `rebuild` is the same with one environment for all.
-/
import SsaEdit.Proofs.Node.Relabelled
import SsaEdit.Proofs.Session.OneShot

namespace SsaEdit

/-! ## Binding and clamping -/

namespace IR

/-- The number of a statement of the body as it is, and any other as that of no
statement. -/
def clamp (ir : IR) (id : Nat) : Nat := if 1 ≤ id ∧ id ≤ ir.size then id else danglingId

variable {ir : IR}

theorem copiedId_eq_clamp (r : Reference) : ir.copiedId r = ir.clamp r.id := by
  rw [copiedId, clamp]
  simp only [inRange_iff]

theorem clamp_of_inRange {id : Nat} (h : ir.inRange id = true) : ir.clamp id = id :=
  if_pos (inRange_iff.1 h)

theorem clamp_clamp (id : Nat) : ir.clamp (ir.clamp id) = ir.clamp id := by
  by_cases h : 1 ≤ id ∧ id ≤ ir.size
  · rw [show ir.clamp id = id from if_pos h, show ir.clamp id = id from if_pos h]
  · have hzero : ir.clamp id = danglingId := if_neg h
    rw [hzero]
    exact if_neg fun hpos => Nat.not_succ_le_zero 0 hpos.1

end IR

namespace Environment

variable {env : Environment} {n bound : Node}

theorem eq_bound_of_bindCallee (h : env.bindCallee n = .ok bound) : bound = env.bound n := by
  cases hc : n.callsGlobal with
  | false =>
    rw [bindCallee_of_callsGlobal_eq_false hc] at h
    rw [bound_of_callsGlobal_eq_false hc]
    exact (Except.ok.inj h).symm
  | true =>
    obtain ⟨g, args, rfl⟩ := Node.callsGlobal_eq_true hc
    obtain ⟨callee, hcallee, rfl⟩ := map_eq_ok.1 h
    rw [resolve] at hcallee
    split at hcallee
    · rename_i v hv
      rw [Environment.bound, hv, ← Except.ok.inj hcallee]
      rfl
    · cases hcallee

/-- Whether a callee is bound does not depend on the references. -/
theorem bindCallee_mapIds_of_ok (h : env.bindCallee n = .ok bound) (f : Reference → Nat) :
    env.bindCallee (n.mapIds f) = .ok (env.bound (n.mapIds f)) := by
  have hbound : ∃ bound', env.bindCallee (n.mapIds f) = .ok bound' := by
    cases hc : n.callsGlobal with
    | false => exact ⟨_, bindCallee_of_callsGlobal_eq_false ((Node.callsGlobal_mapIds f n).trans hc)⟩
    | true =>
      obtain ⟨g, args, rfl⟩ := Node.callsGlobal_eq_true hc
      obtain ⟨callee, hcallee, -⟩ := map_eq_ok.1 h
      exact ⟨_, map_eq_ok.2 ⟨callee, hcallee, rfl⟩⟩
  obtain ⟨bound', hbound'⟩ := hbound
  rw [hbound', eq_bound_of_bindCallee hbound']

/-- A rewriting before the binding does not show after another one that it takes
nothing from, also if the callee is bound to a variable. -/
theorem mapIds_bound_mapIds (env : Environment) (n : Node) {f g : Reference → Nat}
    (h : ∀ r, g (r.withId (f r)) = g r) :
    (env.bound (n.mapIds f)).mapIds g = (env.bound n).mapIds g := by
  cases hc : n.callsGlobal with
  | false =>
    rw [bound_of_callsGlobal_eq_false hc,
      bound_of_callsGlobal_eq_false ((Node.callsGlobal_mapIds f n).trans hc), Node.mapIds_mapIds]
    exact Node.mapIds_congr fun r _ => h r
  | true =>
    obtain ⟨ref, args, rfl⟩ := Node.callsGlobal_eq_true hc
    show Node.call (Value.mapId g _) ((args.map (Value.mapId f)).map (Value.mapId g)) =
      Node.call (Value.mapId g _) (args.map (Value.mapId g))
    rw [List.map_map]
    congr 1
    apply List.map_congr_left
    intro arg _
    rw [Function.comp_apply, Value.mapId_mapId]
    exact Value.mapId_congr fun r _ => h r

end Environment

/-! ## What comes out -/

/-- The plan that edits nothing. -/
def StepPlan.idle : StepPlan := ⟨[], .keep, []⟩

/-- What a rebuild without edits makes of a body: statement `k` has its callee bound when
it is visited, and is otherwise only clamped. -/
structure Rebuilt (env : Nat → Environment) (ir out : IR) : Prop where
  size : out.size = ir.size
  nodes : ∀ k n, ir.node? k = some n → ∃ bound emitted, (env k).bindCallee n = .ok bound ∧
    out.node? k = some emitted ∧ bound.Relabelled ir.clamp emitted
  types : out.types = ir.types
  locations : out.locations = ir.locations.take ir.size
  name : out.name = ir.name
  nargs : out.nargs = ir.nargs
  slots : out.slots = ir.slots
  metadata : out.metadata = ir.metadata
  lineTable : out.lineTable = ir.lineTable

theorem IR.statement?_succ (ir : IR) (i : Nat) : ir.statement? (i + 1) = ir.body[i]? := by
  rw [statement?, if_neg (Nat.succ_ne_zero i), Nat.add_sub_cancel]

/-- A body is made of its nodes and its types. -/
theorem IR.body_eq_zipWith (ir : IR) : ir.body = List.zipWith Statement.mk ir.code ir.types := by
  rw [code, types, List.zipWith_map, List.zipWith_self, List.map_id']

namespace Rebuilt

variable {env : Nat → Environment} {ir out : IR}

/-- The nodes that come out, as a list. -/
theorem code_eq (h : Rebuilt env ir out) : out.code = ir.numbered.map fun entry =>
    ((env entry.1).bound entry.2).mapIds fun r => ir.clamp r.id := by
  apply List.ext_getElem?
  intro i
  rw [List.getElem?_map, IR.getElem?_code]
  cases hn : ir.node? (i + 1) with
  | some n =>
    obtain ⟨bound, emitted, hbound, hemitted, hrelabelled⟩ := h.nodes (i + 1) n hn
    have hlt : i < ir.size := (IR.inRange_iff.1 (IR.inRange_of_node? hn)).2
    have hentry : ir.numbered[i]? = some (i + 1, n) := by
      rw [IR.numbered, List.getElem?_zip_eq_some, List.getElem?_range' hlt, IR.getElem?_code, hn]
      exact ⟨congrArg some (by omega), rfl⟩
    rw [hentry, hemitted, Node.relabelled_iff.1 hrelabelled,
      Environment.eq_bound_of_bindCallee hbound]
    rfl
  | none =>
    have hle : ir.code.length ≤ i := by
      rw [← List.getElem?_eq_none_iff, IR.getElem?_code, hn]
    have hnone : out.node? (i + 1) = none := by
      rw [← IR.getElem?_code, List.getElem?_eq_none_iff, IR.length_code, h.size, ← IR.length_code]
      exact hle
    have hentry : ir.numbered[i]? = none := by
      rw [List.getElem?_eq_none_iff, IR.numbered, List.length_zip]
      exact Nat.le_trans (Nat.min_le_right _ _) hle
    rw [hnone, hentry]
    rfl

/-- Nothing changes if no callee is a global and every node is clamped already. -/
theorem eq_of_fixed (h : Rebuilt env ir out) (hcalls : ∀ n ∈ ir.code, n.callsGlobal = false)
    (hclamped : ∀ n ∈ ir.code, n.mapIds (fun r => ir.clamp r.id) = n)
    (hlocations : ir.locations.length = ir.size) : out = ir := by
  have hcode : out.code = ir.code := by
    have hsame : ∀ entry ∈ ir.numbered,
        (((env entry.1).bound entry.2).mapIds fun r => ir.clamp r.id) = entry.2 := by
      intro entry hentry
      have hmem : entry.2 ∈ ir.code := (List.of_mem_zip hentry).2
      rw [Environment.bound_of_callsGlobal_eq_false (hcalls _ hmem), hclamped _ hmem]
    rw [h.code_eq, List.map_congr_left hsame]
    exact List.map_snd_zip (Nat.le_of_eq (by rw [IR.length_code, List.length_range']))
  have hbody : out.body = ir.body := by
    rw [out.body_eq_zipWith, ir.body_eq_zipWith, hcode, h.types]
  have hlocated : out.locations = ir.locations := by
    rw [h.locations, ← hlocations, List.take_length]
  obtain ⟨⟩ := out
  obtain ⟨⟩ := ir
  rw [IR.mk.injEq]
  exact ⟨h.name, h.nargs, h.slots, h.lineTable, hbody, hlocated, h.metadata⟩

/-- The nodes that come out are clamped. -/
theorem clamped (h : Rebuilt env ir out) :
    ∀ n ∈ out.code, n.mapIds (fun r => out.clamp r.id) = n := by
  intro n hn
  rw [h.code_eq] at hn
  obtain ⟨entry, -, rfl⟩ := List.mem_map.1 hn
  have hsame : out.clamp = ir.clamp := by
    funext id
    rw [IR.clamp, IR.clamp, h.size]
  rw [hsame, Node.mapIds_mapIds]
  exact Node.mapIds_congr fun r _ => by rw [Reference.id_withId, IR.clamp_clamp]

end Rebuilt

/-! ## The loop without edits -/

/-- The entry of the copy of statement `k`. -/
def IR.copyAt (ir : IR) (env : Nat → Environment) (k : Nat) : Option (Nat × Slot) :=
  match ir.statement? k, ir.locations[k - 1]? with
  | some s, some location =>
    some (k, ⟨⟨(env k).bound (s.node.mapIds ir.copiedId), s.type⟩, location, false⟩)
  | _, _ => none

namespace Session

/-- A builder that has copied its source up to the cursor, onto a canvas that nobody
edits. -/
structure Unedited (ir : IR) (env : Nat → Environment) (b : Builder) (c : Canvas) : Prop where
  copying : Copying ir [] b c
  entries : c.entries = (List.range' 1 b.cursor).filterMap (ir.copyAt env)

variable {ir : IR} {env : Nat → Environment} {s : Session} {c : Canvas}

/-- The first iterator of a new builder opens. -/
theorem exists_opened (env : Nat → Environment) (hlines : ir.lineTable ≠ []) :
    ∃ start, ofIR ir = .ok start ∧ start.iterators = [] ∧
      start.iter = .ok ⟨{ start.builder with iterating := true }, [true]⟩ ∧
      Unedited ir env { start.builder with iterating := true } (.empty ir.size) := by
  obtain ⟨start, hstart, hnone, hcursor, hidle⟩ := exists_ofIR hlines
  have hcopying := copying_of_ofIR hstart
  refine ⟨start, hstart, hnone, ?_, hcopying.congr rfl rfl rfl rfl, ?_⟩
  · rw [iter_eq hcopying.canvas, hidle, hnone]
    rfl
  · rw [hcursor]
    rfl

/-- One round of the loop copies the next statement, if its callee is bound. -/
theorem round_unedited (hlocations : ir.size ≤ ir.locations.length)
    (hbound : ∀ k n, ir.node? k = some n → ∃ bound, (env k).bindCallee n = .ok bound)
    (h : Unedited ir env s.builder c) {k : Nat} (hopen : s.isOpen k = true)
    (hlt : s.builder.cursor < ir.size) :
    ∃ (after : Session) (c' : Canvas),
      s.rewriteRest env (fun _ => .idle) k = after.rewriteRest env (fun _ => .idle) k ∧
      Unedited ir env after.builder c' ∧ after.isOpen k = true ∧
      after.builder.cursor = s.builder.cursor + 1 := by
  have hs : ir.body[s.builder.cursor]? = some ir.body[s.builder.cursor] :=
    List.getElem?_eq_getElem hlt
  generalize ir.body[s.builder.cursor] = st at hs
  obtain ⟨location, hlocation⟩ : ∃ location, ir.locations[s.builder.cursor]? = some location :=
    ⟨_, List.getElem?_eq_getElem (Nat.lt_of_lt_of_le hlt hlocations)⟩
  have hstatement : ir.statement? (s.builder.cursor + 1) = some st :=
    (ir.statement?_succ _).trans hs
  obtain ⟨bound, hbind⟩ := hbound (s.builder.cursor + 1) st.node (by rw [IR.node?, hstatement]; rfl)
  have hnode := Environment.bindCallee_mapIds_of_ok hbind ir.copiedId
  obtain ⟨copied, hstep, hlawful, hentries, -, hreserved⟩ :=
    h.copying.step_of_bound hs hnode hlocation
  refine ⟨{ s with builder := s.builder.advanced copied }, copied,
    rewriteRest_of_step (next_of_step hopen hstep) rfl,
    ⟨h.copying.advanced hs hnode hlawful hentries hreserved, ?_⟩, hopen, rfl⟩
  have hcopy : ir.copyAt env (s.builder.cursor + 1) = some (s.builder.cursor + 1,
      ⟨⟨(env (s.builder.cursor + 1)).bound (st.node.mapIds ir.copiedId), st.type⟩, location,
        false⟩) := by
    rw [IR.copyAt, hstatement, Nat.add_sub_cancel, hlocation]
  show copied.entries = (List.range' 1 (s.builder.cursor + 1)).filterMap _
  rw [hentries, h.entries, List.range'_1_concat, List.filterMap_append, Nat.add_comm 1,
    List.filterMap_cons_some hcopy]
  rfl

/-- The loop copies the whole source. -/
theorem rewriteRest_unedited (hlocations : ir.size ≤ ir.locations.length)
    (hbound : ∀ k n, ir.node? k = some n → ∃ bound, (env k).bindCallee n = .ok bound)
    (h : Unedited ir env s.builder c) {k : Nat} (hopen : s.isOpen k = true) :
    ∃ after c', s.rewriteRest env (fun _ => .idle) k = (after, .ok ()) ∧
      Unedited ir env after.builder c' ∧ after.builder.cursor = ir.size := by
  generalize hleft : ir.size - s.builder.cursor = left
  induction left generalizing s c with
  | zero =>
    have hend : s.builder.cursor = ir.size := by
      have := h.copying.cursor_le
      omega
    refine ⟨_, c, rewriteRest_of_end (next_of_end h.copying hopen hend _), ?_⟩
    obtain ⟨iterating, hclosed⟩ :=
      close_builder { s with builder := { s.builder with phase := .exhausted } } k
    rw [hclosed]
    exact ⟨⟨h.copying.congr rfl rfl rfl rfl, h.entries⟩, hend⟩
  | succ left ih =>
    obtain ⟨next, c', hround, hnext, hopen', hcursor⟩ :=
      round_unedited hlocations hbound h hopen (by omega)
    rw [hround]
    exact ih hnext hopen' (by omega)

/-! ## The end -/

theorem copyAt_eq_some {k : Nat} {entry : Nat × Slot} (h : ir.copyAt env k = some entry) :
    entry.1 = k ∧ entry.2.deleted = false := by
  rw [IR.copyAt] at h
  split at h
  · obtain rfl := Option.some.inj h
    exact ⟨rfl, rfl⟩
  · cases h

namespace Unedited

variable {b : Builder}

theorem liveEntries_eq (h : Unedited ir env b c) : c.liveEntries = c.entries := by
  rw [Canvas.liveEntries, List.filter_eq_self, h.entries]
  intro entry hentry
  obtain ⟨k, -, hcopy⟩ := List.mem_filterMap.1 hentry
  rw [(copyAt_eq_some hcopy).2]
  rfl

theorem liveIds_eq (h : Unedited ir env b c) : c.liveIds = List.range' 1 b.cursor := by
  rw [Canvas.liveIds, h.liveEntries_eq, ← h.copying.placed, eq_comm, List.filter_eq_self, h.entries]
  intro id hid
  obtain ⟨entry, hentry, rfl⟩ := List.mem_map.1 hid
  obtain ⟨k, hk, hcopy⟩ := List.mem_filterMap.1 hentry
  rw [(copyAt_eq_some hcopy).1, decide_eq_true_iff]
  have := List.mem_range'_1.1 hk
  have := h.copying.cursor_le
  omega

theorem lookup_newIds (h : Unedited ir env b c) (hend : b.cursor = ir.size) {id : Nat}
    (hid : 1 ≤ id ∧ id ≤ ir.size) : c.newIds.lookup id = some id := by
  refine h.copying.lawful.lookup_newIds.2 ⟨id - 1, by omega, ?_⟩
  rw [h.liveIds_eq, hend, List.getElem?_range' (by omega)]
  exact congrArg some (by omega)

/-- The renumbering clamps. -/
theorem target_eq (h : Unedited ir env b c) (hend : b.cursor = ir.size) (id : Nat) :
    Renumbering.target c.newIds id = ir.clamp id := by
  rw [Renumbering.target, IR.clamp]
  by_cases hid : 1 ≤ id ∧ id ≤ ir.size
  · rw [h.lookup_newIds hend hid, if_pos hid]
    rfl
  · have hnone : c.newIds.lookup id = none := by
      rw [Option.eq_none_iff_forall_ne_some]
      intro k hk
      obtain ⟨i, -, hi⟩ := h.copying.lawful.lookup_newIds.1 hk
      have hmem := List.mem_of_getElem? hi
      rw [h.liveIds_eq, hend, List.mem_range'_1] at hmem
      omega
    rw [hnone, if_neg hid]
    rfl

theorem finalPlaces_eq (h : Unedited ir env b c) (hend : b.cursor = ir.size) :
    Builder.finalPlaces b.remap c.newIds = ir.vars.map fun v => (v, v) := by
  rw [h.copying.remap, hend, Builder.finalPlaces, List.filterMap_map, IR.vars, List.map_map,
    ← List.filterMap_eq_map]
  apply List.filterMap_congr
  intro id hid
  have hrange : 1 ≤ id ∧ id ≤ ir.size := by
    have := List.mem_range'_1.1 hid
    omega
  show (c.newIds.lookup id).map _ = _
  rw [h.lookup_newIds hend hrange]
  rfl

/-- Each statement is emitted where it was, and with it its location. -/
theorem emitted_at (h : Unedited ir env b c) (hend : b.cursor = ir.size) {k : Nat}
    {st : Statement} {location : Value} (hst : ir.statement? k = some st)
    (hlocation : ir.locations[k - 1]? = some location) :
    (Builder.emit ir c.renumbered).statement? k =
        some ⟨((env k).bound st.node).mapIds fun r => ir.clamp r.id, st.type⟩ ∧
      (Builder.emit ir c.renumbered).locations[k - 1]? = some location := by
  have hrange : ir.inRange k = true :=
    IR.inRange_of_node? (n := st.node) (by rw [IR.node?, hst]; rfl)
  rw [IR.inRange_iff] at hrange
  have hmem : (k, ⟨⟨(env k).bound (st.node.mapIds ir.copiedId), st.type⟩, location, false⟩) ∈
      c.liveEntries := by
    rw [h.liveEntries_eq, h.entries, List.mem_filterMap]
    refine ⟨k, List.mem_range'_1.2 (by omega), ?_⟩
    rw [IR.copyAt, hst, hlocation]
  have hnew := h.lookup_newIds hend hrange
  have hnode : ((env k).bound (st.node.mapIds ir.copiedId)).mapIds
        (fun r => Renumbering.target c.newIds r.id) =
      ((env k).bound st.node).mapIds fun r => ir.clamp r.id := by
    simp only [h.target_eq hend]
    exact (env k).mapIds_bound_mapIds st.node fun r => by
      rw [Reference.id_withId, IR.copiedId_eq_clamp, IR.clamp_clamp]
  refine ⟨?_, ?_⟩
  · rw [Canvas.statement?_emit h.copying.lawful hmem hnew ir, ← hnode]
    rfl
  · show c.renumbered.locations[k - 1]? = _
    rw [c.locations_renumbered, List.getElem?_map,
      Canvas.getElem?_liveEntries h.copying.lawful hmem hnew]
    rfl

theorem rebuilt (h : Unedited ir env b c) (hend : b.cursor = ir.size)
    (hlocations : ir.size ≤ ir.locations.length)
    (hbound : ∀ k n, ir.node? k = some n → ∃ bound, (env k).bindCallee n = .ok bound) :
    Rebuilt env ir (Builder.emit ir c.renumbered) := by
  have hsize : (Builder.emit ir c.renumbered).size = ir.size := by
    rw [Canvas.size_emit, h.liveIds_eq, hend, List.length_range']
  have hlength : (Builder.emit ir c.renumbered).locations.length = ir.size := by
    rw [← hsize, Canvas.size_emit, Canvas.liveIds, List.length_map]
    show c.renumbered.locations.length = _
    rw [c.locations_renumbered, List.length_map]
  have hemitted : ∀ (i : Nat) (st : Statement), ir.body[i]? = some st →
      ∃ location, ir.locations[i]? = some location ∧
        (Builder.emit ir c.renumbered).body[i]? =
          some ⟨((env (i + 1)).bound st.node).mapIds fun r => ir.clamp r.id, st.type⟩ ∧
        (Builder.emit ir c.renumbered).locations[i]? = some location := by
    intro i st hst
    have hlt : i < ir.size := (List.getElem?_eq_some_iff.1 hst).1
    have hlocation := List.getElem?_eq_getElem (Nat.lt_of_lt_of_le hlt hlocations)
    rw [← IR.statement?_succ] at hst ⊢
    exact ⟨_, hlocation, h.emitted_at hend hst hlocation⟩
  refine ⟨hsize, ?_, ?_, ?_, rfl, rfl, rfl, rfl, rfl⟩
  · intro k n hk
    obtain ⟨bound, hb⟩ := hbound k n hk
    obtain ⟨i, rfl⟩ : ∃ i, k = i + 1 := by
      have := (IR.inRange_iff.1 (IR.inRange_of_node? hk)).1
      exact ⟨k - 1, by omega⟩
    obtain ⟨st, hst, rfl⟩ := Option.map_eq_some_iff.1 hk
    rw [IR.statement?_succ] at hst
    obtain ⟨-, -, hnode, -⟩ := hemitted i st hst
    refine ⟨bound, _, hb, ?_, Node.relabelled_iff.2 rfl⟩
    rw [IR.node?, IR.statement?_succ, hnode, Environment.eq_bound_of_bindCallee hb]
    rfl
  · apply List.ext_getElem?
    intro i
    rw [IR.types, IR.types, List.getElem?_map, List.getElem?_map]
    cases hst : ir.body[i]? with
    | none =>
      have hnone : (Builder.emit ir c.renumbered).body[i]? = none := by
        rw [List.getElem?_eq_none_iff] at hst ⊢
        exact Nat.le_trans (Nat.le_of_eq hsize) hst
      rw [hnone]
    | some st =>
      obtain ⟨-, -, hnode, -⟩ := hemitted i st hst
      rw [hnode]
      rfl
  · apply List.ext_getElem?
    intro i
    by_cases hi : i < ir.size
    · obtain ⟨location, hlocation, -, hemits⟩ := hemitted i _ (List.getElem?_eq_getElem hi)
      rw [hemits, List.getElem?_take_of_lt hi, hlocation]
    · have hle : ir.size ≤ i := Nat.le_of_not_lt hi
      rw [List.getElem?_eq_none (hlength.symm ▸ hle), List.getElem?_eq_none]
      rw [List.length_take]
      exact Nat.le_trans (Nat.min_le_left _ _) hle

end Unedited

/-- The loop over the copies without edits, and the lenient end. -/
theorem rewrite_idle (hlines : ir.lineTable ≠ []) (hlocations : ir.size ≤ ir.locations.length)
    (hbound : ∀ k n, ir.node? k = some n → ∃ bound, (env k).bindCallee n = .ok bound) :
    ∃ b out, rewrite env (fun _ => .idle) ir = .ok (b, out) ∧ Rebuilt env ir out ∧
      b.renumbering = ir.vars.map fun v => (v, v) := by
  obtain ⟨start, hstart, hnone, hiter, hunedited⟩ := exists_opened env hlines
  obtain ⟨after, c, hrest, hafter, hend⟩ :=
    rewriteRest_unedited (s := ⟨{ start.builder with iterating := true }, [true]⟩) hlocations hbound
      hunedited (k := 0) rfl
  obtain ⟨log, hfinish⟩ := Builder.finish_lenient hafter.copying.canvas
  refine ⟨after.builder.finished c, _, ?_, hafter.rebuilt hend hlocations hbound,
    hafter.finalPlaces_eq hend⟩
  rw [hafter.copying.source] at hfinish
  simp [rewrite, hstart, hiter, hnone, hrest, finish, hfinish, bind, Except.bind, pure, Except.pure]

/-! ## One environment for all steps -/

theorem rewriteRest_of_fault {plan : Nat → StepPlan} {k : Nat} {failed : Session} {fault : Fault}
    (h : s.next (env (s.builder.cursor + 1)) k = (failed, .error fault)) :
    s.rewriteRest env plan k = (failed, .error fault) := by
  rw [rewriteRest]
  split <;> simp_all

/-- Following an iterator is the loop without edits. -/
theorem follow_eq_rewriteRest (env : Environment) {k steps : Nat} (h : s.remaining < steps) :
    ((s.follow env k steps).1, (s.follow env k steps).2.map fun _ => ()) =
      s.rewriteRest (fun _ => env) (fun _ => .idle) k := by
  induction steps generalizing s with
  | zero => exact absurd h (Nat.not_lt_zero _)
  | succ steps ih =>
    rw [follow]
    generalize hnext : s.next env k = outcome
    obtain ⟨after, result⟩ := outcome
    cases result with
    | error fault =>
      have hfault : s.rewriteRest (fun _ => env) (fun _ => .idle) k = (after, .error fault) :=
        rewriteRest_of_fault hnext
      rw [hfault]
      rfl
    | ok item =>
      cases item with
      | none =>
        have hend : s.rewriteRest (fun _ => env) (fun _ => .idle) k = (after, .ok ()) :=
          rewriteRest_of_end hnext
        rw [hend]
        rfl
      | some item =>
        have hless := remaining_of_next hnext
        have hstep : s.rewriteRest (fun _ => env) (fun _ => .idle) k =
            after.rewriteRest (fun _ => env) (fun _ => .idle) k := rewriteRest_of_step hnext rfl
        rw [hstep, ← ih (by omega)]
        cases hrest : (after.follow env k steps).2 <;> simp [hrest, Except.map]

/-- A rebuild is the loop without edits and the lenient end. -/
theorem rebuild_eq_rewrite (env : Environment) (ir : IR) :
    rebuild env ir false = (rewrite (fun _ => env) (fun _ => .idle) ir).map Prod.snd := by
  by_cases hlines : ir.lineTable = []
  · simp [rebuild, rewrite, ofIR, Builder.ofIR, hlines, bind, Except.bind, Except.map]
  · obtain ⟨start, hstart, hnone, hiter, -⟩ := exists_opened (fun _ => env) hlines
    have hfollow := follow_eq_rewriteRest env (k := 0)
      (s := ⟨{ start.builder with iterating := true }, [true]⟩)
      (Nat.lt_succ_self (start.builder.source.size - start.builder.cursor))
    generalize hcopied : follow env 0 _ _ = outcome at hfollow
    obtain ⟨after, copied⟩ := outcome
    cases copied with
    | error fault =>
      simp [rebuild, rewrite, hstart, hiter, hnone, drain, hcopied, ← hfollow, bind, Except.bind,
        Except.map]
    | ok items =>
      cases hresult : (after.finish false).2.2 <;>
        simp [rebuild, rewrite, hstart, hiter, hnone, drain, hcopied, ← hfollow, hresult, bind,
          Except.bind, Except.map, pure, Except.pure]

/-! ## The identity -/

/-- A rebuild without edits clamps references and binds callees, each when its statement
is visited, and does nothing else.  So it gives the source back if there is nothing to
clamp, to bind or to cut off, and a result without global callees is not changed by
another one.  Where all steps have one environment it is what `rebuild` does. -/
theorem rewrite_unedited (hlines : ir.lineTable ≠ []) (hlocations : ir.size ≤ ir.locations.length)
    (hbound : ∀ k n, ir.node? k = some n → ∃ bound, (env k).bindCallee n = .ok bound) :
    ∃ b out, rewrite env (fun _ => .idle) ir = .ok (b, out) ∧ Rebuilt env ir out ∧
      b.renumbering = (ir.vars.map fun v => (v, v)) ∧
      (∀ always, (∀ k, env k = always) → rebuild always ir false = .ok out) ∧
      ((∀ n ∈ ir.code, n.callsGlobal = false) →
        (∀ n ∈ ir.code, ∀ r ∈ n.references, ir.inRange r.id = true) →
        ir.locations.length = ir.size → out = ir) ∧
      ((∀ n ∈ out.code, n.callsGlobal = false) → ∀ env' : Nat → Environment,
        ∃ b', rewrite env' (fun _ => .idle) out = .ok (b', out)) := by
  obtain ⟨b, out, hrewrite, hrebuilt, hplaces⟩ := rewrite_idle hlines hlocations hbound
  refine ⟨b, out, hrewrite, hrebuilt, hplaces, ?_, ?_, ?_⟩
  · intro always hsame
    obtain rfl : env = fun _ => always := funext hsame
    rw [rebuild_eq_rewrite, hrewrite]
    rfl
  · intro hcalls hrange hlength
    refine hrebuilt.eq_of_fixed hcalls (fun n hn => ?_) hlength
    exact Node.mapIds_of_forall fun r hr => IR.clamp_of_inRange (hrange n hn r hr)
  · intro hcalls env'
    have hlength : out.locations.length = out.size := by
      rw [hrebuilt.locations, hrebuilt.size, List.length_take]
      exact Nat.min_eq_left hlocations
    have hlines' : out.lineTable ≠ [] := hrebuilt.lineTable ▸ hlines
    have hbound' : ∀ k n, out.node? k = some n → ∃ bound, (env' k).bindCallee n = .ok bound :=
      fun k n hk => ⟨n, Environment.bindCallee_of_callsGlobal_eq_false
        (hcalls n (IR.mem_code.2 ⟨k, hk⟩))⟩
    obtain ⟨b', again, hrewrite', hrebuilt', -⟩ :=
      rewrite_idle hlines' (Nat.le_of_eq hlength.symm) hbound'
    obtain rfl := hrebuilt'.eq_of_fixed hcalls hrebuilt.clamped hlength
    exact ⟨b', hrewrite'⟩

/-- A call of a global with a reference to no statement, a jump to none, and one location
too many. -/
def printing : IR where
  name := "printing"
  nargs := .int 1
  slots := ["a1"]
  lineTable := [⟨some "test.py", 1, some "printing"⟩]
  body :=
    [⟨.argument 1, .unknown⟩,
     ⟨.call (.node (.global ⟨.named "lib", "print"⟩)) [.variable ⟨1⟩, .variable ⟨9⟩], .unknown⟩,
     ⟨.branch ⟨7⟩ (.variable ⟨2⟩), .unknown⟩,
     ⟨.ret (.variable ⟨2⟩), .unknown⟩]
  locations := List.replicate 5 (.int 0)
  metadata := [("inferred", .bool false)]

/-- The global is bound at the call, and at no other time. -/
def boundAtCall : Nat → Environment
  | 2 => Environment.empty.bind ⟨.named "lib", "print"⟩ (.callable "print")
  | _ => .empty

theorem rewrite_unedited_printing :
    printing.lineTable ≠ [] ∧ printing.size ≤ printing.locations.length ∧
      (∀ k n, printing.node? k = some n → ∃ bound, (boundAtCall k).bindCallee n = .ok bound) ∧
      ∃ b out, rewrite boundAtCall (fun _ => .idle) printing = .ok (b, out) ∧
        Rebuilt boundAtCall printing out ∧
        out.node? 2 = some (.call (.callable "print") [.variable ⟨1⟩, .variable ⟨0⟩]) ∧
        ∀ env' : Nat → Environment, ∃ b', rewrite env' (fun _ => .idle) out = .ok (b', out) := by
  have hlines : printing.lineTable ≠ [] := List.cons_ne_nil _ _
  have hlocations : printing.size ≤ printing.locations.length := by decide
  have hbound : ∀ k n, printing.node? k = some n →
      ∃ bound, (boundAtCall k).bindCallee n = .ok bound := by
    intro k n hk
    have hall : ∀ entry ∈ printing.numbered,
        ((boundAtCall entry.1).bindCallee entry.2).isOk = true := by decide
    have hok := hall (k, n) (IR.mem_numbered.2 hk)
    cases hbind : (boundAtCall k).bindCallee n with
    | ok bound => exact ⟨bound, rfl⟩
    | error fault =>
      rw [hbind] at hok
      cases hok
  obtain ⟨b, out, hrewrite, hrebuilt, -, -, -, hagain⟩ := rewrite_unedited hlines hlocations hbound
  have hcode : out.code = [.argument 1, .call (.callable "print") [.variable ⟨1⟩, .variable ⟨0⟩],
      .branch ⟨0⟩ (.variable ⟨2⟩), .ret (.variable ⟨2⟩)] := hrebuilt.code_eq
  refine ⟨hlines, hlocations, hbound, b, out, hrewrite, hrebuilt, ?_, hagain ?_⟩
  · rw [← IR.getElem?_code, hcode]
    rfl
  · rw [hcode]
    decide

end Session
end SsaEdit
