/-
The loop over the copies gives the result of the one-shot rewrite.

Between two copies the canvas holds the pieces that the plan makes of the
statements copied so far, in their order, with every reference still under the id
of the source; `rewriteRest_pieces` carries this along the loop.  At the end every
id of the source is replaced by the place of its statement, which is what the
one-shot rewrite looks up.

A plan may only mention ids of the source and the number that names no statement:
a greater id could be one that the canvas hands out.
-/
import SsaEdit.Proofs.Canvas.Runs
import SsaEdit.Proofs.Session.References

namespace SsaEdit

/-! ## Bound callees -/

namespace Environment

/-- Whether the callee of a node, if it is a global, is bound, and not to a
variable. -/
def bindsCallee (env : Environment) : Node → Bool
  | .call (.node (.global g)) _ =>
    match env.lookup? g with
    | some (.variable _) => false
    | some _ => true
    | none => false
  | _ => true

theorem mapId_of_bindsCallee {env : Environment} {g : GlobalRef} {args : List Value}
    (h : env.bindsCallee (.call (.node (.global g)) args) = true) :
    ∃ callee, env.lookup? g = some callee ∧ ∀ f, callee.mapId f = callee := by
  unfold bindsCallee at h
  dsimp only at h
  split at h
  · exact absurd h Bool.false_ne_true
  · rename_i callee hnot hcallee
    refine ⟨callee, hcallee, fun f => ?_⟩
    unfold Value.mapId
    split
    · exact absurd rfl (hnot _)
    · rfl
  · exact absurd h Bool.false_ne_true

theorem bound_of_callsGlobal_eq_false {env : Environment} {n : Node} (h : n.callsGlobal = false) :
    env.bound n = n := by
  unfold bound
  split
  · exact absurd h (by simp [Node.callsGlobal])
  · rfl

/-- Rewriting references and binding the callee can change places. -/
theorem bindCallee_mapIds {env : Environment} {n : Node} (h : env.bindsCallee n = true)
    (f : Reference → Nat) : env.bindCallee (n.mapIds f) = .ok ((env.bound n).mapIds f) := by
  cases hc : n.callsGlobal with
  | false =>
    rw [bindCallee_of_callsGlobal_eq_false ((Node.callsGlobal_mapIds f n).trans hc),
      bound_of_callsGlobal_eq_false hc]
  | true =>
    obtain ⟨g, args, rfl⟩ := Node.callsGlobal_eq_true hc
    obtain ⟨callee, hcallee, hfixed⟩ := mapId_of_bindsCallee h
    show (env.resolve g).map (fun v => Node.call v (args.map (Value.mapId f))) =
      .ok (Node.call (((env.lookup? g).getD (.node (.global g))).mapId f) (args.map (Value.mapId f)))
    rw [resolve, hcallee, Option.getD_some, hfixed]
    rfl

end Environment

/-! ## Pieces with rewritten references -/

def Piece.mapIds (f : Reference → Nat) (p : Piece) : Piece :=
  { p with statement := { p.statement with node := p.statement.node.mapIds f } }

namespace StepPlan

/-- A plan whose own statements are left alone by a rewriting makes of a rewritten
copy the rewritten pieces. -/
theorem pieces_mapIds {p : StepPlan} {f : Reference → Nat}
    (h : ∀ s ∈ p.statements, s.node.mapIds f = s.node) (id : Nat) (copied : Statement)
    (location : Value) :
    p.pieces id { copied with node := copied.node.mapIds f } location =
      (p.pieces id copied location).map (Piece.mapIds f) := by
  have hbefore : p.before.map (Piece.fresh · location) =
      (p.before.map (Piece.fresh · location)).map (Piece.mapIds f) := by
    rw [List.map_map]
    apply List.map_congr_left
    intro s hs
    have hsame := h s (List.mem_append_left _ (List.mem_append_left _ hs))
    rw [Function.comp_apply, Piece.mapIds, Piece.fresh, hsame]
  have hafter : (p.after.map fun item => Piece.fresh item.1 item.2) =
      (p.after.map fun item => Piece.fresh item.1 item.2).map (Piece.mapIds f) := by
    rw [List.map_map]
    apply List.map_congr_left
    intro item hitem
    have hsame := h item.1 (List.mem_append_right _ (List.mem_map.2 ⟨item, hitem, rfl⟩))
    rw [Function.comp_apply, Piece.mapIds, Piece.fresh, hsame]
  have haction : (p.action.outcome { copied with node := copied.node.mapIds f }).toList.map
        (fun s => (⟨some id, s, location⟩ : Piece)) =
      ((p.action.outcome copied).toList.map fun s => (⟨some id, s, location⟩ : Piece)).map
        (Piece.mapIds f) := by
    cases haction : p.action with
    | keep => rfl
    | delete => rfl
    | replace s =>
      have hmem : s ∈ p.statements := by
        rw [statements, haction]
        exact List.mem_append_left _ (List.mem_append_right _ List.mem_cons_self)
      have hsame := h s hmem
      simp only [Action.outcome, Option.toList_some, List.map_cons, List.map_nil, Piece.mapIds,
        hsame]
  rw [pieces, pieces, List.map_append, List.map_append, ← hbefore, ← hafter, haction]

end StepPlan

namespace IR

theorem copiedId_of_le {ir : IR} {r : Reference} (h : r.id ≤ ir.size) : ir.copiedId r = r.id := by
  rw [copiedId]
  by_cases hrange : ir.inRange r.id = true
  · rw [if_pos hrange]
  · have hzero : r.id = 0 := by
      by_contra hpos
      exact hrange (inRange_iff.2 ⟨Nat.one_le_iff_ne_zero.2 hpos, h⟩)
    rw [if_neg hrange, hzero]
    rfl

end IR

/-- What makes a plan work on a body: the body has a line table and its locations,
every global that it calls is bound, and not to a variable, and the statements of
the plan mention only ids of the body and the number that names no statement. -/
structure IR.Admits (ir : IR) (env : Nat → Environment) (plan : Nat → StepPlan) : Prop where
  lines : ir.lineTable ≠ []
  locations : ir.locations.length = ir.size
  bound : ∀ id node, ir.node? id = some node → (env id).bindsCallee node = true
  within : ∀ id, ir.inRange id = true → ∀ s ∈ (plan id).statements, ∀ r ∈ s.node.references,
    r.id ≤ ir.size

/-! ## Places -/

namespace Canvas

/-- Among the pieces of a canvas a source id is found where the renumbering puts
it. -/
theorem Lawful.placeOf_piecesOf {c : Canvas} (h : c.Lawful) {n id : Nat} (hid : id ≤ n) :
    placeOf (piecesOf n c.entries) id = Renumbering.target c.newIds id := by
  have hat : ∀ i : Nat, ((piecesOf n c.entries).map Piece.origin)[i]? = some (some id) ↔
      c.liveIds[i]? = some id := by
    intro i
    rw [map_origin_piecesOf]
    show (c.liveIds.map _)[i]? = _ ↔ _
    rw [List.getElem?_map, Option.map_eq_some_iff]
    constructor
    · rintro ⟨k, hk, heq⟩
      by_cases hle : k ≤ n
      · rw [if_pos hle] at heq
        rw [hk, Option.some.inj heq]
      · rw [if_neg hle] at heq
        injection heq
    · exact fun hk => ⟨id, hk, if_pos hid⟩
  cases hfound : ((piecesOf n c.entries).map Piece.origin).idxOf? (some id) with
  | some i =>
    obtain ⟨hlt, hget, -⟩ := List.idxOf?_eq_some_iff.1 hfound
    have hlive := (hat i).1 (List.getElem?_eq_some_iff.2 ⟨hlt, hget⟩)
    rw [placeOf, hfound, Renumbering.target, h.lookup_newIds.2 ⟨i, rfl, hlive⟩]
    rfl
  | none =>
    have hdead : c.newIds.lookup id = none := by
      rw [Option.eq_none_iff_forall_ne_some]
      intro k hk
      obtain ⟨i, -, hi⟩ := h.lookup_newIds.1 hk
      exact List.idxOf?_eq_none_iff.1 hfound (List.mem_of_getElem? ((hat i).2 hi))
    rw [placeOf, hfound, Renumbering.target, hdead]
    rfl

/-- The ids after those of the source have no place among the pieces. -/
theorem placeOf_piecesOf_of_lt {n id : Nat} (hid : n < id) (c : Canvas) :
    placeOf (piecesOf n c.entries) id = danglingId := by
  have hnot : some id ∉ (piecesOf n c.entries).map Piece.origin := by
    rw [map_origin_piecesOf]
    intro hmem
    obtain ⟨k, -, heq⟩ := List.mem_map.1 hmem
    by_cases hle : k ≤ n
    · rw [if_pos hle] at heq
      have := Option.some.inj heq
      omega
    · rw [if_neg hle] at heq
      injection heq
  rw [placeOf, List.idxOf?_eq_none_iff.2 hnot]

end Canvas

theorem placeOf_map_mapIds (f : Reference → Nat) (pieces : List Piece) (id : Nat) :
    placeOf (pieces.map (Piece.mapIds f)) id = placeOf pieces id := by
  rw [placeOf, placeOf, List.map_map]
  rfl

namespace Session

variable {ir : IR} {env : Nat → Environment} {plan : Nat → StepPlan}
variable {overwritten : List Variable} {s : Session} {c : Canvas}

/-! ## Edits of a session -/

theorem isOrdinary_edits (p : StepPlan) (v : Variable) :
    ∀ e ∈ p.edits v, e.isOrdinary = true := by
  intro e he
  rw [StepPlan.edits, List.mem_append, List.mem_append] at he
  rcases he with (hbefore | haction) | hafter
  · obtain ⟨_, -, rfl⟩ := List.mem_map.1 hbefore
    rfl
  · cases haction' : p.action with
    | keep =>
      rw [haction'] at haction
      exact absurd haction List.not_mem_nil
    | replace _ =>
      rw [haction'] at haction
      rw [List.mem_singleton.1 haction]
      rfl
    | delete =>
      rw [haction'] at haction
      rw [List.mem_singleton.1 haction]
      rfl
  · obtain ⟨_, -, rfl⟩ := List.mem_map.1 hafter
    rfl

/-- Edits that succeed on the canvas succeed in the session. -/
theorem editAll_of_runs (h : Copying ir overwritten s.builder c) {edits : List Canvas.Edit}
    (ho : ∀ e ∈ edits, e.isOrdinary = true) {after : Canvas} (hruns : c.Runs edits after) :
    s.editAll edits = ({ s with builder := { s.builder with canvas := some after } }, .ok ()) ∧
      ∃ overwritten', Copying ir overwritten' { s.builder with canvas := some after } after := by
  induction hruns generalizing s overwritten with
  | nil c =>
    rw [← h.canvas]
    exact ⟨rfl, overwritten, h⟩
  | @cons c mid after e rest answer head tail ih =>
    have hedit := h.edit (ho e List.mem_cons_self)
    rw [head] at hedit
    have hhead : s.edit e =
        ({ s with builder := { s.builder with canvas := some mid } }, .ok answer) := by
      simp [edit, Builder.edit, Builder.liveCanvas, h.canvas, head]
    rw [editAll, hhead]
    exact ih (s := { s with builder := { s.builder with canvas := some mid } }) hedit
      fun e he => ho e (List.mem_cons_of_mem _ he)

/-! ## The loop -/

theorem rewriteRest_of_end {k : Nat} {ended : Session}
    (h : s.next (env (s.builder.cursor + 1)) k = (ended, .ok none)) :
    s.rewriteRest env plan k = (ended, .ok ()) := by
  rw [rewriteRest]
  split <;> simp_all

theorem rewriteRest_of_step {k : Nat} {copied edited : Session} {v : Variable} {st : Statement}
    (h : s.next (env (s.builder.cursor + 1)) k = (copied, .ok (some (v, st))))
    (hedits : copied.editAll ((plan v.id).edits v) = (edited, .ok ())) :
    s.rewriteRest env plan k = edited.rewriteRest env plan k := by
  rw [rewriteRest]
  split
  · rename_i hnext
    rw [h] at hnext
    injection hnext with hcopied hitem
    injection hitem with hitem
    injection hitem with hitem
    injection hitem with hv
    subst hcopied hv
    split
    · rename_i hedited
      rw [hedits] at hedited
      injection hedited with hedited
      rw [hedited]
    · rename_i hedited
      rw [hedits] at hedited
      injection hedited with _ hedited
      injection hedited
  · rename_i hnext
    rw [h] at hnext
    injection hnext with _ hitem
    injection hitem with hitem
    injection hitem
  · rename_i hnext
    rw [h] at hnext
    injection hnext with _ hitem
    injection hitem

theorem next_of_end (h : Copying ir overwritten s.builder c) {k : Nat} (hopen : s.isOpen k = true)
    (hend : s.builder.cursor = ir.size) (env : Environment) :
    s.next env k =
      (close { s with builder := { s.builder with phase := .exhausted } } k, .ok none) := by
  rw [next, if_pos hopen, h.step_of_end hend]

theorem next_of_step {k : Nat} (hopen : s.isOpen k = true) {env : Environment} {b : Builder}
    {item : Variable × Statement} (hstep : s.builder.step env = (b, .ok (some item))) :
    s.next env k = ({ s with builder := b }, .ok (some item)) := by
  rw [next, if_pos hopen, hstep]

/-- One round of the loop: the pieces of the next source statement come to those
that are there. -/
theorem round_pieces (hadmits : ir.Admits env plan) (h : Copying ir overwritten s.builder c)
    {k : Nat} (hopen : s.isOpen k = true) (hlt : s.builder.cursor < ir.size) :
    ∃ (after : Session) (overwritten' : List Variable) (c' : Canvas),
      s.rewriteRest env plan k = after.rewriteRest env plan k ∧
      Copying ir overwritten' after.builder c' ∧ after.isOpen k = true ∧
      after.builder.cursor = s.builder.cursor + 1 ∧
      Canvas.piecesOf ir.size c'.entries = Canvas.piecesOf ir.size c.entries ++
        (ir.piecesAt env plan (s.builder.cursor + 1)).map (Piece.mapIds ir.copiedId) := by
  have hs := List.getElem?_eq_getElem hlt
  generalize ir.body[s.builder.cursor] = st at hs
  obtain ⟨location, hlocation⟩ : ∃ location, ir.locations[s.builder.cursor]? = some location :=
    ⟨_, List.getElem?_eq_getElem (hadmits.locations.symm ▸ hlt)⟩
  have hstatement : ir.statement? (s.builder.cursor + 1) = some st := by
    rw [IR.statement?, if_neg (Nat.succ_ne_zero _)]
    exact hs
  have hbinds := hadmits.bound (s.builder.cursor + 1) st.node (by rw [IR.node?, hstatement]; rfl)
  have hnode := Environment.bindCallee_mapIds hbinds ir.copiedId
  obtain ⟨copied, hstep, hlawful, hentries, -, hreserved⟩ := h.step_of_bound hs hnode hlocation
  have hnext := next_of_step hopen hstep
  have hcopied := h.advanced hs hnode hlawful hentries hreserved
  have hsize : copied.reserved = ir.size := hcopied.reserved
  obtain ⟨after, hruns, hpieces⟩ :=
    hlawful.plan_runs hentries rfl (hsize ▸ hlt) (plan (s.builder.cursor + 1))
  obtain ⟨hedits, overwritten', hafter⟩ :=
    editAll_of_runs (s := { s with builder := s.builder.advanced copied }) hcopied
      (isOrdinary_edits _ _) hruns
  refine ⟨_, overwritten', after, rewriteRest_of_step hnext hedits, hafter, hopen, rfl, ?_⟩
  have hfixed : ∀ s' ∈ (plan (s.builder.cursor + 1)).statements,
      s'.node.mapIds ir.copiedId = s'.node := by
    intro s' hs'
    have hrange : ir.inRange (s.builder.cursor + 1) = true := by
      rw [IR.inRange_iff]
      omega
    exact Node.mapIds_of_forall fun r hr =>
      IR.copiedId_of_le (hadmits.within _ hrange s' hs' r hr)
  have hat : ir.piecesAt env plan (s.builder.cursor + 1) =
      (plan (s.builder.cursor + 1)).pieces (s.builder.cursor + 1)
        ⟨(env (s.builder.cursor + 1)).bound st.node, st.type⟩ location := by
    rw [IR.piecesAt, hstatement, Nat.add_sub_cancel, hlocation]
  rw [hsize] at hpieces
  rw [hpieces, hat, ← StepPlan.pieces_mapIds hfixed]

/-- The loop ends at the end of the source, with the pieces of the whole plan. -/
theorem rewriteRest_pieces (hadmits : ir.Admits env plan)
    (h : Copying ir overwritten s.builder c) {k : Nat} (hopen : s.isOpen k = true)
    (hpieces : Canvas.piecesOf ir.size c.entries =
      ((List.range' 1 s.builder.cursor).flatMap (ir.piecesAt env plan)).map
        (Piece.mapIds ir.copiedId)) :
    ∃ after overwritten' c', s.rewriteRest env plan k = (after, .ok ()) ∧
      Copying ir overwritten' after.builder c' ∧
      Canvas.piecesOf ir.size c'.entries =
        (ir.pieces env plan).map (Piece.mapIds ir.copiedId) := by
  generalize hleft : ir.size - s.builder.cursor = left
  induction left generalizing s overwritten c with
  | zero =>
    have hend : s.builder.cursor = ir.size := by
      have := h.cursor_le
      omega
    refine ⟨_, overwritten, c, rewriteRest_of_end (next_of_end h hopen hend _), ?_, ?_⟩
    · exact close_copying (s := { s with builder := { s.builder with phase := .exhausted } })
        (h.congr rfl rfl rfl rfl) k
    · rw [hpieces, hend]
      rfl
  | succ left ih =>
    have hlt : s.builder.cursor < ir.size := by omega
    obtain ⟨next, overwritten', c', hround, hnext, hopen', hcursor, hpieces'⟩ :=
      round_pieces hadmits h hopen hlt
    rw [hround]
    refine ih hnext hopen' ?_ (by omega)
    rw [hpieces', hpieces, hcursor, List.range'_1_concat, List.flatMap_append, List.map_append,
      Nat.add_comm 1]
    simp

/-! ## The result -/

/-- Copying a reference and renumbering it leads to the place of what it means. -/
theorem Copying.target_copiedId_eq_placeOf {b : Builder} (h : Copying ir overwritten b c)
    {pieces : List Piece}
    (hpieces : Canvas.piecesOf ir.size c.entries = pieces.map (Piece.mapIds ir.copiedId))
    (r : Reference) : Renumbering.target c.newIds (ir.copiedId r) = placeOf pieces r.id := by
  rw [← placeOf_map_mapIds ir.copiedId pieces, ← hpieces]
  by_cases hle : r.id ≤ ir.size
  · rw [IR.copiedId_of_le hle, h.lawful.placeOf_piecesOf hle]
  · have hrange : ¬ ir.inRange r.id = true := fun hrange => hle (IR.inRange_iff.1 hrange).2
    rw [Canvas.placeOf_piecesOf_of_lt (Nat.lt_of_not_le hle), IR.copiedId, if_neg hrange,
      h.target_danglingId]

/-- The body that is emitted from pieces. -/
theorem Copying.emit_eq {b : Builder} (h : Copying ir overwritten b c)
    (hpieces : Canvas.piecesOf ir.size c.entries =
      (ir.pieces env plan).map (Piece.mapIds ir.copiedId)) :
    Builder.emit ir c.renumbered = ir.oneShot env plan := by
  have hbody : c.renumbered.statements = (ir.oneShot env plan).body := by
    have hview : c.renumbered.statements = (Canvas.piecesOf ir.size c.entries).map fun p =>
        (p.mapIds fun r => Renumbering.target c.newIds r.id).statement := by
      rw [Canvas.statements_renumbered, Canvas.piecesOf, List.map_map]
      rfl
    rw [hview, hpieces, List.map_map]
    apply List.map_congr_left
    intro p _
    have hnode : (p.statement.node.mapIds ir.copiedId).mapIds
          (fun r => Renumbering.target c.newIds r.id) =
        p.statement.node.mapIds fun r => placeOf (ir.pieces env plan) r.id := by
      rw [Node.mapIds_mapIds]
      apply Node.mapIds_congr
      intro r _
      rw [Reference.id_withId, h.target_copiedId_eq_placeOf hpieces]
    rw [← hnode]
    rfl
  have hlocations : c.renumbered.locations = (ir.oneShot env plan).locations := by
    have hview : c.renumbered.locations =
        (Canvas.piecesOf ir.size c.entries).map Piece.location := by
      rw [Canvas.locations_renumbered, Canvas.piecesOf, List.map_map]
      rfl
    rw [hview, hpieces, List.map_map]
    rfl
  rw [Builder.emit, hbody, hlocations]
  rfl

/-- The number that the builder's renumbering gives to a source statement is its
place in the one-shot rewrite. -/
theorem Copying.finalId_eq_placeOf {b : Builder} (h : Copying ir overwritten b c)
    {pieces : List Piece}
    (hpieces : Canvas.piecesOf ir.size c.entries = pieces.map (Piece.mapIds ir.copiedId))
    (id : Nat) : (b.finished c).finalId id = placeOf pieces id := by
  have htarget := h.target_copiedId_eq_placeOf hpieces (.value ⟨id⟩)
  rw [h.target_copiedId] at htarget
  exact htarget

/-- Carrying a plan out in the loop over the copies and finishing leniently never
fails.  The body is that of the one-shot rewrite, and the renumbering of the builder
gives every source statement its place there. -/
theorem rewrite_eq_oneShot (hadmits : ir.Admits env plan) :
    ∃ b, rewrite env plan ir = .ok (b, ir.oneShot env plan) ∧
      ∀ id, b.finalId id = placeOf (ir.pieces env plan) id := by
  obtain ⟨start, hstart, hnone, hcursor, hidle⟩ := exists_ofIR hadmits.lines
  have hcopying := copying_of_ofIR hstart
  have hiter : start.iter = .ok ⟨{ start.builder with iterating := true }, [true]⟩ := by
    rw [iter_eq hcopying.canvas, hidle, hnone]
    rfl
  have hpieces : Canvas.piecesOf ir.size (Canvas.empty ir.size).entries =
      ((List.range' 1 start.builder.cursor).flatMap (ir.piecesAt env plan)).map
        (Piece.mapIds ir.copiedId) := by
    rw [hcursor]
    rfl
  obtain ⟨after, overwritten, c, hrest, hafter, hall⟩ :=
    rewriteRest_pieces (s := ⟨{ start.builder with iterating := true }, [true]⟩) hadmits
      (hcopying.congr rfl rfl rfl rfl) (k := 0) rfl hpieces
  obtain ⟨log, hfinish⟩ := Builder.finish_lenient hafter.canvas
  refine ⟨after.builder.finished c, ?_, hafter.finalId_eq_placeOf hall⟩
  rw [hafter.source, hafter.emit_eq hall] at hfinish
  simp [rewrite, hstart, hiter, hnone, hrest, finish, hfinish, bind, Except.bind, pure, Except.pure]

/-- A plan for the counting loop: an unused statement and a second end around the
phi, another comparison, and a use of the sum in the place of it. -/
def samplePlan : Nat → StepPlan
  | 2 => ⟨[⟨.const .null, .unknown⟩], .keep, [(⟨.ret (.variable ⟨5⟩), .unknown⟩, .int 7)]⟩
  | 3 => ⟨[], .replace ⟨.call (.callable "le") [.variable ⟨2⟩, .variable ⟨1⟩], .unknown⟩, []⟩
  | 5 => ⟨[⟨.ret (.variable ⟨5⟩), .unknown⟩], .delete, []⟩
  | _ => ⟨[], .keep, []⟩

theorem countingLoop_admits : Samples.countingLoop.Admits (fun _ => .empty) samplePlan where
  lines := List.cons_ne_nil _ _
  locations := by decide
  bound := by
    intro id node hnode
    have hall : ∀ n ∈ Samples.countingLoop.code, Environment.empty.bindsCallee n = true := by
      decide
    exact hall node (IR.mem_code.2 ⟨id, hnode⟩)
  within := by
    intro id hrange
    have hall : ∀ id ∈ List.range' 1 7, ∀ s ∈ (samplePlan id).statements,
        ∀ r ∈ s.node.references, r.id ≤ 7 := by decide
    rw [IR.inRange_iff] at hrange
    exact hall id (List.mem_range'_1.2 ⟨hrange.1, Nat.lt_add_one_of_le hrange.2⟩)

/-- The comparison of the counting loop moves behind what is put before the phi and
at the end, and the sum is gone. -/
theorem rewrite_countingLoop :
    ∃ b, rewrite (fun _ => .empty) samplePlan Samples.countingLoop =
        .ok (b, Samples.countingLoop.oneShot (fun _ => .empty) samplePlan) ∧
      b.finalId 3 = 5 ∧ b.finalId 5 = 0 := by
  obtain ⟨b, hrewrite, hplaces⟩ := rewrite_eq_oneShot countingLoop_admits
  refine ⟨b, hrewrite, (hplaces 3).trans ?_, (hplaces 5).trans ?_⟩
  · decide
  · decide

end Session
end SsaEdit
