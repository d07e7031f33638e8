/-
Straight-line edits keep the defects of references.

A source statement that is kept has the same defects in the result, as far as they
are about its references and arguments, when none of its references is to a
statement that was deleted.  New ids are in the order of the old ones, so whether a
value is used before it is computed does not change; and whether it can be reached
does not change by `StraightLine.reaches_iff`.
-/
import SsaEdit.Proofs.Session.Populated
import SsaEdit.Proofs.Session.StraightLine
import SsaEdit.Proofs.Validation.AtStatement

namespace SsaEdit

namespace Node

/-- Outside of a bound callee a copy has the references of its source. -/
theorem Carries.references_eq {f : Reference → Nat} {source copy : Node}
    (h : source.Carries f copy)
    (hcallee : source.callsGlobal = true → ∀ callee args, copy = .call callee args →
      callee.operandReferences = []) :
    copy.references = source.references.map fun r => r.withId (f r) := by
  cases hc : source.callsGlobal with
  | false => rw [(carries_of_callsGlobal_eq_false hc).1 h, references_mapIds]
  | true =>
    obtain ⟨g, args, rfl⟩ := callsGlobal_eq_true hc
    obtain ⟨callee, rfl⟩ := h
    have hargs := references_mapIds f (.call .null args)
    rw [references, hcallee hc callee _ rfl]
    exact hargs

theorem operands_mapIds (f : Reference → Nat) (n : Node) :
    (n.mapIds f).operands = n.operands.map (Value.mapId f) := by
  cases n with
  | branch target cond =>
    simp only [mapIds, operands, Value.isNull_mapId]
    cases cond.isNull <;> rfl
  | phi incoming => simp only [mapIds, operands, List.map_map, Function.comp_def]
  | call _ _ | ret _ | const _ | global _ | argument _ => rfl

theorem arguments_mapIds (f : Reference → Nat) (n : Node) :
    (n.mapIds f).arguments = n.arguments := by
  have hoperands : (n.mapIds f).operands.filterMap Value.argument? =
      n.operands.filterMap Value.argument? := by
    rw [operands_mapIds, List.filterMap_map]
    exact List.filterMap_congr fun v _ => v.argument?_mapId f
  cases n with
  | argument _ => rfl
  | call _ _ | branch _ _ | ret _ | phi _ | const _ | global _ => exact hoperands

theorem Carries.arguments_eq {f : Reference → Nat} {source copy : Node} (h : source.Carries f copy)
    (hcallee : source.callsGlobal = true → ∀ callee args, copy = .call callee args →
      callee.argument? = none) : copy.arguments = source.arguments := by
  cases hc : source.callsGlobal with
  | false => rw [(carries_of_callsGlobal_eq_false hc).1 h, arguments_mapIds]
  | true =>
    obtain ⟨g, args, rfl⟩ := callsGlobal_eq_true hc
    obtain ⟨callee, rfl⟩ := h
    have hargs := arguments_mapIds f (.call .null args)
    have hnone : callee.argument? = none := hcallee hc callee _ rfl
    simp only [arguments, operands, List.filterMap_cons, hnone]
    exact hargs

theorem isPhi_mapIds (f : Reference → Nat) (n : Node) : (n.mapIds f).isPhi = n.isPhi := by
  cases n <;> rfl

theorem Carries.isPhi_eq {f : Reference → Nat} {source copy : Node} (h : source.Carries f copy) :
    copy.isPhi = source.isPhi := by
  cases hc : source.callsGlobal with
  | false => rw [(carries_of_callsGlobal_eq_false hc).1 h, isPhi_mapIds]
  | true =>
    obtain ⟨_, _, rfl⟩ := callsGlobal_eq_true hc
    obtain ⟨_, rfl⟩ := h
    rfl

end Node

namespace Session

variable {ir : IR} {overwritten : List Variable} {b : Builder} {c : Canvas}

namespace Copying

/-- New ids of source statements are in the order of the source. -/
theorem newId_lt_iff (h : Copying ir overwritten b c) {i j k l : Nat} (hi : i ≤ ir.size)
    (hj : j ≤ ir.size) (hk : c.newIds.lookup i = some k) (hl : c.newIds.lookup j = some l) :
    k < l ↔ i < j := by
  have hsorted : c.liveIds.Pairwise fun a b => a ≤ ir.size → b ≤ ir.size → a < b := by
    refine List.Pairwise.sublist c.liveIds_sublist ?_
    have hfiltered : ((c.entries.map Prod.fst).filter (· ≤ ir.size)).Pairwise (· < ·) :=
      h.placed ▸ List.pairwise_lt_range'
    rw [List.pairwise_filter] at hfiltered
    exact hfiltered.imp fun hab ha hb => hab (decide_eq_true ha) (decide_eq_true hb)
  have hmono : ∀ {x y a b : Nat}, c.liveIds[x]? = some a → c.liveIds[y]? = some b → a ≤ ir.size →
      b ≤ ir.size → x < y → a < b := by
    intro x y a b ha hb hale hble hxy
    obtain ⟨hx, rfl⟩ := List.getElem?_eq_some_iff.1 ha
    obtain ⟨hy, rfl⟩ := List.getElem?_eq_some_iff.1 hb
    exact List.pairwise_iff_getElem.1 hsorted x y hx hy hxy hale hble
  obtain ⟨x, rfl, hx⟩ := h.lawful.lookup_newIds.1 hk
  obtain ⟨y, rfl, hy⟩ := h.lawful.lookup_newIds.1 hl
  constructor
  · intro hlt
    exact hmono hx hy hi hj (by omega)
  · intro hlt
    by_contra hge
    rcases Nat.lt_or_eq_of_le (Nat.le_of_not_lt hge) with hyx | heq
    · have := hmono hy hx hj hi (by omega)
      omega
    · have hxy : x = y := by omega
      subst hxy
      have := Option.some.inj (hx.symm.trans hy)
      omega

/-- The strict end returns nothing but what the lenient end does. -/
theorem of_strict_finish {s after : Session} {log : List LogRecord} {out : IR}
    (h : Copying ir overwritten s.builder c) (hfinish : s.finish true = (after, log, .ok out)) :
    after = { s with builder := s.builder.finished c } ∧ out = Builder.emit ir c.renumbered := by
  rw [finish] at hfinish
  injection hfinish with hafter hrest
  injection hrest with _ hout
  have hok : s.builder.finish true =
      ⟨(s.builder.finish true).builder, (s.builder.finish true).log, .ok out⟩ := by
    rw [← hout]
  obtain ⟨hbuilder, hbody⟩ := Builder.of_finish_true h.canvas hok
  rw [h.source] at hbody
  exact ⟨by rw [← hafter, hbuilder], hbody⟩

end Copying

namespace StraightLine

/-- A callee that was a global has no references in the result and is no argument
there. -/
theorem callee_renumbered (hline : StraightLine ir overwritten b c) {id : Nat} {slot : Slot}
    {n : Node} (hmem : (id, slot) ∈ c.liveEntries) (hn : ir.node? id = some n)
    (hcalls : n.callsGlobal = true) {callee : Value} {args : List Value}
    (hcall : (slot.renumbered c.newIds).statement.node = .call callee args) :
    callee.operandReferences = [] ∧ callee.argument? = none := by
  have hcall : slot.statement.node.mapIds (fun r => Renumbering.target c.newIds r.id) =
      .call callee args := hcall
  generalize hnode : slot.statement.node = node at hcall
  cases node with
  | call callee' args' =>
    injection hcall with hcallee _
    obtain ⟨hplain, hnone⟩ := hline.callees id slot n hmem hn hcalls callee' args' hnode
    rw [← hcallee, Value.operandReferences_mapId, Value.argument?_mapId, hplain]
    exact ⟨rfl, hnone⟩
  | branch _ _ | ret _ | phi _ | const _ | global _ | argument _ => injection hcall

/-- A kept source statement was moved. -/
theorem exists_moved (hline : StraightLine ir overwritten b c) (h : Copying ir overwritten b c)
    {id : Nat} {n : Node} (hkeeps : b.keeps id = true) (hn : ir.node? id = some n)
    (hrefs : ∀ r ∈ n.references, ir.inRange r.id = true → b.keeps r.id = true) :
    ∃ m, (Builder.emit ir c.renumbered).node? ((b.finished c).finalId id) = some m ∧
      Moved ir (Builder.emit ir c.renumbered) (fun r => (b.finished c).finalId r.id) id
        ((b.finished c).finalId id) n m := by
  have hlive := (h.keeps_iff.1 hkeeps).2
  obtain ⟨hle, k, hk, hfinal⟩ := h.exists_finalId hkeeps
  obtain ⟨slot, hmem⟩ := h.lawful.exists_liveEntry hlive
  obtain ⟨source, hsource, hcopy⟩ := h.exists_renumbered_copy hmem hle (hline.kept id hle hlive)
  obtain rfl : source = n := Option.some.inj (hsource.symm.trans hn)
  refine ⟨(slot.renumbered c.newIds).statement.node, ?_, ?_⟩
  · rw [hfinal, IR.node?, Canvas.statement?_emit h.lawful hmem hk]
    rfl
  · rw [hfinal]
    refine ⟨hcopy.references_eq fun hc _ _ hcall => (hline.callee_renumbered hmem hn hc hcall).1,
      hcopy.arguments_eq fun hc _ _ hcall => (hline.callee_renumbered hmem hn hc hcall).2,
      hcopy.isPhi_eq, ?_, ?_, ?_⟩
    · intro r hr
      cases hrange : ir.inRange r.id with
      | true =>
        obtain ⟨-, l, hl, hrfinal⟩ := h.exists_finalId (hrefs r hr hrange)
        rw [hrfinal]
        exact Canvas.inRange_emit h.lawful ir hl
      | false =>
        rw [← h.target_copiedId, IR.copiedId, if_neg (Bool.eq_false_iff.1 hrange),
          h.target_danglingId]
        rfl
    · intro r hr hrange
      obtain ⟨hrle, l, hl, hrfinal⟩ := h.exists_finalId (hrefs r hr hrange)
      rw [hrfinal]
      exact h.newId_lt_iff hrle hle hl hk
    · intro r hr hrange
      obtain ⟨hrle, l, hl, hrfinal⟩ := h.exists_finalId (hrefs r hr hrange)
      rw [hrfinal]
      exact (hline.reaches_iff h hle hrle hk hl).symm

end StraightLine

/-- What a session keeps of its source in the body of its lenient end. -/
structure Preserves (ir : IR) (s after : Session) (out : IR) : Prop where
  /-- The strict end returns no other body. -/
  strict : ∀ after' log' out', s.finish true = (after', log', .ok out') →
    after' = after ∧ out' = out
  /-- Control flows between the source statements that are left as it did before. -/
  reaches : ∀ i j, s.builder.keeps i = true → s.builder.keeps j = true →
    (ir.Reaches i j ↔ out.Reaches (after.builder.finalId i) (after.builder.finalId j))
  /-- A statement that is left and mentions no deleted one has the same defects of references
  and arguments, in the same order. -/
  codes : ir.nargs.number? ≠ none → ∀ policy id n, s.builder.keeps id = true →
    ir.node? id = some n →
    (∀ r ∈ n.references, ir.inRange r.id = true → s.builder.keeps r.id = true) →
    ∃ report report', validate ir policy = .ok report ∧ validate out policy = .ok report' ∧
      report'.referenceCodesAt (after.builder.finalId id) = report.referenceCodesAt id

theorem StraightLine.preserves {s : Session} (hline : StraightLine ir overwritten s.builder c)
    (h : Copying ir overwritten s.builder c) :
    Preserves ir s { s with builder := s.builder.finished c } (Builder.emit ir c.renumbered) where
  strict := fun _ _ _ hstrict => h.of_strict_finish hstrict
  reaches := by
    intro i j hi hj
    obtain ⟨hile, k, hk, hfinali⟩ := h.exists_finalId hi
    obtain ⟨hjle, l, hl, hfinalj⟩ := h.exists_finalId hj
    rw [hfinali, hfinalj]
    exact hline.reaches_iff h hile hjle hk hl
  codes := by
    intro hnargs policy id n hkeeps hn hrefs
    obtain ⟨m, hm, hmoved⟩ := hline.exists_moved h hkeeps hn hrefs
    obtain ⟨report, hreport⟩ := exists_report hnargs policy
    obtain ⟨report', hreport'⟩ :=
      exists_report (show (Builder.emit ir c.renumbered).nargs.number? ≠ none from hnargs) policy
    refine ⟨report, report', hreport, hreport', ?_⟩
    rw [referenceCodesAt_eq hreport hn]
    exact (referenceCodesAt_eq hreport' hm).trans (hmoved.codes_nodeDefects rfl policy)

/-- Straight-line edits, in any calls in any order, keep the flow of control between
the source statements that are left, and keep the defects of references and arguments
of those that mention no deleted statement.  Ends that are refused may be among the calls;
without any end the session still has its canvas.  This is about the body of the lenient
end, and the strict end returns no other. -/
theorem straightLine_preserves {ir : IR} (hlines : ir.lineTable ≠ []) :
    ∃ start, ofIR ir = .ok start ∧ ∀ calls : List Call, (∀ call ∈ calls, call.isOwn = true) →
      ((∀ call ∈ calls, call.isOrdinary = true) →
        ∃ c, (start.run calls).builder.canvas = some c) ∧
      ∀ c, (start.run calls).builder.canvas = some c →
        StraightLine ir (start.overwritten calls) (start.run calls).builder c →
          ∃ after log out, (start.run calls).finish false = (after, log, .ok out) ∧
            Preserves ir (start.run calls) after out := by
  obtain ⟨start, hstart, -⟩ := exists_ofIR hlines
  refine ⟨start, hstart, fun calls ho => ⟨fun hordinary => ?_, fun c hc hline => ?_⟩⟩
  · obtain ⟨c, h⟩ := run_copying (copying_of_ofIR hstart) hordinary
    exact ⟨c, h.canvas⟩
  · rcases run_populated hstart ho with hgone | ⟨same, h, -⟩
    · cases hgone.symm.trans hc
    · obtain rfl : same = c := Option.some.inj (h.canvas.symm.trans hc)
      obtain ⟨log, hfinish⟩ := Builder.finish_lenient h.canvas
      rw [h.source] at hfinish
      exact ⟨_, log, _, by rw [finish, hfinish], hline.preserves h⟩

/-- All steps of the counting loop, with a strict end after the third that is refused, then
a statement before the sum and one at the end, and the comparison deleted. -/
def straightCalls : List Call :=
  .iter :: List.replicate 3 (.next .empty 0) ++ .finish true ::
    List.replicate 4 (.next .empty 0) ++
      [.edit (.insertBefore (.variable ⟨5⟩) (.node (.const .null)) none),
        .edit (.append (.node (.const .null)) none), .edit (.delete (.variable ⟨3⟩))]

/-- What `StraightLine` asks of the entries of the counting loop's canvas. -/
def countingLoopIsStraight (c : Canvas) : Bool :=
  (c.liveEntries.all fun entry =>
    decide (entry.1 ≤ 7) || entry.2.statement.node.isStraight) &&
  ((List.range' 1 7).all fun id =>
    c.contains ⟨id⟩ || (Samples.countingLoop.node? id).all Node.isStraight) &&
  Samples.countingLoop.code.all fun n => n.target?.all fun target => c.contains ⟨target.id⟩

theorem straightLine_countingLoop {start : Session} (hstart : ofIR Samples.countingLoop = .ok start)
    {c : Canvas} (hc : (start.run straightCalls).builder.canvas = some c) :
    StraightLine Samples.countingLoop (start.overwritten straightCalls)
      (start.run straightCalls).builder c := by
  have hsame := Except.ok.inj (hstart.symm.trans ofIR_countingLoop)
  have hnone : start.overwritten straightCalls = [] := by
    subst hsame
    rfl
  have hcopied : (start.run straightCalls).builder.cursor = 7 := by
    subst hsame
    rfl
  have hall : (start.run straightCalls).builder.canvas.all countingLoopIsStraight = true := by
    subst hsame
    decide +kernel
  rw [hc, Option.all_some, countingLoopIsStraight, Bool.and_eq_true, Bool.and_eq_true] at hall
  obtain ⟨⟨hinserted, hdeleted⟩, htargets⟩ := hall
  have hmem : ∀ {id n}, Samples.countingLoop.node? id = some n → n ∈ Samples.countingLoop.code :=
    fun hn => IR.mem_code.2 ⟨_, hn⟩
  refine ⟨hcopied, ?_, ?_, ?_, ?_, ?_⟩
  · rw [hnone]
    exact fun _ _ _ => List.not_mem_nil
  · intro id slot hentry hlt
    have hentry := List.all_eq_true.1 hinserted _ hentry
    rw [Bool.or_eq_true, decide_eq_true_eq] at hentry
    exact hentry.resolve_left (Nat.not_le.2 hlt)
  · intro id n hn hdead
    have hid := List.all_eq_true.1 hdeleted id (IR.mem_ids.2 (IR.inRange_of_node? hn))
    rw [hdead, hn, Bool.false_or] at hid
    exact hid
  · intro k target cond hn _
    exact List.all_eq_true.1 htargets _ (hmem hn)
  · intro id slot n _ hn hcalls
    have hplain : ∀ n ∈ Samples.countingLoop.code, n.callsGlobal = false := by decide
    exact absurd ((hplain n (hmem hn)).symm.trans hcalls) Bool.false_ne_true

/-- The phi of the counting loop still is where the loop comes back to, and has the
defects of before. -/
theorem straightLine_preserves_countingLoop :
    ∃ start, ofIR Samples.countingLoop = .ok start ∧
      ∃ after log out, (start.run straightCalls).finish false = (after, log, .ok out) ∧
        (Samples.countingLoop.Reaches 6 2 ↔
          out.Reaches (after.builder.finalId 6) (after.builder.finalId 2)) ∧
        ∃ report report', validate Samples.countingLoop = .ok report ∧
          validate out = .ok report' ∧
          report'.referenceCodesAt (after.builder.finalId 2) = report.referenceCodesAt 2 := by
  have hlines : Samples.countingLoop.lineTable ≠ [] := List.cons_ne_nil _ _
  obtain ⟨start, hstart, hrun⟩ := straightLine_preserves hlines
  have ho : ∀ call ∈ straightCalls, call.isOwn = true := by decide
  have hsame := Except.ok.inj (hstart.symm.trans ofIR_countingLoop)
  obtain ⟨c, hc⟩ : ∃ c, (start.run straightCalls).builder.canvas = some c := by
    subst hsame
    exact ⟨_, rfl⟩
  obtain ⟨-, hpreserves⟩ := hrun straightCalls ho
  obtain ⟨after, log, out, hfinish, hkept⟩ := hpreserves c hc (straightLine_countingLoop hstart hc)
  have hkeeps : [1, 2, 5, 6].all (start.run straightCalls).builder.keeps = true := by
    subst hsame
    decide +kernel
  have hkeeps := List.all_eq_true.1 hkeeps
  have hnargs : Samples.countingLoop.nargs.number? ≠ none := Option.some_ne_none _
  refine ⟨start, hstart, after, log, out, hfinish, hkept.reaches 6 2 (hkeeps 6 (by decide))
    (hkeeps 2 (by decide)), hkept.codes hnargs _ 2 _ (hkeeps 2 (by decide)) rfl ?_⟩
  intro r hr _
  have hids : ∀ r ∈ (Node.phi [(⟨1⟩, .int 0), (⟨6⟩, .variable ⟨5⟩)]).references,
      r.id ∈ [1, 2, 5, 6] := by decide
  exact hkeeps r.id (hids r hr)

end Session
end SsaEdit
