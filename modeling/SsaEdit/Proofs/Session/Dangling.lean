/-
What becomes of dangling references.

A renumbering records the references that lost their statement in the order in which a
rewriting meets them; a validation finds them field by field.  Statement for statement
both go through the same occurrences, so on the emitted body the validation reports
what the renumbering has recorded, each record once.
-/
import SsaEdit.Proofs.Session.Finish
import SsaEdit.Proofs.Session.Reachable
import SsaEdit.Proofs.Session.References
import SsaEdit.Proofs.Validation.Dangling

namespace SsaEdit

/-- The defect that a record of a renumbering stands for, at the new id of the statement
that has the reference. -/
def Dangling.defect (mapping : List (Nat × Nat)) (d : Dangling) : Option Value × String :=
  ((mapping.lookup d.user.id).map fun k => .variable ⟨k⟩, d.ref.danglingCode)

def Renumbering.danglingDefects (r : Renumbering) : List (Option Value × String) :=
  r.dangling.map (Dangling.defect r.mapping)

namespace Canvas

variable {c : Canvas}

/-- A reference of a live statement is to no statement of the emitted body exactly when
it has no new number. -/
theorem missing_emit (h : c.Lawful) (source : IR) (n : Node) :
    (Builder.emit source c.renumbered).missing
        (n.mapIds fun r => Renumbering.target c.newIds r.id) =
      (n.references.filter fun r => (c.newIds.lookup r.id).isNone).map fun r =>
        r.withId (Renumbering.target c.newIds r.id) := by
  rw [IR.missing, Node.references_mapIds, List.filter_map]
  congr 1
  apply List.filter_congr
  intro r _
  rw [Function.comp_apply, Reference.id_withId, inRange_target h, Option.not_isSome]

/-- One statement: what is reported at its new id is what was recorded for it. -/
theorem perm_danglingIn (h : c.Lawful) (source : IR) {id : Nat} {slot : Slot}
    (hmem : (id, slot) ∈ c.liveEntries) :
    ((Builder.emit source c.renumbered).danglingAt (Renumbering.target c.newIds id)
        (slot.statement.node.mapIds fun r => Renumbering.target c.newIds r.id)).Perm
      ((Renumbering.danglingIn c.newIds id slot.statement.node).map
        (Dangling.defect c.newIds)) := by
  obtain ⟨k, hk⟩ := h.exists_newId (h.contains_of_mem_liveEntries hmem)
  have htarget : Renumbering.target c.newIds id = k := by
    rw [Renumbering.target, hk]
    rfl
  have hrecord (r : Reference) :
      Dangling.defect c.newIds ⟨⟨id⟩, r⟩ = (some (.variable ⟨k⟩), r.danglingCode) := by
    rw [Dangling.defect, hk]
    rfl
  rw [IR.danglingAt, missing_emit h, Renumbering.danglingIn, List.map_map, List.map_map, htarget]
  simp only [Function.comp_def, Reference.danglingCode_withId, hrecord]
  exact ((Node.rewriteOrder_perm _).symm.filter _).map _

/-- The whole body: the defects about references to no statement are the records of the
renumbering. -/
theorem danglingDefects_emit (h : c.Lawful) (source : IR) {count : Int} {policy : ForwardPolicy}
    {report : Report}
    (hreport : Reports (Builder.emit source c.renumbered) count policy
      (Builder.emit source c.renumbered).sites report.defects) :
    report.danglingDefects.Perm c.renumbering.danglingDefects := by
  rw [hreport.danglingDefects_eq, numbered_emit h, List.flatMap_map, Renumbering.danglingDefects,
    renumbering, List.map_flatMap]
  exact List.Perm.flatMap_left _ fun entry hentry => perm_danglingIn h source hentry

/-- Statements and locations are emitted together. -/
theorem length_locations_emit (source : IR) (c : Canvas) :
    (Builder.emit source c.renumbered).locations.length =
      (Builder.emit source c.renumbered).size := by
  show c.renumbered.locations.length = _
  rw [locations_renumbered, List.length_map, size_emit, liveIds, List.length_map]

end Canvas

namespace Builder

/-- The warnings of an end are about the records of the renumbering. -/
theorem warnings_finishLog (b : Builder) (c : Canvas) :
    (b.finishLog c).filter (fun record => record.level = .warning) =
      c.renumbering.dangling.map (danglingWarning b.source.name) := by
  have hwarnings : ∀ record ∈ c.renumbering.dangling.map (danglingWarning b.source.name),
      decide (record.level = .warning) = true := by
    intro record hrecord
    obtain ⟨d, -, rfl⟩ := List.mem_map.1 hrecord
    rfl
  rw [finishLog, List.filter_append, List.filter_append, List.filter_eq_self.2 hwarnings]
  exact List.append_nil _

end Builder

namespace Session

variable {ir : IR} {s : Session} {c : Canvas} {count : Int}

/-- A validation of the body that the canvas stands for. -/
theorem Reachable.exists_report (h : Reachable ir s) (hc : s.builder.canvas = some c)
    (hcount : ir.nargs.number? = some (.int count)) (policy : ForwardPolicy) :
    ∃ report, validate (Builder.emit s.builder.source c.renumbered) policy = .ok report ∧
      report.danglingDefects.Perm c.renumbering.danglingDefects ∧
      ∀ d ∈ report.defects,
        d.code ≠ "empty-location-table" ∧ d.code ≠ "location-length-mismatch" := by
  have hnargs : (Builder.emit s.builder.source c.renumbered).nargs.number? = some (.int count) := by
    show s.builder.source.nargs.number? = _
    rw [h.intact.source, hcount]
  have hlined : (Builder.emit s.builder.source c.renumbered).lineTable ≠ [] := by
    show s.builder.source.lineTable ≠ []
    rw [h.intact.source]
    exact h.intact.lined
  have hreports : Reports _ count policy _ _ := reports_defects hnargs
  exact ⟨_, validate_eq (hnargs.trans_ne (Option.some_ne_none _)) policy,
    Canvas.danglingDefects_emit (h.intact.lawful c hc) _ hreports,
    hreports.code_of_located hlined (Canvas.length_locations_emit _ c)⟩

/-- In any state of a session that is not finished, with a source whose argument count
is an integer, the lenient end logs one warning for each reference that its renumbering
records as dangling, in order.  Under every policy a validation of the result reports
these references and no other as dangling, each at the new id of its statement, and
finds nothing wrong with the line table and the number of the locations. -/
theorem finish_accounts_for_dangling (h : Reachable ir s) (hc : s.builder.canvas = some c)
    (hcount : ir.nargs.number? = some (.int count)) :
    ∃ renumbered outcome after log out, c.renumber false = .ok (renumbered, outcome) ∧
      s.finish false = (after, log, .ok out) ∧
      log.filter (fun record => record.level = .warning) =
        outcome.dangling.map (Builder.danglingWarning ir.name) ∧
      ∀ policy, ∃ report, validate out policy = .ok report ∧
        report.danglingDefects.Perm outcome.danglingDefects ∧
        ∀ d ∈ report.defects,
          d.code ≠ "empty-location-table" ∧ d.code ≠ "location-length-mismatch" := by
  refine ⟨c.renumbered, c.renumbering, _, _, _, rfl, by rw [finish, Builder.finish_false hc], ?_,
    h.exists_report hc hcount⟩
  rw [Builder.warnings_finishLog, h.intact.source]

/-- Three statements of the counting loop were copied and the first was deleted.  The phi
and the comparison mention it, and the phi also what was not copied. -/
theorem exists_dangling_sampleCalls :
    ∃ s c, Reachable Samples.countingLoop s ∧ s.builder.canvas = some c ∧
      c.renumbering.danglingDefects.map Prod.snd =
        ["dangling-label", "dangling-label", "dangling-reference", "dangling-reference"] := by
  obtain ⟨start, hstart⟩ : ∃ start, ofIR Samples.countingLoop = .ok start := ⟨_, ofIR_countingLoop⟩
  have hsame := Except.ok.inj (hstart.symm.trans ofIR_countingLoop)
  have hcanvas : ((start.run sampleCalls).builder.canvas.map fun c =>
      c.renumbering.danglingDefects.map Prod.snd) =
      some ["dangling-label", "dangling-label", "dangling-reference", "dangling-reference"] := by
    subst hsame
    decide +kernel
  obtain ⟨c, hc, hcodes⟩ := Option.map_eq_some_iff.1 hcanvas
  exact ⟨_, c, ⟨start, sampleCalls, hstart, rfl⟩, hc, hcodes⟩

theorem finish_accounts_for_dangling_countingLoop :
    ∃ s, Reachable Samples.countingLoop s ∧
      ∃ after log out report, s.finish false = (after, log, .ok out) ∧ validate out = .ok report ∧
        (report.danglingDefects.map Prod.snd).Perm
          ["dangling-label", "dangling-label", "dangling-reference", "dangling-reference"] := by
  obtain ⟨s, c, hreachable, hc, hcodes⟩ := exists_dangling_sampleCalls
  obtain ⟨renumbered, outcome, after, log, out, hrenumber, hfinish, -, hreports⟩ :=
    @finish_accounts_for_dangling _ _ _ 1 hreachable hc rfl
  obtain ⟨report, hreport, hperm, -⟩ := hreports .phiReachable
  have houtcome : c.renumbering = outcome := congrArg Prod.snd (Except.ok.inj hrenumber)
  refine ⟨s, hreachable, after, log, out, report, hfinish, hreport, ?_⟩
  rw [← hcodes, houtcome]
  exact hperm.map Prod.snd

end Session
end SsaEdit
