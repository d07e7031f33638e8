/-
What is found in one file.

A file that cannot be read, a text that is refused at a line and a body each have
their findings.  A validation by itself reports defects of statements or of none, so
for a body whose argument count is a number every defect becomes a diagnostic.
-/
import SsaEdit.CommandLine.Run
import SsaEdit.Proofs.Listing.Reformat
import SsaEdit.Proofs.Validation.Exact

namespace SsaEdit

/-! ## Statements of defects -/

/-- The number of the statement of a defect. -/
def Defect.place? (d : Defect) : Option Nat :=
  match d.statement with
  | some (.variable v) => some v.id
  | _ => none

theorem Site.statement_cases (ir : IR) (site : Site) :
    site.statement ir = none ∨ ∃ v, site.statement ir = some (.variable v) := by
  cases site with
  | lineTable | locationCount => exact Or.inl rfl
  | reference i _ _ | argument i _ | phi i => exact Or.inr ⟨⟨i⟩, rfl⟩
  | location i value =>
    rw [Site.statement]
    split
    · exact Or.inr ⟨⟨i⟩, rfl⟩
    · exact Or.inl rfl
  | ending =>
    rw [Site.statement]
    split
    · exact Or.inl rfl
    · exact Or.inr ⟨⟨ir.size⟩, rfl⟩

theorem Reports.number_of_mem {ir : IR} {count : Int} {policy : ForwardPolicy} {sites : List Site}
    {defects : List Defect} (h : Reports ir count policy sites defects) {d : Defect}
    (hd : d ∈ defects) : d.number = .ok d.place? := by
  induction h with
  | nil => exact absurd hd List.not_mem_nil
  | holds _ _ ih => exact ih hd
  | @broken site sites first _ _ _ hstatement _ ih =>
    rcases List.mem_cons.1 hd with rfl | hd
    · rcases Site.statement_cases ir site with hnone | ⟨v, hv⟩
      · rw [Defect.number, Defect.place?, hstatement, hnone]
      · rw [Defect.number, Defect.place?, hstatement, hv]
    · exact ih hd

/-! ## One file -/

namespace CommandLine

variable {policy : ForwardPolicy} {file : String} {text : List Char}

/-- A defect as it is reported of a file. -/
def diagnosticOf (file : String) (d : Defect) : Diagnostic :=
  ⟨file, d.code, d.message, d.place?, none⟩

/-- The argument count of a body that was read is the number of its slots. -/
theorem nargs_of_read {home : Namespace} {ir : IR} (h : Listing.read home text = .ok ir) :
    ir.nargs.number? = some (.int ir.slots.length) := by
  have hnargs : ir.nargs = .int (ir.listed home).slots.length := (Listing.printable_listed h).nargs
  rw [hnargs, IR.listed, List.length_map]
  rfl

/-- In a text that is refused one finding is made, at the line of the refusal. -/
theorem examine_refused {line column : Nat} {cause : ListingFault}
    (h : bodyOf text = .error (.listing line column cause)) :
    examine policy file (.ok text) = .ok ([], [⟨file, "syntax-error",
      ((Fault.listing line column cause).message?).getD [], none, some line⟩]) := by
  rw [examine, h]

/-- In a body one finding is made for each defect, in order. -/
theorem examine_body {ir : IR} (h : bodyOf text = .ok ir) :
    examine policy file (.ok text) = .ok (Report.log ⟨defects ir policy defaultRules⟩ ir.name,
      (defects ir policy defaultRules).map (diagnosticOf file)) := by
  have hcount := nargs_of_read h
  have hnumber : ir.nargs.number? ≠ none := hcount.trans_ne (Option.some_ne_none _)
  have hfound : (defects ir policy defaultRules).mapM (defectDiagnostic file) =
      .ok ((defects ir policy defaultRules).map (diagnosticOf file)) := by
    refine mapM_eq_map fun d hd => ?_
    rw [defectDiagnostic, (reports_defects hcount).number_of_mem hd]
    rfl
  rw [examine, h]
  show (validate ir policy >>= _) = _
  rw [validate_eq hnumber]
  show (List.mapM (defectDiagnostic file) (defects ir policy defaultRules) >>= _) = _
  rw [hfound]
  rfl

/-! ## Several files -/

/-- The policy of a check, as it is asked for or by default. -/
def chosenPolicy (setting : Option String) (forwardRefs : Option ForwardPolicy) : ForwardPolicy :=
  forwardRefs.getD (defaultPolicy setting).1

/-- A check that comes to an end leaves the exit code of what is found. -/
theorem exists_check {files : List String} {contents : String → Contents} {setting : Option String}
    {forwardRefs : Option ForwardPolicy} {log : List LogRecord} {found : List Diagnostic}
    (h : examineAll (chosenPolicy setting forwardRefs)
      (files.map fun file => (plainPath file, contents (plainPath file))) = .ok (log, found))
    (verbose json : Bool) :
    ∃ outcome, Invocation.run ⟨verbose, .check files forwardRefs json⟩ setting contents =
      .ok outcome ∧ outcome.exitCode = exitCodeOf found := by
  have hrun : ∃ earlier, Invocation.run ⟨verbose, .check files forwardRefs json⟩ setting contents =
      runCheck verbose (chosenPolicy setting forwardRefs) earlier json
        (files.map fun file => (plainPath file, contents (plainPath file))) := by
    cases forwardRefs with
    | none => exact ⟨(defaultPolicy setting).2, rfl⟩
    | some policy => exact ⟨[], rfl⟩
  obtain ⟨earlier, hrun⟩ := hrun
  rw [hrun, runCheck, h]
  cases json with
  | false => exact ⟨_, rfl, rfl⟩
  | true => exact ⟨_, rfl, rfl⟩

theorem examineAll_singleton {contents : Contents} {log : List LogRecord} {found : List Diagnostic}
    (h : examine policy file contents = .ok (log, found)) :
    examineAll policy [(file, contents)] = .ok (log, found) := by
  rw [examineAll, h]
  show Except.ok (log ++ [], found ++ []) = _
  rw [List.append_nil, List.append_nil]

end CommandLine
end SsaEdit
