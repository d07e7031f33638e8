/-
Checking a file and its normal form.

What a listing changes about a body, a validation does not read: the names of globals
and functions, texts and types.  So a body that was read and what its listing reads as
are alike, and the same is found in both.  The listing holds no carriage return, so it
comes back from a file as it was written.
-/
import SsaEdit.Proofs.CommandLine.Examined
import SsaEdit.Proofs.Listing.Plain
import SsaEdit.Proofs.Validation.Alike

namespace SsaEdit

/-! ## What a listing keeps -/

section Listed

variable (home : Namespace)

theorem operandReferences_listed (v : Value) :
    (v.listed home).operandReferences = v.operandReferences := by
  cases v with
  | node n =>
    cases n with
    | «global» g =>
      rw [Value.listed]
      split <;> rfl
    | _ => rfl
  | _ => rfl

theorem argument?_listed (v : Value) : (v.listed home).argument? = v.argument? := by
  cases v with
  | node n =>
    cases n with
    | «global» g =>
      rw [Value.listed]
      split <;> rfl
    | _ => rfl
  | _ => rfl

theorem filterMap_argument?_listed (values : List Value) :
    (values.map (Value.listed home)).filterMap Value.argument? =
      values.filterMap Value.argument? := by
  rw [List.filterMap_map]
  exact List.filterMap_congr fun v _ => argument?_listed home v

/-- A global alone is no reference, and what it reads as is none either. -/
theorem alike_listed_global (g : GlobalRef) :
    ((Node.global g).listed home).Alike (.global g) := by
  rw [Node.listed, Value.listed]
  split
  · exact ⟨rfl, rfl, rfl, rfl, rfl⟩
  · exact ⟨rfl, rfl, rfl, rfl, rfl⟩

theorem Node.alike_listed (n : Node) : (n.listed home).Alike n := by
  cases n with
  | call callee args =>
    refine ⟨?_, filterMap_argument?_listed home (callee :: args), rfl, rfl, rfl⟩
    simp only [Node.listed, Node.references, operandReferences_listed, List.flatMap_map]
  | branch target cond =>
    refine ⟨?_, ?_, rfl, rfl, Listing.isNull_listed home cond⟩
    · simp only [Node.listed, Node.references, operandReferences_listed]
    · simp only [Node.listed, Node.arguments, Node.operands, Listing.isNull_listed]
      split
      · rfl
      · exact filterMap_argument?_listed home [cond]
  | ret value =>
    refine ⟨?_, filterMap_argument?_listed home [value], rfl, rfl, rfl⟩
    simp only [Node.listed, Node.references, operandReferences_listed]
  | phi incoming =>
    refine ⟨?_, ?_, rfl, rfl, rfl⟩
    · simp only [Node.listed, Node.references, operandReferences_listed, List.flatMap_map]
    · have hvalues := filterMap_argument?_listed home (incoming.map (·.2))
      rw [List.map_map] at hvalues
      simp only [Node.listed, Node.arguments, Node.operands, List.map_map]
      exact hvalues
  | const value => exact ⟨rfl, rfl, rfl, rfl, rfl⟩
  | «global» g => exact alike_listed_global home g
  | argument index => exact ⟨rfl, rfl, rfl, rfl, rfl⟩

/-- A validation cannot tell a body from what its listing stands for. -/
theorem IR.alike_listed (ir : IR) : (ir.listed home).Alike ir where
  nargs := rfl
  locations := rfl
  lines := List.length_map _
  code := by
    have hcode : (ir.listed home).code = ir.code.map (Node.listed home) := by
      simp only [IR.code, IR.listed, List.map_map]
      rfl
    rw [hcode, List.forall₂_map_left_iff, List.forall₂_same]
    exact fun n _ => n.alike_listed home

end Listed

namespace CommandLine

variable {text : List Char}

/-! ## Files -/

theorem unifyLineEnds_eq_self (h : '\r' ∉ text) : unifyLineEnds text = text := by
  induction text with
  | nil => rfl
  | cons c rest ih =>
    rw [List.mem_cons, not_or] at h
    have hc : c ≠ '\r' := fun hc => h.1 hc.symm
    rw [unifyLineEnds, if_neg hc, ih h.2]
    intro _ hreturn
    exact absurd hreturn hc

/-- What is read from a file that holds the listing of a body that was read. -/
theorem bodyOf_print {home : Namespace} {ir : IR} (h : Listing.read home text = .ok ir) :
    bodyOf (Listing.print ir) = .ok (ir.listed fileNamespace) := by
  have hplain : '\r' ∉ Listing.print ir := by
    rw [← Listing.print_listed fileNamespace ir]
    exact Listing.return_not_mem_print (Listing.printable_listed h)
  rw [bodyOf, unifyLineEnds_eq_self hplain]
  exact Listing.read_print_listed h fileNamespace

/-- What is left of a file that was put into its normal form. -/
theorem of_fmt {verbose : Bool} {file : String} {setting : Option String}
    {contents : String → Contents} {formatted : Outcome}
    (h : Invocation.run ⟨verbose, .fmt file⟩ setting contents = .ok formatted)
    (hdone : formatted.exitCode = 0) :
    ∃ text ir, contents (plainPath file) = .ok text ∧ bodyOf text = .ok ir ∧
      formatted.output = Text.ofChars (Listing.print ir) := by
  have hrun : runFmt (plainPath file) (contents (plainPath file)) = .ok formatted := h
  have hfailed : ∀ output errors, Outcome.mk 1 output errors ≠ formatted := by
    rintro output errors rfl
    exact absurd hdone Nat.one_ne_zero
  unfold runFmt at hrun
  dsimp only at hrun
  split at hrun
  case h_1 => exact absurd (Except.ok.inj hrun) (hfailed _ _)
  case h_2 text htext =>
    split at hrun
    case h_1 => exact absurd (Except.ok.inj hrun) (hfailed _ _)
    case h_2 => cases hrun
    case h_3 ir hbody =>
      refine ⟨text, ir, htext, hbody, ?_⟩
      rw [← Except.ok.inj hrun]

/-- The exit code of a check of one file that holds a body. -/
theorem exists_check_body {file : String} {contents : String → Contents} {ir : IR}
    (htext : contents (plainPath file) = .ok text) (hbody : bodyOf text = .ok ir)
    (verbose json : Bool) (setting : Option String) (forwardRefs : Option ForwardPolicy) :
    ∃ outcome, Invocation.run ⟨verbose, .check [file] forwardRefs json⟩ setting contents =
        .ok outcome ∧
      outcome.exitCode = exitCodeOf
        ((defects ir (chosenPolicy setting forwardRefs) defaultRules).map
          (diagnosticOf (plainPath file))) := by
  have hexamine := @examine_body (chosenPolicy setting forwardRefs) (plainPath file) text ir hbody
  rw [← htext] at hexamine
  exact exists_check (examineAll_singleton hexamine) verbose json

theorem exitCodeOf_congr {a b : List Diagnostic} (h : a.length = b.length) :
    exitCodeOf a = exitCodeOf b := by
  have hempty : a.isEmpty = b.isEmpty := by
    rw [Bool.eq_iff_iff, List.isEmpty_iff_length_eq_zero, List.isEmpty_iff_length_eq_zero, h]
  rw [exitCodeOf, exitCodeOf, hempty]

theorem ofChars_injective {a b : List Char} (h : Text.ofChars a = Text.ofChars b) : a = b :=
  Option.some.inj (Listing.plainChars?_ofChars a ▸ h ▸ Listing.plainChars?_ofChars b)

/-! ## The normal form -/

/-- In a body that was read and in what its listing reads as the same is found. -/
theorem findings_listed {home : Namespace} {ir : IR} (h : Listing.read home text = .ok ir)
    (again : Namespace) (policy : ForwardPolicy) :
    (defects (ir.listed again) policy defaultRules).map Defect.finding =
      (defects ir policy defaultRules).map Defect.finding :=
  findings_eq (ir.alike_listed again) (nargs_of_read (Listing.read_print_listed h again)) policy

/-- Formatting changes nothing that a check reports: under every policy a body and what
its listing reads as have reports with the same findings, and so a check of a file and
one of its normal form have the same exit code. -/
theorem findings_survive_fmt :
    (∀ (home again : Namespace) (text : List Char) (ir : IR), Listing.read home text = .ok ir →
      ∃ back, Listing.read again (Listing.print ir) = .ok back ∧
        ∀ policy, ∃ report later, validate ir policy = .ok report ∧
          validate back policy = .ok later ∧ later.findings = report.findings) ∧
    ∀ (contents : String → Contents) (setting : Option String) (file copy : String)
      (loud : Bool) (formatted : Outcome) (printed : List Char),
      Invocation.run ⟨loud, .fmt file⟩ setting contents = .ok formatted →
      formatted.exitCode = 0 → contents (plainPath copy) = .ok printed →
      Text.ofChars printed = formatted.output →
      ∀ (verbose json : Bool) (forwardRefs : Option ForwardPolicy), ∃ before after,
        Invocation.run ⟨verbose, .check [file] forwardRefs json⟩ setting contents = .ok before ∧
        Invocation.run ⟨verbose, .check [copy] forwardRefs json⟩ setting contents = .ok after ∧
        after.exitCode = before.exitCode := by
  constructor
  · intro home again text ir h
    have hback := Listing.read_print_listed h again
    refine ⟨ir.listed again, hback, fun policy => ?_⟩
    have hnumber : ir.nargs.number? ≠ none := (nargs_of_read h).trans_ne (Option.some_ne_none _)
    have hlisted : (ir.listed again).nargs.number? ≠ none := hnumber
    exact ⟨_, _, validate_eq hnumber policy, validate_eq hlisted policy,
      findings_listed h again policy⟩
  · intro contents setting file copy loud formatted printed hfmt hdone hcopy houtput verbose json
      forwardRefs
    obtain ⟨text, ir, htext, hbody, hprinted⟩ := of_fmt hfmt hdone
    obtain rfl : printed = Listing.print ir := ofChars_injective (houtput.trans hprinted)
    obtain ⟨before, hbefore, hcode⟩ :=
      exists_check_body htext hbody verbose json setting forwardRefs
    obtain ⟨after, hafter, hlater⟩ :=
      exists_check_body hcopy (bodyOf_print hbody) verbose json setting forwardRefs
    refine ⟨before, after, hbefore, hafter, ?_⟩
    rw [hcode, hlater]
    have hlength := congrArg List.length
      (findings_listed hbody fileNamespace (chosenPolicy setting forwardRefs))
    rw [List.length_map, List.length_map] at hlength
    refine exitCodeOf_congr ?_
    rw [List.length_map, List.length_map, hlength]

/-- Two files, one with odd spellings and the other with their normal form. -/
def oddFiles (path : String) : Contents :=
  .ok (if path = "odd" then Listing.oddSpellings else Listing.normalSpellings)

theorem findings_survive_fmt_oddSpellings :
    ∃ formatted, Invocation.run ⟨false, .fmt "odd"⟩ none oddFiles = .ok formatted ∧
      formatted.exitCode = 0 ∧ formatted.output = Text.ofChars Listing.normalSpellings ∧
      ∃ before after,
        Invocation.run ⟨false, .check ["odd"] none false⟩ none oddFiles = .ok before ∧
        Invocation.run ⟨false, .check ["normal"] none false⟩ none oddFiles = .ok after ∧
        after.exitCode = before.exitCode := by
  have hlisting : (bodyOf Listing.oddSpellings).toOption.map Listing.print =
      some Listing.normalSpellings := by decide +kernel
  have hodd : plainPath "odd" = "odd" := by decide +kernel
  have hnormal : plainPath "normal" = "normal" := by decide +kernel
  cases hbody : bodyOf Listing.oddSpellings with
  | error fault =>
    rw [hbody] at hlisting
    cases hlisting
  | ok ir =>
    rw [hbody] at hlisting
    have hprint : Listing.print ir = Listing.normalSpellings := Option.some.inj hlisting
    have hfmt : Invocation.run ⟨false, .fmt "odd"⟩ none oddFiles =
        .ok ⟨0, Text.ofChars (Listing.print ir), []⟩ := by
      show runFmt (plainPath "odd") (oddFiles (plainPath "odd")) = _
      rw [hodd]
      show runFmt "odd" (.ok Listing.oddSpellings) = _
      rw [runFmt, hbody]
    refine ⟨_, hfmt, rfl, congrArg Text.ofChars hprint, ?_⟩
    refine findings_survive_fmt.2 oddFiles none "odd" "normal" false _ Listing.normalSpellings hfmt
      rfl ?_ (congrArg Text.ofChars hprint.symm) false false none
    rw [hnormal]
    rfl

end CommandLine
end SsaEdit
