/-
Checking several files.

What is found in a file is said apart from the code that looks for it: one finding if the
file cannot be read or its text is refused, and else one for each defect of its body.  A
check of several files reports what is found in each, one file after the other, in both
forms of its output, and its exit code says whether that is nothing.
-/
import SsaEdit.Proofs.CommandLine.Lines
import SsaEdit.Proofs.CommandLine.Refused

namespace SsaEdit
namespace CommandLine

/-! ## What is found -/

/-- What is found in one file. -/
inductive Finds (policy : ForwardPolicy) (file : String) : Contents → List Diagnostic → Prop
  | unreadable (fault : ReadFault) :
    Finds policy file (.error fault) [⟨file, "io-error", fault.message, none, none⟩]
  | refused {text : List Char} {line column : Nat} {cause : ListingFault}
    (h : bodyOf text = .error (.listing line column cause)) :
    Finds policy file (.ok text) [⟨file, "syntax-error",
      Text.ofString (decimal line ++ ":" ++ decimal column ++ ": " ++ cause.message),
        none, some line⟩]
  | body {text : List Char} {ir : IR} {report : Report} (h : bodyOf text = .ok ir)
    (hreport : validate ir policy = .ok report) :
    Finds policy file (.ok text) (report.defects.map (diagnosticOf file))

/-- What is found in several files, one after the other. -/
inductive FindsAll (policy : ForwardPolicy) : List (String × Contents) → List Diagnostic → Prop
  | nil : FindsAll policy [] []
  | cons {file : String} {contents : Contents} {rest : List (String × Contents)}
    {first later : List Diagnostic} (h : Finds policy file contents first)
    (hrest : FindsAll policy rest later) :
    FindsAll policy ((file, contents) :: rest) (first ++ later)

/-- A file that cannot be read, or whose text reads as a body or is refused at a line. -/
inductive Settled : Contents → Prop
  | unreadable (fault : ReadFault) : Settled (.error fault)
  | accepted {text : List Char} {ir : IR} (h : bodyOf text = .ok ir) : Settled (.ok text)
  | refused {text : List Char} {line column : Nat} {cause : ListingFault}
    (h : bodyOf text = .error (.listing line column cause)) : Settled (.ok text)

/-- A file with a body that has no defect. -/
def Clean (policy : ForwardPolicy) (contents : Contents) : Prop :=
  ∃ text ir, contents = .ok text ∧ bodyOf text = .ok ir ∧ validate ir policy = .ok ⟨[]⟩

variable {policy : ForwardPolicy} {file : String} {contents : Contents}
  {found : List Diagnostic}

/-- A read body can be validated. -/
theorem validate_of_bodyOf {text : List Char} {ir : IR} (h : bodyOf text = .ok ir) :
    validate ir policy = .ok ⟨defects ir policy defaultRules⟩ := by
  have hcount := nargs_of_read h
  exact validate_eq (hcount.trans_ne (Option.some_ne_none _)) policy

theorem Finds.examine_eq (h : Finds policy file contents found) :
    ∃ log, examine policy file contents = .ok (log, found) := by
  cases h with
  | unreadable fault => exact ⟨[], rfl⟩
  | refused h => exact ⟨[], examine_refused h⟩
  | body h hreport =>
    rw [validate_of_bodyOf h] at hreport
    cases hreport
    exact ⟨_, examine_body h⟩

theorem exists_finds (policy : ForwardPolicy) (file : String) (h : Settled contents) :
    ∃ found, Finds policy file contents found := by
  cases h with
  | unreadable fault => exact ⟨_, .unreadable fault⟩
  | accepted h => exact ⟨_, .body h (validate_of_bodyOf h)⟩
  | refused h => exact ⟨_, .refused h⟩

theorem Finds.unique {other : List Diagnostic} (h : Finds policy file contents found)
    (hother : Finds policy file contents other) : found = other := by
  obtain ⟨log, hlog⟩ := h.examine_eq
  obtain ⟨otherLog, hotherLog⟩ := hother.examine_eq
  exact (Prod.mk.inj (Except.ok.inj (hlog.symm.trans hotherLog))).2

/-- Nothing is found in a file exactly if it is clean. -/
theorem Finds.eq_nil_iff (h : Finds policy file contents found) :
    found = [] ↔ Clean policy contents := by
  cases h with
  | unreadable fault =>
    refine iff_of_false (List.cons_ne_nil _ _) ?_
    rintro ⟨text, ir, hcontents, -⟩
    cases hcontents
  | refused h =>
    refine iff_of_false (List.cons_ne_nil _ _) ?_
    rintro ⟨text, ir, hcontents, hbody, -⟩
    cases hcontents
    cases h.symm.trans hbody
  | @body text ir report h hreport =>
    rw [List.map_eq_nil_iff]
    constructor
    · intro hnone
      exact ⟨text, ir, rfl, h, by rw [hreport, ← hnone]⟩
    · rintro ⟨other, found, hcontents, hbody, hvalid⟩
      cases hcontents
      obtain rfl := Except.ok.inj (h.symm.trans hbody)
      obtain rfl := Except.ok.inj (hreport.symm.trans hvalid)
      rfl

/-! ## Several files -/

section Files

variable {files before after : List (String × Contents)} {earlier later : List Diagnostic}

theorem exists_findsAll (policy : ForwardPolicy) (h : ∀ entry ∈ files, Settled entry.2) :
    ∃ found, FindsAll policy files found := by
  induction files with
  | nil => exact ⟨[], .nil⟩
  | cons entry rest ih =>
    obtain ⟨hentry, hrest⟩ := List.forall_mem_cons.1 h
    obtain ⟨first, hfirst⟩ := exists_finds policy entry.1 hentry
    obtain ⟨later, hlater⟩ := ih hrest
    exact ⟨first ++ later, .cons hfirst hlater⟩

theorem FindsAll.append (hbefore : FindsAll policy before earlier)
    (hafter : FindsAll policy after later) :
    FindsAll policy (before ++ after) (earlier ++ later) := by
  induction hbefore with
  | nil => exact hafter
  | cons hfirst _ ih =>
    rw [List.append_assoc]
    exact .cons hfirst ih

theorem FindsAll.examineAll_eq (h : FindsAll policy files found) :
    ∃ log, examineAll policy files = .ok (log, found) := by
  induction h with
  | nil => exact ⟨[], rfl⟩
  | cons hfirst _ ih =>
    obtain ⟨log, hlog⟩ := hfirst.examine_eq
    obtain ⟨laterLog, hlaterLog⟩ := ih
    exact ⟨log ++ laterLog, examineAll_cons hlog hlaterLog⟩

theorem FindsAll.unique {other : List Diagnostic} (h : FindsAll policy files found)
    (hother : FindsAll policy files other) : found = other := by
  obtain ⟨log, hlog⟩ := h.examineAll_eq
  obtain ⟨otherLog, hotherLog⟩ := hother.examineAll_eq
  exact (Prod.mk.inj (Except.ok.inj (hlog.symm.trans hotherLog))).2

theorem FindsAll.eq_nil_iff (h : FindsAll policy files found) :
    found = [] ↔ ∀ entry ∈ files, Clean policy entry.2 := by
  induction h with
  | nil => exact iff_of_true rfl (List.forall_mem_nil _)
  | cons hfirst _ ih => rw [List.append_eq_nil_iff, List.forall_mem_cons, hfirst.eq_nil_iff, ih]

end Files

/-! ## The lines of findings -/

/-- The text of a file is refused for something that cannot stand where it does. -/
def Unexpected (contents : Contents) : Prop :=
  ∃ text line column shown, contents = .ok text ∧
    bodyOf text = .error (.listing line column (.unexpected shown))

/-- The defects of a body that was read take a line each. -/
theorem isOneLine_of_read {home : Namespace} {text : List Char} {ir : IR}
    (h : Listing.read home text = .ok ir) : ∀ d ∈ defects ir policy defaultRules, d.IsOneLine := by
  have hprintable : Listing.Printable home (ir.listed home) := Listing.printable_listed h
  have hints : ∀ v ∈ ir.locations, ∃ n, v = .int n := by
    intro v hv
    have hlocation := hprintable.locations v hv
    cases v with
    | int n => exact ⟨n, rfl⟩
    | _ => cases hlocation
  exact isOneLine_of_mem_defects hints hprintable.nargs

/-- A finding takes one line, or two if it shows the line of something unexpected. -/
theorem Finds.lines (h : Finds policy file contents found) (hfile : OnLine file)
    (hreason : ∀ reason, contents = .error (.other reason) → OnLine reason) :
    ∀ d ∈ found, d.display.lineFeeds = 1 ∨ d.display.lineFeeds = 2 ∧ Unexpected contents := by
  cases h with
  | unreadable fault =>
    have hmessage : OnLine fault.message := by
      cases fault with
      | missing | isDirectory | notDirectory => decide
      | other reason => exact hreason reason rfl
    refine List.forall_mem_singleton.2 (Or.inl ?_)
    exact Diagnostic.lineFeeds_display hfile (by decide : OnLine "io-error")
      (Text.lineFeeds_ofString hmessage)
  | @refused text line column cause h =>
    have hplace : OnLine (decimal line ++ ":" ++ decimal column ++ ": ") :=
      .append (.append (.append (onLine_decimal _) (by decide)) (onLine_decimal _)) (by decide)
    have hmessage : (Text.ofString (decimal line ++ ":" ++ decimal column ++ ": " ++
        cause.message)).lineFeeds = (Text.ofString cause.message).lineFeeds := by
      rw [Text.lineFeeds_ofString_append, Text.lineFeeds_ofString hplace, Nat.zero_add]
    have hcode : OnLine "syntax-error" := by decide
    refine List.forall_mem_singleton.2 ?_
    generalize Text.ofString (decimal line ++ ":" ++ decimal column ++ ": " ++ cause.message) =
      wording at hmessage ⊢
    rcases Listing.lineFeeds_refusal h with hnone | ⟨hone, shown, rfl⟩
    · exact Or.inl (Diagnostic.lineFeeds_display hfile hcode (hmessage.trans hnone))
    · exact Or.inr ⟨Diagnostic.lineFeeds_display hfile hcode (hmessage.trans hone),
        text, line, column, shown, rfl, h⟩
  | @body text ir report h hreport =>
    intro d hd
    obtain ⟨defect, hdefect, rfl⟩ := List.mem_map.1 hd
    rw [validate_of_bodyOf h] at hreport
    cases hreport
    have hlines : defect.IsOneLine := isOneLine_of_read h defect hdefect
    exact Or.inl (Diagnostic.lineFeeds_display hfile hlines.code hlines.message)

/-! ## A check -/

/-- The files of a check under the paths they show. -/
def entriesOf (contents : String → Contents) (files : List String) : List (String × Contents) :=
  files.map fun file => (plainPath file, contents (plainPath file))

/-- What a check leaves in its two forms: an object with the exit code and all findings, or
an entry for each finding, in the same order, after the log that both forms have. -/
structure Reported (found : List Diagnostic) (plain json : Outcome) : Prop where
  exitCode : json.exitCode = plain.exitCode
  output : json.output = Text.ofChars ("\x7b\"exit_code\": ".toList ++
    Nat.toDigits 10 json.exitCode ++ ", \"diagnostics\": [".toList ++
      List.intercalate [',', ' '] (found.map Diagnostic.json) ++ "]\x7d\n".toList)
  silent : plain.output = []
  errors : plain.errors = json.errors ++ found.flatMap fun d =>
    Text.ofString (d.file ++ ":" ++ d.place ++ ": error: ") ++ d.message ++
      Text.ofString (" [" ++ d.code ++ "]\n")

theorem display_eq (d : Diagnostic) : d.display =
    Text.ofString (d.file ++ ":" ++ d.place ++ ": error: ") ++ d.message ++
      Text.ofString (" [" ++ d.code ++ "]\n") := by
  have hjoin : d.file ++ ":" ++ d.place ++ ": " ++ Diagnostic.severity ++ ": " =
      d.file ++ ":" ++ d.place ++ ": error: " := by
    rw [String.append_assoc, String.append_assoc]
    rfl
  rw [Diagnostic.display, hjoin]

/-- Both forms of a check that comes to an end. -/
theorem exists_outcomes {files : List String} {contents : String → Contents}
    {setting : Option String} {forwardRefs : Option ForwardPolicy} {log : List LogRecord}
    (h : examineAll (chosenPolicy setting forwardRefs) (entriesOf contents files) =
      .ok (log, found)) (verbose : Bool) :
    ∃ plain json,
      Invocation.run ⟨verbose, .check files forwardRefs false⟩ setting contents = .ok plain ∧
      Invocation.run ⟨verbose, .check files forwardRefs true⟩ setting contents = .ok json ∧
      plain.exitCode = exitCodeOf found ∧ Reported found plain json := by
  have hrun : ∃ early, ∀ json,
      Invocation.run ⟨verbose, .check files forwardRefs json⟩ setting contents =
        runCheck verbose (chosenPolicy setting forwardRefs) early json
          (entriesOf contents files) := by
    cases forwardRefs with
    | none => exact ⟨(defaultPolicy setting).2, fun _ => rfl⟩
    | some policy => exact ⟨[], fun _ => rfl⟩
  obtain ⟨early, hrun⟩ := hrun
  refine ⟨⟨exitCodeOf found, [],
      shownLog verbose (early ++ log) ++ found.flatMap Diagnostic.display⟩,
    ⟨exitCodeOf found, Text.ofChars (jsonReport found), shownLog verbose (early ++ log)⟩, ?_, ?_,
    rfl, ?_⟩
  · rw [hrun, runCheck, h]
    rfl
  · rw [hrun, runCheck, h]
    rfl
  · exact
      { exitCode := rfl
        output := rfl
        silent := rfl
        errors := congrArg (_ ++ found.flatMap ·) (funext display_eq) }

/-- What a check of some files comes to in its two forms. -/
structure Checks (policy : ForwardPolicy) (contents : String → Contents) (files : List String)
    (found : List Diagnostic) (plain json : Outcome) : Prop where
  /-- It finds what is found in each file, one file after the other. -/
  finds : FindsAll policy (entriesOf contents files) found
  /-- So what it finds in two lists is what it finds in the first and then in the second. -/
  concatenation : ∀ before after earlier later, files = before ++ after →
    FindsAll policy (entriesOf contents before) earlier →
    FindsAll policy (entriesOf contents after) later → found = earlier ++ later
  clean : plain.exitCode = 0 ↔ ∀ file ∈ files, Clean policy (contents (plainPath file))
  exitCode_le : plain.exitCode ≤ 1
  reported : Reported found plain json
  /-- An entry takes one line, or two if it shows the line of something unexpected, unless the
  name of the file or the reason for which it cannot be read takes more than one. -/
  lines : ∀ file ∈ files, OnLine (plainPath file) →
    (∀ reason, contents (plainPath file) = .error (.other reason) → OnLine reason) →
    ∀ part, Finds policy (plainPath file) (contents (plainPath file)) part →
      ∀ d ∈ part, d.display.lineFeeds = 1 ∨
        d.display.lineFeeds = 2 ∧ Unexpected (contents (plainPath file))

theorem checks_of_reported {contents : String → Contents} {files : List String}
    {plain json : Outcome} (hfound : FindsAll policy (entriesOf contents files) found)
    (hcode : plain.exitCode = exitCodeOf found) (hreported : Reported found plain json) :
    Checks policy contents files found plain json where
  finds := hfound
  concatenation := by
    rintro before after earlier later rfl hearlier hlater
    refine hfound.unique ?_
    rw [entriesOf, List.map_append]
    exact hearlier.append hlater
  clean := by
    have hclean : found = [] ↔ ∀ file ∈ files, Clean policy (contents (plainPath file)) := by
      rw [hfound.eq_nil_iff, entriesOf, List.forall_mem_map]
    rw [hcode, exitCodeOf, ← hclean]
    cases found <;> simp
  exitCode_le := by
    rw [hcode, exitCodeOf]
    split <;> decide
  reported := hreported
  lines := fun _ _ hfile hreason _ hpart => hpart.lines hfile hreason

/-- A check of files each of which cannot be read, is refused at a line or has a body comes to
an end in both forms.  It finds what is found in each file, exits with 0 if all are clean and
with 1 if not, and reports what it finds. -/
theorem check_several (verbose : Bool) (setting : Option String)
    (forwardRefs : Option ForwardPolicy) {contents : String → Contents} {files : List String}
    (hfiles : ∀ file ∈ files, Settled (contents (plainPath file))) :
    ∃ found plain json,
      Invocation.run ⟨verbose, .check files forwardRefs false⟩ setting contents = .ok plain ∧
      Invocation.run ⟨verbose, .check files forwardRefs true⟩ setting contents = .ok json ∧
      Checks (chosenPolicy setting forwardRefs) contents files found plain json := by
  have hentries : ∀ entry ∈ entriesOf contents files, Settled entry.2 := by
    intro entry hentry
    obtain ⟨file, hfile, rfl⟩ := List.mem_map.1 hentry
    exact hfiles file hfile
  obtain ⟨found, hfound⟩ := exists_findsAll (chosenPolicy setting forwardRefs) hentries
  obtain ⟨log, hlog⟩ := hfound.examineAll_eq
  obtain ⟨plain, json, hplain, hjson, hcode, hreported⟩ := exists_outcomes hlog verbose
  exact ⟨found, plain, json, hplain, hjson, checks_of_reported hfound hcode hreported⟩

/-- A listing with a bracket too many. -/
def openList : List Char := "ir broken( \x7b\n".toList

/-- A listing that returns a number. -/
def plainListing : List Char := "ir f() \x7b loc \"m.py\":1 %1 = return 5 \x7d".toList

/-- A file that is not there, one that is refused, and clean ones. -/
def fewFiles (path : String) : Contents :=
  if path = "gone" then .error .missing
  else if path = "broken" then .ok openList
  else .ok plainListing

theorem refused_openList :
    ∃ line column cause, bodyOf openList = .error (.listing line column cause) := by
  have hnone : (Listing.scan .start 0 0 (unifyLineEnds openList)).isOk = false := by
    decide +kernel
  cases hscan : Listing.scan .start 0 0 (unifyLineEnds openList) with
  | error offset => exact ⟨_, _, _, Listing.read_of_scan_error hscan⟩
  | ok tree =>
    rw [hscan] at hnone
    cases hnone

theorem clean_plainListing : Clean .phiReachable (.ok plainListing) := by
  have hnone : ((bodyOf plainListing).toOption.bind fun ir =>
      (validate ir .phiReachable).toOption.map fun report => report.defects.isEmpty) =
        some true := by
    decide +kernel
  cases hbody : bodyOf plainListing with
  | error fault =>
    rw [hbody] at hnone
    cases hnone
  | ok ir =>
    rw [hbody] at hnone
    cases hvalid : validate ir .phiReachable with
    | error fault =>
      rw [Except.toOption, Option.bind_some, hvalid] at hnone
      cases hnone
    | ok report =>
      rw [Except.toOption, Option.bind_some, hvalid] at hnone
      have hnil : report.defects = [] := List.isEmpty_iff.1 (Option.some.inj hnone)
      exact ⟨plainListing, ir, rfl, hbody, by rw [hvalid, ← hnil]⟩

theorem settled_fewFiles (path : String) : Settled (fewFiles path) := by
  rw [fewFiles]
  split
  · exact .unreadable _
  · split
    · obtain ⟨line, column, cause, hrefused⟩ := refused_openList
      exact .refused hrefused
    · obtain ⟨text, ir, hcontents, hbody, -⟩ := clean_plainListing
      exact hcontents ▸ .accepted hbody

theorem check_several_fewFiles :
    ∃ found plain json,
      found.map Diagnostic.code = ["io-error", "syntax-error"] ∧
      Invocation.run ⟨false, .check ["gone", "clean", "broken"] none false⟩ none fewFiles =
        .ok plain ∧
      Invocation.run ⟨false, .check ["gone", "clean", "broken"] none true⟩ none fewFiles =
        .ok json ∧
      plain.exitCode = 1 ∧
      Checks .phiReachable fewFiles ["gone", "clean", "broken"] found plain json := by
  obtain ⟨found, plain, json, hplain, hjson, hchecks⟩ :=
    check_several false none none
      (fun file (_ : file ∈ ["gone", "clean", "broken"]) => settled_fewFiles (plainPath file))
  obtain ⟨line, column, cause, hrefused⟩ := refused_openList
  obtain ⟨text, ir, htext, hbody, hvalid⟩ := clean_plainListing
  have hpath : ∀ name ∈ ["gone", "clean", "broken"], plainPath name = name := by decide +kernel
  have hgone : fewFiles (plainPath "gone") = .error .missing := by
    rw [hpath "gone" (by decide)]
    rfl
  have hthere : fewFiles (plainPath "clean") = .ok text := by
    rw [hpath "clean" (by decide), ← htext]
    rfl
  have hbroken : fewFiles (plainPath "broken") = .ok openList := by
    rw [hpath "broken" (by decide)]
    rfl
  have hcodes : found.map Diagnostic.code = ["io-error", "syntax-error"] := by
    have hfound := hchecks.finds
    simp only [entriesOf, List.map_cons, List.map_nil, hgone, hthere, hbroken] at hfound
    rw [hfound.unique (.cons (.unreadable _) (.cons (.body hbody hvalid)
      (.cons (.refused hrefused) .nil)))]
    rfl
  have hunclean : ¬Clean .phiReachable (fewFiles (plainPath "gone")) := by
    rw [hgone]
    rintro ⟨_, _, hcontents, -⟩
    cases hcontents
  have hnot : plain.exitCode ≠ 0 := fun hzero =>
    hunclean (hchecks.clean.1 hzero "gone" List.mem_cons_self)
  have hle := hchecks.exitCode_le
  exact ⟨found, plain, json, hcodes, hplain, hjson, by omega, hchecks⟩

/-- One finding of which the entry takes two lines. -/
theorem entry_takes_two_lines :
    ¬ ∀ (files : List String) (contents : String → Contents) (found : List Diagnostic)
      (plain : Outcome),
      (∀ file ∈ files, OnLine (plainPath file) ∧ Settled (contents (plainPath file))) →
      FindsAll .phiReachable (entriesOf contents files) found →
      Invocation.run ⟨false, .check files none false⟩ none contents = .ok plain →
        plain.errors.lineFeeds = found.length := by
  intro hall
  have hlines : ((Invocation.run ⟨false, .check ["a.ir"] none false⟩ none
      fun _ => .ok openList).toOption.map fun plain => plain.errors.lineFeeds) = some 2 := by
    decide +kernel
  obtain ⟨line, column, cause, hrefused⟩ := refused_openList
  have hone : FindsAll .phiReachable (entriesOf (fun _ => .ok openList) ["a.ir"]) _ :=
    .cons (.refused hrefused) .nil
  have hname : OnLine (plainPath "a.ir") := by decide +kernel
  cases hrun : Invocation.run ⟨false, .check ["a.ir"] none false⟩ none fun _ => .ok openList with
  | error fault =>
    rw [hrun] at hlines
    cases hlines
  | ok plain =>
    rw [hrun] at hlines
    have htwo : plain.errors.lineFeeds = 2 := Option.some.inj hlines
    have hsame := hall ["a.ir"] (fun _ => .ok openList) _ plain
      (List.forall_mem_singleton.2 ⟨hname, .refused hrefused⟩) hone hrun
    rw [htwo] at hsame
    cases hsame

end CommandLine
end SsaEdit
