/-
Checking files that are no listings.

A refused text is a finding at a line, and the files before and after it are checked
all the same.  But the faults of single literals and numbers are no refusals: a text
that leaves one stops the whole check, and nothing is reported of any file.
-/
import SsaEdit.Proofs.CommandLine.Examined
import SsaEdit.Proofs.Listing.Requirements

namespace SsaEdit
namespace CommandLine

variable {policy : ForwardPolicy} {file : String} {text : List Char}

/-! ## One file after the other -/

theorem examineAll_cons {contents : Contents} {rest : List (String × Contents)}
    {log laterLog : List LogRecord} {found laterFound : List Diagnostic}
    (h : examine policy file contents = .ok (log, found))
    (hrest : examineAll policy rest = .ok (laterLog, laterFound)) :
    examineAll policy ((file, contents) :: rest) = .ok (log ++ laterLog, found ++ laterFound) := by
  rw [examineAll, h]
  show (examineAll policy rest >>= _) = _
  rw [hrest]
  rfl

theorem examineAll_append {before after : List (String × Contents)}
    {log laterLog : List LogRecord} {found laterFound : List Diagnostic}
    (hbefore : examineAll policy before = .ok (log, found))
    (hafter : examineAll policy after = .ok (laterLog, laterFound)) :
    examineAll policy (before ++ after) = .ok (log ++ laterLog, found ++ laterFound) := by
  induction before generalizing log found with
  | nil =>
    obtain ⟨rfl, rfl⟩ := Prod.mk.inj (Except.ok.inj hbefore)
    exact hafter
  | cons entry rest ih =>
    obtain ⟨file, contents⟩ := entry
    rw [examineAll] at hbefore
    obtain ⟨⟨firstLog, firstFound⟩, hfirst, hbefore⟩ := bind_eq_ok.1 hbefore
    obtain ⟨⟨restLog, restFound⟩, hrest, hbefore⟩ := bind_eq_ok.1 hbefore
    obtain ⟨rfl, rfl⟩ := Prod.mk.inj (Except.ok.inj hbefore)
    rw [List.append_assoc, List.append_assoc]
    exact examineAll_cons hfirst (ih hrest)

/-- Several files can be checked when each of them can. -/
theorem examineAll_ok_iff {files : List (String × Contents)} :
    (∃ found, examineAll policy files = .ok found) ↔
      ∀ entry ∈ files, ∃ found, examine policy entry.1 entry.2 = .ok found := by
  induction files with
  | nil => exact iff_of_true ⟨_, rfl⟩ (List.forall_mem_nil _)
  | cons entry rest ih =>
    obtain ⟨file, contents⟩ := entry
    rw [List.forall_mem_cons, ← ih]
    constructor
    · rintro ⟨found, hfound⟩
      rw [examineAll] at hfound
      obtain ⟨first, hfirst, hfound⟩ := bind_eq_ok.1 hfound
      obtain ⟨later, hlater, -⟩ := bind_eq_ok.1 hfound
      exact ⟨⟨first, hfirst⟩, later, hlater⟩
    · rintro ⟨⟨first, hfirst⟩, later, hlater⟩
      exact ⟨_, examineAll_cons hfirst hlater⟩

/-! ## Texts that stop a check -/

/-- A text can be checked exactly if it settles. -/
theorem examine_ok_iff : (∃ found, examine policy file (.ok text) = .ok found) ↔
    Listing.Settles fileNamespace (unifyLineEnds text) := by
  cases hbody : bodyOf text with
  | ok ir => exact iff_of_true ⟨_, examine_body hbody⟩ (Or.inl ⟨ir, hbody⟩)
  | error fault =>
    cases fault with
    | listing line column cause =>
      exact iff_of_true ⟨_, examine_refused hbody⟩ (Listing.settles_of_listing hbody)
    | _ =>
      refine iff_of_false ?_ ?_
      · rintro ⟨found, hfound⟩
        rw [examine, hbody] at hfound
        cases hfound
      · rintro (⟨ir, hread⟩ | ⟨line, column, cause, hread, -⟩)
        · cases hbody.symm.trans hread
        · cases hbody.symm.trans hread

/-- A check comes to an end exactly if every text in its files settles. -/
theorem examineAll_settles_iff {files : List (String × Contents)} :
    (∃ found, examineAll policy files = .ok found) ↔
      ∀ file text, (file, .ok text) ∈ files →
        Listing.Settles fileNamespace (unifyLineEnds text) := by
  rw [examineAll_ok_iff]
  constructor
  · exact fun h file text hmem => examine_ok_iff.1 (h _ hmem)
  · rintro h ⟨file, contents⟩ hmem
    cases contents with
    | error fault => exact ⟨_, rfl⟩
    | ok text => exact examine_ok_iff.2 (h file text hmem)

/-- When a text is refused.  It reads as a body or is refused at one of its lines exactly
if the first unmet requirement of its tree, if there is one, has a place; a check comes
to an end exactly if all of its texts do so; and then a refused text is one finding
among those of the files before and after it. -/
theorem settles_and_reported (home : Namespace) (text : List Char) (policy : ForwardPolicy)
    (files before after : List (String × Contents)) (file : String) :
    (Listing.Settles home text ↔
      ∀ tree r, Listing.scan .start 0 0 text = .ok tree →
        Listing.firstUnmet tree.requirements = some r → r.isLocated = true) ∧
    ((∃ found, examineAll policy files = .ok found) ↔
      ∀ file text, (file, .ok text) ∈ files →
        Listing.Settles fileNamespace (unifyLineEnds text)) ∧
    ∀ (line column : Nat) (cause : ListingFault) (log laterLog : List LogRecord)
      (found laterFound : List Diagnostic),
      bodyOf text = .error (.listing line column cause) →
      examineAll policy before = .ok (log, found) →
      examineAll policy after = .ok (laterLog, laterFound) →
      examineAll policy (before ++ (file, .ok text) :: after) = .ok (log ++ laterLog,
        found ++ ⟨file, "syntax-error", ((Fault.listing line column cause).message?).getD [],
          none, some line⟩ :: laterFound) := by
  refine ⟨Listing.settles_iff, examineAll_settles_iff, ?_⟩
  intro line column cause log laterLog found laterFound hrefused hbefore hafter
  exact examineAll_append hbefore (examineAll_cons (examine_refused hrefused) hafter)

/-- A listing that ends after its first word. -/
def cutOff : List Char := "ir".toList

theorem settles_and_reported_cutOff :
    ∃ line column cause, bodyOf cutOff = .error (.listing line column cause) ∧
      examineAll .reject [("cut", .ok cutOff), ("gone", .error .missing)] =
        .ok ([], [⟨"cut", "syntax-error", ((Fault.listing line column cause).message?).getD [],
          none, some line⟩, ⟨"gone", "io-error", ReadFault.missing.message, none, none⟩]) := by
  have hrefused : ∃ line column cause, bodyOf cutOff = .error (.listing line column cause) := by
    have hnone : (Listing.scan .start 0 0 (unifyLineEnds cutOff)).isOk = false := by
      decide +kernel
    cases hscan : Listing.scan .start 0 0 (unifyLineEnds cutOff) with
    | error offset => exact ⟨_, _, _, Listing.read_of_scan_error hscan⟩
    | ok tree =>
      rw [hscan] at hnone
      cases hnone
  obtain ⟨line, column, cause, h⟩ := hrefused
  have hreported := settles_and_reported fileNamespace cutOff .reject [] []
    [("gone", .error .missing)] "cut"
  exact ⟨line, column, cause, h, hreported.2.2 line column cause [] [] [] _ h rfl rfl⟩

/-- A listing with an escape that is cut short. -/
def shortEscape : List Char := "ir f() \x7b %1 = return \"\\x\" \x7d".toList

/-- It is not refused at a line, and with it among the files nothing is reported at all. -/
theorem unsettled_shortEscape :
    (¬ ∀ (home : Namespace) (text : List Char), '\x00' ∉ text → 'N' ∉ text →
      Listing.Settles home text) ∧
    ∀ policy rest, ¬ ∃ found, examineAll policy (("short", .ok shortEscape) :: rest) = .ok found := by
  have hfirst : ((Listing.scan .start 0 0 shortEscape).toOption.bind fun tree =>
      Listing.firstUnmet tree.requirements).map Listing.Requirement.isLocated = some false := by
    decide +kernel
  have hunsettled : ∀ home, ¬ Listing.Settles home shortEscape := by
    intro home hsettles
    rw [Listing.settles_iff] at hsettles
    cases hscan : Listing.scan .start 0 0 shortEscape with
    | error offset =>
      rw [hscan] at hfirst
      cases hfirst
    | ok tree =>
      rw [hscan] at hfirst
      obtain ⟨r, hr, hlocated⟩ := Option.map_eq_some_iff.1 hfirst
      rw [hsettles tree r hscan hr] at hlocated
      cases hlocated
  constructor
  · intro hall
    exact hunsettled (.named "main") (hall _ shortEscape (by decide) (by decide))
  · intro policy rest hfound
    have hsettles := examineAll_settles_iff.1 hfound "short" shortEscape List.mem_cons_self
    have hsame : unifyLineEnds shortEscape = shortEscape := by decide +kernel
    exact hunsettled fileNamespace (hsame ▸ hsettles)

end CommandLine
end SsaEdit
