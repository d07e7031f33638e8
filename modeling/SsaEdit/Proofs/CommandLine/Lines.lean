/-
How many lines a finding takes.

A finding is written with a line feed at its end, so it takes a line more than there are
line feeds in the name of its file and in its message.  The wordings of defects hold none,
and neither do those of refusals, except for the excerpt that is shown of an unexpected
input: where it has a line to show, it puts a mark on the line below.
-/
import SsaEdit.Proofs.CommandLine.Examined
import SsaEdit.Proofs.Listing.Rules
import SsaEdit.Proofs.Listing.Spacing
import SsaEdit.Proofs.Validation.Alike

namespace SsaEdit

/-! ## Line feeds -/

/-- Wording without a line feed. -/
def OnLine (s : String) : Prop := '\n' ∉ s.toList

instance : DecidablePred OnLine := fun s => inferInstanceAs (Decidable ('\n' ∉ s.toList))

theorem OnLine.append {a b : String} (ha : OnLine a) (hb : OnLine b) : OnLine (a ++ b) := by
  rw [OnLine, String.toList_append, List.mem_append]
  exact not_or.2 ⟨ha, hb⟩

theorem CodePoint.ofChar_injective {c d : Char} (h : ofChar c = ofChar d) : c = d := by
  have hsame : (ofChar c).val = (ofChar d).val := congrArg (·.val) h
  exact Char.toNat_inj.1 hsame

namespace Text

/-- How many line feeds a text holds. -/
def lineFeeds (t : Text) : Nat := t.count (.ofChar '\n')

theorem lineFeeds_append (a b : Text) : (a ++ b).lineFeeds = a.lineFeeds + b.lineFeeds :=
  List.count_append

theorem lineFeeds_ofChars (cs : List Char) : (ofChars cs).lineFeeds = cs.count '\n' :=
  List.count_map_of_injective cs _ (fun _ _ => CodePoint.ofChar_injective) '\n'

theorem lineFeeds_ofString_append (a b : String) :
    (ofString (a ++ b)).lineFeeds = (ofString a).lineFeeds + (ofString b).lineFeeds := by
  rw [ofString, ofString, ofString, String.toList_append, lineFeeds_ofChars, lineFeeds_ofChars,
    lineFeeds_ofChars, List.count_append]

theorem lineFeeds_ofString {s : String} (h : OnLine s) : (ofString s).lineFeeds = 0 :=
  (lineFeeds_ofChars s.toList).trans (List.count_eq_zero.2 h)

end Text

/-! ## Numbers and references -/

theorem newline_not_mem_digits {digits : List Char} (h : AllDigits digits) : '\n' ∉ digits :=
  fun hmem => absurd (h '\n' hmem) (by decide)

theorem onLine_decimal (n : Nat) : OnLine (decimal n) := by
  rw [OnLine, decimal, String.toList_ofList]
  exact newline_not_mem_digits (allDigits_toDigits n)

theorem onLine_decimalInt (n : Int) : OnLine (decimalInt n) := by
  rw [decimalInt]
  split
  · exact .append (by decide) (onLine_decimal _)
  · exact onLine_decimal _

theorem onLine_variable (v : Variable) : OnLine v.display :=
  .append (by decide) (onLine_decimal v.id)

theorem onLine_label (l : Label) : OnLine l.display :=
  .append (by decide) (onLine_decimal l.id)

/-! ## Defects -/

/-- A defect without line feeds in its code and its wording. -/
structure Defect.IsOneLine (d : Defect) : Prop where
  code : OnLine d.code
  message : d.message.lineFeeds = 0

/-- A defect that is written out. -/
theorem isOneLine_mk {d : Defect} {code wording : String} {statement : Option Value}
    {severity : String} (h : (⟨code, Text.ofString wording, statement, severity⟩ : Defect) = d)
    (hcode : OnLine code) (hwording : OnLine wording) : d.IsOneLine :=
  h ▸ ⟨hcode, Text.lineFeeds_ofString hwording⟩

section Defects

variable {ir : IR} {d : Defect}

theorem isOneLine_of_locationDefects (hints : ∀ v ∈ ir.locations, ∃ n, v = .int n)
    (h : d ∈ locationDefects ir) : d.IsOneLine := by
  rw [locationDefects, List.mem_append, List.mem_append] at h
  rcases h with (h | h) | h
  · obtain ⟨-, h⟩ := List.mem_ite_nil_right.1 h
    exact isOneLine_mk (List.mem_singleton.1 h).symm (by decide) (by decide)
  · obtain ⟨-, h⟩ := List.mem_ite_nil_left.1 h
    exact isOneLine_mk (List.mem_singleton.1 h).symm (by decide)
      (.append (.append (.append (onLine_decimal _) (by decide)) (onLine_decimal _)) (by decide))
  · obtain ⟨-, h⟩ := List.mem_ite_nil_left.1 h
    obtain ⟨⟨i, location⟩, hmem, hd⟩ := List.mem_filterMap.1 h
    obtain ⟨n, rfl⟩ := hints location (List.of_mem_zip hmem).2
    dsimp only [locationDefect?] at hd
    split at hd
    · injection hd
    · injection hd with hd
      exact isOneLine_mk hd (by decide) (.append (.append (.append (.append (by decide)
        (onLine_decimalInt n)) (by decide)) (onLine_decimal _)) (by decide))

theorem isOneLine_of_referenceDefect? {policy : ForwardPolicy} {i : Nat} {isPhi : Bool}
    {reachable : Nat → Bool} {r : Reference}
    (h : referenceDefect? ir policy i isPhi reachable r = some d) : d.IsOneLine := by
  cases r with
  | label l =>
    dsimp only [referenceDefect?] at h
    split at h
    · injection h
    · injection h with h
      exact isOneLine_mk h (by decide) (.append (onLine_label l) (by decide))
  | value v =>
    dsimp only [referenceDefect?] at h
    split at h
    · injection h with h
      exact isOneLine_mk h (by decide) (.append (onLine_variable v) (by decide))
    · split at h
      · injection h
      · split at h
        · split at h
          · injection h
          · injection h with h
            exact isOneLine_mk h (by decide)
              (.append (.append (by decide) (onLine_variable v)) (by decide))
        · injection h with h
          exact isOneLine_mk h (by decide) (.append (onLine_variable v) (by decide))

theorem isOneLine_of_nodeDefects {count : Int} (hcount : ir.nargs = .int count)
    {policy : ForwardPolicy} {i : Nat} {n : Node} (h : d ∈ nodeDefects ir policy i n) :
    d.IsOneLine := by
  rcases List.mem_append.1 h with h | h
  · obtain ⟨r, -, hd⟩ := List.mem_filterMap.1 h
    exact isOneLine_of_referenceDefect? hd
  · obtain ⟨index, -, hd⟩ := List.mem_filterMap.1 h
    rw [argumentDefect?, hcount] at hd
    split at hd
    · injection hd
    · injection hd with hd
      refine hd ▸ ⟨(by decide : OnLine "argument-out-of-range"), ?_⟩
      have hindex : OnLine (argumentDisplay index ++ " is outside 1..") :=
        .append (.append (by decide) (onLine_decimalInt index)) (by decide)
      show (Text.ofString _ ++ Text.ofString (decimalInt count)).lineFeeds = 0
      rw [Text.lineFeeds_append, Text.lineFeeds_ofString hindex,
        Text.lineFeeds_ofString (onLine_decimalInt count)]

theorem isOneLine_of_terminatorRule (h : d ∈ terminatorRule ir) : d.IsOneLine := by
  have hkind : ∀ n : Node, OnLine n.kindName := by
    intro n
    cases n <;>
      rw [Node.kindName] <;>
      decide
  rw [terminatorRule] at h
  split at h
  · exact isOneLine_mk (List.mem_singleton.1 h).symm (by decide) (by decide)
  · obtain ⟨-, h⟩ := List.mem_ite_nil_left.1 h
    exact isOneLine_mk (List.mem_singleton.1 h).symm (by decide)
      (.append (.append (by decide) (hkind _)) (by decide))

/-- In a body with whole numbers for its locations and its argument count. -/
theorem isOneLine_of_mem_defects (hints : ∀ v ∈ ir.locations, ∃ n, v = .int n) {count : Int}
    (hcount : ir.nargs = .int count) {policy : ForwardPolicy} :
    ∀ d ∈ defects ir policy defaultRules, d.IsOneLine :=
  forall_mem_defects (fun _ => isOneLine_of_locationDefects hints)
    (fun _ _ _ => isOneLine_of_nodeDefects hcount) (fun _ => isOneLine_of_terminatorRule)
    (fun _ => isOneLine_mk rfl (by decide) (by decide))

end Defects

/-! ## Excerpts -/

/-- What is left of some characters when those of a class are dropped at both ends, where
only the last is of the class behind one that is not. -/
theorem trim_sublist {isDropped : Char → Bool} {c d : Char} (hc : isDropped c = false)
    (hd : isDropped d = true) (front : List Char) :
    (Text.trim isDropped (front ++ [c] ++ [d])).Sublist (front ++ [c]) := by
  have hstop : ((front ++ [c]).dropWhile isDropped).isEmpty = false := by
    rw [List.isEmpty_eq_false_iff]
    intro hnil
    have hall := List.dropWhile_eq_nil_iff.1 hnil c (List.mem_concat_self ..)
    rw [hc] at hall
    cases hall
  have htrim : Text.trim isDropped (front ++ [c] ++ [d]) =
      (((front ++ [c]).dropWhile isDropped).reverse.dropWhile isDropped).reverse := by
    rw [Text.trim, List.dropWhile_append, hstop, if_neg Bool.false_ne_true,
      List.reverse_append, List.reverse_singleton, List.singleton_append,
      List.dropWhile_cons_of_pos hd]
  have hends : (((front ++ [c]).dropWhile isDropped).reverse.dropWhile isDropped).Sublist
      ((front ++ [c]).dropWhile isDropped).reverse := List.dropWhile_sublist isDropped
  rw [htrim]
  exact (List.reverse_reverse _ ▸ hends.reverse).trans (List.dropWhile_sublist isDropped)

/-- An excerpt is one line, or a line and the mark below it. -/
theorem lineFeeds_excerpt (text : List Char) (offset : Nat) :
    (Listing.excerpt text offset).count '\n' ≤ 1 := by
  have hkept : ∀ cs : List Char, '\n' ∉ cs.takeWhile (· != '\n') := fun cs hmem =>
    absurd (List.mem_takeWhile_imp hmem) (by decide)
  rw [Listing.excerpt]
  generalize hbefore : (((text.take offset).reverse.take Listing.excerptSpan).takeWhile
    (· != '\n')).reverse = before
  generalize hafter : ((text.drop offset).take Listing.excerptSpan).takeWhile (· != '\n') = after
  have hclean : '\n' ∉ before ∧ '\n' ∉ after := by
    rw [← hbefore, ← hafter, List.mem_reverse]
    exact ⟨hkept _, hkept _⟩
  generalize Listing.expandedWidth 0 0 before = width
  have hspaces : '\n' ∉ List.replicate width ' ' := fun hmem =>
    absurd (List.eq_of_mem_replicate hmem) (by decide)
  have hcount : (before ++ after ++ '\n' :: List.replicate width ' ' ++ ['^']).count '\n' = 1 := by
    simp [List.count_eq_zero.2 hclean.1, List.count_eq_zero.2 hclean.2,
      List.count_eq_zero.2 hspaces]
  have htrim := @trim_sublist Text.isBlank '^' '\n' (by decide) (by decide)
    (before ++ after ++ '\n' :: List.replicate width ' ')
  have hsplit : before ++ after ++ '\n' :: List.replicate width ' ' ++ ['^'] ++ ['\n'] =
      before ++ after ++ '\n' :: (List.replicate width ' ' ++ ['^']) ++ ['\n'] := by
    simp
  rw [hsplit] at htrim
  exact (htrim.count_le '\n').trans hcount.le

/-! ## Refusals -/

theorem lineFeeds_unexpected (shown : List Char) :
    (Text.ofString (ListingFault.unexpected (String.ofList shown)).message).lineFeeds =
      shown.count '\n' := by
  have hmessage : (ListingFault.unexpected (String.ofList shown)).message =
      "unexpected input: " ++ String.ofList shown := rfl
  have hfront : OnLine "unexpected input: " := by decide
  rw [hmessage, Text.lineFeeds_ofString_append, Text.lineFeeds_ofString hfront, Nat.zero_add,
    Text.ofString, String.toList_ofList, Text.lineFeeds_ofChars]

namespace Listing

variable {home : Namespace} {text : List Char}

/-- A piece with digits behind its first character is in one line. -/
theorem newline_not_mem_chars {pieces : List Piece} {stop : Nat} (h : Covers text pieces stop)
    {p : Piece} (hp : p ∈ pieces) (hdigits : AllDigits p.chars.tail) : '\n' ∉ p.chars := by
  induction h with
  | nil => cases hp
  | @piece before here q _ hchars _ ih =>
    rcases List.mem_append.1 hp with hp | hp
    · exact ih hp
    · obtain rfl := List.mem_singleton.1 hp
      obtain ⟨rest, hrest⟩ := hchars
      rw [drop_visibleFrom] at hrest
      cases hcase : p.chars with
      | nil => exact List.not_mem_nil
      | cons c digits =>
        rw [hcase] at hrest hdigits
        obtain ⟨hspace, -⟩ := visible_of_splitBlanks hrest.symm
        rw [List.mem_cons, not_or]
        refine ⟨?_, newline_not_mem_digits hdigits⟩
        rintro rfl
        cases hspace

/-- The number of a statement is among the pieces. -/
theorem number_mem_pieces {tree : Tree} {s : StatementTree} (h : s ∈ tree.statements) :
    .token s.number ∈ tree.pieces := by
  obtain ⟨item, hitem, hsame⟩ := List.mem_filterMap.1 h
  have hmem : .token s.number ∈ tree.items.flatMap Item.pieces := by
    refine List.mem_flatMap.2 ⟨item, hitem, ?_⟩
    cases item with
    | line => cases hsame
    | statement found =>
      cases hsame
      simp [Item.pieces, StatementTree.pieces]
  simp only [Tree.pieces, Tree.unclosed, List.mem_append, hmem, or_true, true_or]

/-- A rule is about the number of one of the statements or about a condition. -/
theorem mem_rulesFrom {r : Requirement} {l : List StatementTree} {first : Nat}
    (h : r ∈ rulesFrom first l) :
    (∃ s ∈ l, ∃ place, r = .numbered s.number place) ∨
      ∃ head cond, r = .conditioned head cond := by
  induction l generalizing first with
  | nil => cases h
  | cons s rest ih =>
    rcases List.mem_append.1 h with h | h
    · rcases List.mem_cons.1 h with rfl | h
      · exact Or.inl ⟨s, List.mem_cons_self, first, rfl⟩
      · cases hnode : s.node with
        | branch head target cond =>
          cases cond with
          | none =>
            rw [hnode] at h
            cases h
          | some cond =>
            rw [hnode] at h
            exact Or.inr ⟨head, cond, List.mem_singleton.1 h⟩
        | call | ret | phi | plain =>
          rw [hnode] at h
          cases h
    · rcases ih h with ⟨found, hfound, hr⟩ | hr
      · exact Or.inl ⟨found, List.mem_cons_of_mem s hfound, hr⟩
      · exact Or.inr hr

/-- The number of a statement is in one line. -/
theorem onLine_number {tree : Tree} (h : tree.Derives text) {s : StatementTree}
    (hs : s ∈ tree.statements) : OnLine (String.ofList s.number.chars) := by
  obtain ⟨hlexed, stop, hcovers, -⟩ := h
  have hnumber := (hlexed.statement hs).number
  have hdigits : AllDigits s.number.chars.tail := by
    have hchars := hnumber.lexed
    rwa [Token.Lexed, hnumber.kind] at hchars
  rw [OnLine, String.toList_ofList]
  exact newline_not_mem_chars hcovers (number_mem_pieces hs) hdigits

/-- A text with a tree is refused at a line for one of the rules of its statements. -/
theorem exists_rule_of_refusal {tree : Tree} (hscan : scan .start 0 0 text = .ok tree)
    {line column : Nat} {cause : ListingFault}
    (h : read home text = .error (.listing line column cause)) :
    ∃ r ∈ rulesFrom 1 tree.statements, r.fault text = .listing line column cause := by
  have hfollows := @tree_follows text home tree
  rw [Follows, ← read_of_scan hscan, h] at hfollows
  cases hfirst : firstUnmet tree.requirements with
  | none =>
    rw [hfirst] at hfollows
    obtain ⟨ir, hir⟩ := hfollows
    cases hir
  | some r =>
    rw [hfirst] at hfollows
    have hfault := (Except.error.inj hfollows).symm
    have hlocated : r.isLocated = true := by
      by_contra hnot
      exact fault_ne_listing (Bool.not_eq_true _ ▸ hnot) line column cause hfault
    refine ⟨r, ?_, hfault⟩
    rw [← located_tree]
    exact List.mem_filter.2 ⟨List.mem_of_find?_eq_some hfirst, hlocated⟩

/-- Why a text is refused at a line: for what it shows at a place, or for a statement, and
that takes no second line to say. -/
theorem refusal_cases {line column : Nat} {cause : ListingFault}
    (h : read home text = .error (.listing line column cause)) :
    (∃ offset, cause = .unexpected (String.ofList (excerpt text offset))) ∨
      OnLine cause.message := by
  cases hscan : scan .start 0 0 text with
  | error offset =>
    cases (read_of_scan_error hscan).symm.trans h
    exact Or.inl ⟨offset, rfl⟩
  | ok tree =>
    right
    obtain ⟨r, hr, hfault⟩ := exists_rule_of_refusal hscan h
    rcases mem_rulesFrom hr with ⟨s, hs, place, rfl⟩ | ⟨head, cond, rfl⟩
    · cases hfault
      have hfound := onLine_number (derives_of_scan hscan) hs
      exact .append (.append (.append (by decide) (onLine_decimal place)) (by decide)) hfound
    · cases hfault
      exact (by decide : OnLine ListingFault.absentCondition.message)

/-- The cause of a refusal takes one line, or two if it shows something unexpected. -/
theorem lineFeeds_refusal {line column : Nat} {cause : ListingFault}
    (h : read home text = .error (.listing line column cause)) :
    (Text.ofString cause.message).lineFeeds = 0 ∨
      (Text.ofString cause.message).lineFeeds = 1 ∧ ∃ shown, cause = .unexpected shown := by
  rcases refusal_cases h with ⟨offset, rfl⟩ | hcause
  · rw [lineFeeds_unexpected]
    rcases Nat.le_one_iff_eq_zero_or_eq_one.1 (lineFeeds_excerpt text offset) with hnone | hone
    · exact Or.inl hnone
    · exact Or.inr ⟨hone, _, rfl⟩
  · exact Or.inl (Text.lineFeeds_ofString hcause)

end Listing

/-! ## Findings -/

/-- A finding takes a line and those that its message has beyond the first. -/
theorem CommandLine.Diagnostic.lineFeeds_display {d : Diagnostic} {n : Nat}
    (hfile : OnLine d.file) (hcode : OnLine d.code) (hmessage : d.message.lineFeeds = n) :
    d.display.lineFeeds = n + 1 := by
  have hplace : OnLine d.place := by
    rw [Diagnostic.place]
    split
    · exact onLine_variable _
    · exact onLine_decimal _
    · decide
  have hfront : OnLine (d.file ++ ":" ++ d.place ++ ": " ++ severity ++ ": ") :=
    .append (.append (.append (.append (.append hfile (by decide)) hplace) (by decide)) (by decide))
      (by decide)
  have hback : (Text.ofString (" [" ++ d.code ++ "]\n")).lineFeeds = 1 := by
    have hopened : OnLine (" [" ++ d.code) := .append (by decide) hcode
    have hend : (Text.ofString "]\n").lineFeeds = 1 := by decide
    rw [Text.lineFeeds_ofString_append, Text.lineFeeds_ofString hopened, hend]
  rw [Diagnostic.display, Text.lineFeeds_append, Text.lineFeeds_append,
    Text.lineFeeds_ofString hfront, hback, Nat.zero_add, hmessage]

end SsaEdit
