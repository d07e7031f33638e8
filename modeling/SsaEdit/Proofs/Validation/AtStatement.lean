/-
What a validation reports at one statement.

The defects of references and arguments come statement by statement, and no other
check uses their codes, so the report says about references and arguments at a
statement exactly what `nodeDefects` says about its node.
-/
import SsaEdit.Proofs.Flow.Blocks
import SsaEdit.Validation

namespace SsaEdit

/-- The codes of the defects of references and arguments. -/
def referenceCodes : List String :=
  ["dangling-reference", "dangling-label", "forward-reference", "argument-out-of-range"]

/-- Whether a defect names statement `k` by its variable. -/
def Defect.isAt (k : Nat) (d : Defect) : Bool :=
  match d.statement with
  | some (.variable v) => v.id == k
  | _ => false

/-- The codes about references and arguments that a report has at statement `k`, in
order. -/
def Report.referenceCodesAt (report : Report) (k : Nat) : List String :=
  (report.defects.filter fun d => d.isAt k && referenceCodes.contains d.code).map Defect.code

/-- A defect of a reference or an argument of statement `i`. -/
structure Defect.IsOwn (i : Nat) (d : Defect) : Prop where
  statement : d.statement = some (.variable ⟨i⟩)
  code : d.code ∈ referenceCodes

namespace Defect

theorem IsOwn.isAt_eq {i : Nat} {d : Defect} (h : d.IsOwn i) (k : Nat) : d.isAt k = (i == k) := by
  rw [isAt, h.statement]

theorem IsOwn.selected {i : Nat} {d : Defect} (h : d.IsOwn i) (k : Nat) :
    (d.isAt k && referenceCodes.contains d.code) = (i == k) := by
  rw [h.isAt_eq, List.contains_iff_mem.2 h.code, Bool.and_true]

end Defect

variable {ir : IR} {policy : ForwardPolicy}

/-! ## The defects of one node -/

theorem isOwn_mk {i : Nat} {code : String} (h : code ∈ referenceCodes) (message : Text)
    (severity : String) : Defect.IsOwn i ⟨code, message, some (.variable ⟨i⟩), severity⟩ :=
  ⟨rfl, h⟩

theorem isOwn_of_referenceDefect? {i : Nat} {isPhi : Bool} {reachable : Nat → Bool} {r : Reference}
    {d : Defect} (h : referenceDefect? ir policy i isPhi reachable r = some d) : d.IsOwn i := by
  unfold referenceDefect? at h
  dsimp only at h
  split at h
  · split at h
    · injection h
    · injection h with h
      exact h ▸ isOwn_mk (by decide) _ _
  · split at h
    · injection h with h
      exact h ▸ isOwn_mk (by decide) _ _
    · split at h
      · injection h
      · split at h
        · split at h
          · injection h
          · injection h with h
            exact h ▸ isOwn_mk (by decide) _ _
        · injection h with h
          exact h ▸ isOwn_mk (by decide) _ _

theorem isOwn_of_argumentDefect? {nargs : Value} {i : Nat} {index : Int} {d : Defect}
    (h : argumentDefect? nargs i index = some d) : d.IsOwn i := by
  unfold argumentDefect? at h
  split at h
  · injection h
  · injection h with h
    exact h ▸ isOwn_mk (by decide) _ _

theorem isOwn_of_mem_nodeDefects {i : Nat} {n : Node} {d : Defect}
    (h : d ∈ nodeDefects ir policy i n) : d.IsOwn i := by
  rcases List.mem_append.1 h with href | harg
  · obtain ⟨_, -, hd⟩ := List.mem_filterMap.1 href
    exact isOwn_of_referenceDefect? hd
  · obtain ⟨_, -, hd⟩ := List.mem_filterMap.1 harg
    exact isOwn_of_argumentDefect? hd

/-- A defect read for its code alone, so that no message is looked at. -/
theorem map_code_mk (code : String) (message : Text) (statement : Option Value)
    (severity : String) :
    (some (⟨code, message, statement, severity⟩ : Defect)).map Defect.code = some code := rfl

/-! ## The other checks -/

theorem code_of_mem_locationDefects {d : Defect} (h : d ∈ locationDefects ir) :
    d.code ∉ referenceCodes := by
  rw [locationDefects, List.mem_append, List.mem_append] at h
  rcases h with (hempty | hlength) | hrange
  · split at hempty
    · rw [List.mem_singleton.1 hempty]
      decide
    · exact absurd hempty List.not_mem_nil
  · split at hlength
    · exact absurd hlength List.not_mem_nil
    · rw [List.mem_singleton.1 hlength]
      show "location-length-mismatch" ∉ referenceCodes
      decide
  · split at hrange
    · exact absurd hrange List.not_mem_nil
    · obtain ⟨⟨i, location⟩, -, hd⟩ := List.mem_filterMap.1 hrange
      dsimp only [locationDefect?] at hd
      split at hd
      · injection hd
      · injection hd with hd
        rw [← hd]
        show "location-out-of-range" ∉ referenceCodes
        decide

theorem code_of_mem_phiScan {isLeader : Nat → Bool} {nodes : List (Nat × Node)} {inHead : Bool}
    {d : Defect} (h : d ∈ phiScan isLeader inHead nodes) : d.code ∉ referenceCodes := by
  induction nodes generalizing inHead with
  | nil =>
    rw [phiScan] at h
    exact absurd h List.not_mem_nil
  | cons first rest ih =>
    obtain ⟨i, n⟩ := first
    cases n with
    | phi incoming =>
      rw [phiScan] at h
      rcases List.mem_append.1 h with hfirst | hrest
      · split at hfirst
        · exact absurd hfirst List.not_mem_nil
        · rw [List.mem_singleton.1 hfirst]
          show "misplaced-phi" ∉ referenceCodes
          decide
      · exact ih hrest
    | call _ _ | branch _ _ | ret _ | const _ | global _ | argument _ => exact ih h

theorem code_of_mem_terminatorRule {d : Defect} (h : d ∈ terminatorRule ir) :
    d.code ∉ referenceCodes := by
  rw [terminatorRule] at h
  split at h
  · rw [List.mem_singleton.1 h]
    decide
  · split at h
    · exact absurd h List.not_mem_nil
    · rw [List.mem_singleton.1 h]
      show "missing-terminator" ∉ referenceCodes
      decide

theorem code_of_mem_defaultRules {d : Defect} (h : d ∈ defaultRules.flatMap fun rule => rule ir) :
    d.code ∉ referenceCodes := by
  obtain ⟨rule, hrule, hd⟩ := List.mem_flatMap.1 h
  rcases List.mem_cons.1 hrule with rfl | hrule
  · exact code_of_mem_terminatorRule hd
  · rw [List.mem_singleton.1 hrule] at hd
    exact code_of_mem_phiScan hd

/-! ## The report at a statement -/

/-- Whatever is not about references and arguments is left out. -/
theorem filter_eq_nil {defects : List Defect} (h : ∀ d ∈ defects, d.code ∉ referenceCodes)
    (k : Nat) : defects.filter (fun d => d.isAt k && referenceCodes.contains d.code) = [] := by
  rw [List.filter_eq_nil_iff]
  intro d hd
  have hnot : referenceCodes.contains d.code = false := by
    rw [← Bool.not_eq_true, List.contains_iff_mem]
    exact h d hd
  rw [hnot, Bool.and_false]
  exact Bool.false_ne_true

/-- The defects of a node are at its statement. -/
theorem filter_own (k : Nat) (n : Node) :
    (nodeDefects ir policy k n).filter (fun d => d.isAt k && referenceCodes.contains d.code) =
      nodeDefects ir policy k n := by
  rw [List.filter_eq_self]
  intro d hd
  rw [(isOwn_of_mem_nodeDefects hd).selected, beq_self_eq_true]

theorem filter_other {i k : Nat} (hne : i ≠ k) (n : Node) :
    (nodeDefects ir policy i n).filter (fun d => d.isAt k && referenceCodes.contains d.code) =
      [] := by
  rw [List.filter_eq_nil_iff]
  intro d hd
  rw [(isOwn_of_mem_nodeDefects hd).selected]
  simpa using hne

/-- Of the defects of numbered nodes the ones at statement `k` are those of its
node. -/
theorem filter_nodeDefects (k : Nat) {nodes : List Node} {j : Nat} {n : Node}
    (hn : nodes[j]? = some n) {start : Nat} (hk : k = start + j) :
    (((List.range' start nodes.length).zip nodes).flatMap fun (i, n) =>
        nodeDefects ir policy i n).filter
      (fun d => d.isAt k && referenceCodes.contains d.code) = nodeDefects ir policy k n := by
  induction nodes generalizing start j with
  | nil =>
    rw [List.getElem?_nil] at hn
    injection hn
  | cons first rest ih =>
    rw [List.length_cons, List.range'_succ, List.zip_cons_cons, List.flatMap_cons,
      List.filter_append]
    cases j with
    | zero =>
      injection hn with hfirst
      subst hfirst
      have hrest : (((List.range' (start + 1) rest.length).zip rest).flatMap fun (i, n) =>
          nodeDefects ir policy i n).filter
            (fun d => d.isAt k && referenceCodes.contains d.code) = [] := by
        rw [List.filter_flatMap, List.flatMap_eq_nil_iff]
        rintro ⟨i, n⟩ hmem
        have hle := (List.mem_range'_1.1 (List.of_mem_zip hmem).1).1
        exact filter_other (by omega) n
      subst hk
      rw [hrest, List.append_nil]
      exact filter_own _ first
    | succ j =>
      rw [List.getElem?_cons_succ] at hn
      have hstart : start ≠ k := by omega
      rw [show _ = _ from filter_other hstart first, List.nil_append]
      exact ih hn (by omega)

theorem referenceCodesAt_eq {report : Report} (h : validate ir policy = .ok report) {k : Nat}
    {n : Node} (hn : ir.node? k = some n) :
    report.referenceCodesAt k = (nodeDefects ir policy k n).map Defect.code := by
  rw [validate] at h
  split at h
  · injection h
  · injection h with h
    have hpos := (IR.inRange_iff.1 (IR.inRange_of_node? hn)).1
    have hcode : ir.code[k - 1]? = some n := by
      rw [IR.getElem?_code, Nat.sub_add_cancel hpos]
      exact hn
    rw [← h, Report.referenceCodesAt, defects, List.filter_append, List.filter_append,
      filter_eq_nil (fun d => code_of_mem_locationDefects),
      filter_eq_nil (fun d => code_of_mem_defaultRules), List.nil_append, List.append_nil,
      referenceDefects, IR.numbered, ← IR.length_code, filter_nodeDefects k hcode (by omega)]

/-- A body whose argument count is a number can be validated by any rules. -/
theorem validate_by (h : ir.nargs.number? ≠ none) (policy : ForwardPolicy)
    (rules : List HostRule) : validate ir policy rules = .ok ⟨defects ir policy rules⟩ := by
  have hcounts : countsWithoutNumber ir = false := by
    cases hn : ir.nargs.number? with
    | none => exact absurd hn h
    | some _ => rw [countsWithoutNumber, hn, Option.isNone_some, Bool.false_and]
  rw [validate, hcounts, if_neg Bool.false_ne_true]

theorem validate_eq (h : ir.nargs.number? ≠ none) (policy : ForwardPolicy) :
    validate ir policy = .ok ⟨defects ir policy defaultRules⟩ := validate_by h policy defaultRules

theorem exists_report (h : ir.nargs.number? ≠ none) (policy : ForwardPolicy) :
    ∃ report, validate ir policy = .ok report :=
  ⟨_, validate_eq h policy⟩

/-! ## Statements that were moved -/

/-- Statement `i` of one body and statement `j` of another differ by the numbers of
their references only, and every reference still is as it was: in range or not,
before the statement or not, reachable from it or not. -/
structure Moved (ir out : IR) (f : Reference → Nat) (i j : Nat) (n m : Node) : Prop where
  references : m.references = n.references.map fun r => r.withId (f r)
  arguments : m.arguments = n.arguments
  isPhi : m.isPhi = n.isPhi
  inRange : ∀ r ∈ n.references, out.inRange (f r) = ir.inRange r.id
  before : ∀ r ∈ n.references, ir.inRange r.id = true → (f r < j ↔ r.id < i)
  reaches : ∀ r ∈ n.references, ir.inRange r.id = true →
    (out.Reaches j (f r) ↔ ir.Reaches i r.id)

namespace Moved

variable {out : IR} {f : Reference → Nat} {i j : Nat} {n m : Node}

theorem code_labelDefect? (h : Moved ir out f i j n m) {l : Label} (hl : .label l ∈ n.references)
    (reachable reachable' : Nat → Bool) :
    (referenceDefect? out policy j n.isPhi reachable' (.label ⟨f (.label l)⟩)).map Defect.code =
      (referenceDefect? ir policy i n.isPhi reachable (.label l)).map Defect.code := by
  have hrange : out.inRange (f (.label l)) = ir.inRange l.id := h.inRange _ hl
  rw [referenceDefect?, referenceDefect?, hrange]
  cases ir.inRange l.id with
  | true => simp only [if_true, Option.map_none]
  | false => simp only [Bool.false_eq_true, if_false, map_code_mk]

theorem code_valueDefect? (h : Moved ir out f i j n m) {v : Variable} (hv : .value v ∈ n.references)
    {reachable reachable' : Nat → Bool}
    (hreachable : policy = .phiReachable → n.isPhi = true → ir.inRange v.id = true →
      reachable' (f (.value v)) = reachable v.id) :
    (referenceDefect? out policy j n.isPhi reachable' (.value ⟨f (.value v)⟩)).map Defect.code =
      (referenceDefect? ir policy i n.isPhi reachable (.value v)).map Defect.code := by
  have hrange : out.inRange (f (.value v)) = ir.inRange v.id := h.inRange _ hv
  cases hin : ir.inRange v.id with
  | false =>
    have hout := hrange.trans hin
    simp only [referenceDefect?, hin, hout, Bool.not_false, if_true, map_code_mk]
  | true =>
    have hout := hrange.trans hin
    have hbefore : decide (f (.value v) < j) = decide (v.id < i) :=
      decide_eq_decide.2 (h.before _ hv hin)
    simp only [referenceDefect?, hin, hout, hbefore, Bool.not_true, Bool.false_eq_true,
      if_false]
    by_cases hearly : (decide (v.id < i) || decide (policy = .allow)) = true
    · rw [if_pos hearly, if_pos hearly]
    · rw [if_neg hearly, if_neg hearly]
      by_cases hphi : (decide (policy = .phiReachable) && n.isPhi) = true
      · rw [if_pos hphi, if_pos hphi]
        rw [Bool.and_eq_true, decide_eq_true_eq] at hphi
        rw [hreachable hphi.1 hphi.2 hin]
        cases reachable v.id with
        | true => simp only [if_true, Option.map_none]
        | false => simp only [Bool.false_eq_true, if_false, map_code_mk]
      · rw [if_neg hphi, if_neg hphi, map_code_mk, map_code_mk]

theorem code_referenceDefect? (h : Moved ir out f i j n m) {r : Reference} (hr : r ∈ n.references)
    {reachable reachable' : Nat → Bool}
    (hreachable : policy = .phiReachable → n.isPhi = true → ir.inRange r.id = true →
      reachable' (f r) = reachable r.id) :
    (referenceDefect? out policy j n.isPhi reachable' (r.withId (f r))).map Defect.code =
      (referenceDefect? ir policy i n.isPhi reachable r).map Defect.code := by
  cases r with
  | label l => exact h.code_labelDefect? hr reachable reachable'
  | value v => exact h.code_valueDefect? hr hreachable

theorem code_argumentDefect? (nargs : Value) (i j : Nat) (index : Int) :
    (argumentDefect? nargs j index).map Defect.code =
      (argumentDefect? nargs i index).map Defect.code := by
  rw [argumentDefect?, argumentDefect?]
  cases argumentInRange nargs index with
  | true => simp only [if_true, Option.map_none]
  | false => simp only [Bool.false_eq_true, if_false, map_code_mk]

/-- A statement that was moved has the same defects, by their codes. -/
theorem codes_nodeDefects (h : Moved ir out f i j n m) (hnargs : out.nargs = ir.nargs)
    (policy : ForwardPolicy) :
    (nodeDefects out policy j m).map Defect.code =
      (nodeDefects ir policy i n).map Defect.code := by
  have hreachable : ∀ r ∈ n.references, policy = .phiReachable → n.isPhi = true →
      ir.inRange r.id = true →
        (if n.isPhi && decide (policy = .phiReachable) then out.reachableFrom j else []).contains
            (f r) =
          (if n.isPhi && decide (policy = .phiReachable) then ir.reachableFrom i else []).contains
            r.id := by
    intro r hr hpolicy hphi hin
    rw [hpolicy, hphi]
    simp only [decide_true, Bool.and_true, if_true]
    rw [Bool.eq_iff_iff, List.contains_iff_mem, List.contains_iff_mem, IR.mem_reachableFrom,
      IR.mem_reachableFrom]
    exact h.reaches r hr hin
  rw [nodeDefects, nodeDefects, List.map_append, List.map_append, List.map_filterMap,
    List.map_filterMap, List.map_filterMap, List.map_filterMap, h.isPhi, h.references,
    h.arguments, hnargs, List.filterMap_map]
  apply congrArg₂ (· ++ ·)
  · apply List.filterMap_congr
    intro r hr
    exact h.code_referenceDefect? hr (hreachable r hr)
  · apply List.filterMap_congr
    intro index _
    exact code_argumentDefect? ir.nargs i j index

end Moved

end SsaEdit
