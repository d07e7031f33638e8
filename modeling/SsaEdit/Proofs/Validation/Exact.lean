/-
A validation reports the broken rules and nothing else.

Each check goes through some places of the body, and `Reports` says what it makes of
them: one defect for every place where the rule is broken, in order, with the code of
the rule and the statement at fault.  Every check has one lemma of that form, and
`validate_exact` puts them together.

The scan for phis carries one bit along.  At statement `i` it stands for `Continues`:
some block began before `i`, and only phis were met since then.
-/
import SsaEdit.Proofs.Validation.AtStatement
import SsaEdit.Proofs.Validation.Rules
import SsaEdit.Samples

namespace SsaEdit

/-- Of some places those are reported where the rule is broken, each by one defect,
in order. -/
inductive Reports (ir : IR) (count : Int) (policy : ForwardPolicy) :
    List Site → List Defect → Prop
  | nil : Reports ir count policy [] []
  | holds {site : Site} {sites : List Site} {defects : List Defect}
    (h : site.Holds ir count policy) (rest : Reports ir count policy sites defects) :
    Reports ir count policy (site :: sites) defects
  | broken {site : Site} {sites : List Site} {d : Defect} {defects : List Defect}
    (h : ¬ site.Holds ir count policy) (code : d.code = site.code ir)
    (statement : d.statement = site.statement ir) (rest : Reports ir count policy sites defects) :
    Reports ir count policy (site :: sites) (d :: defects)

variable {ir : IR} {count : Int} {policy : ForwardPolicy}

namespace Reports

variable {sites : List Site} {defects : List Defect}

theorem append {sites' : List Site} {defects' : List Defect}
    (h : Reports ir count policy sites defects) (h' : Reports ir count policy sites' defects') :
    Reports ir count policy (sites ++ sites') (defects ++ defects') := by
  induction h with
  | nil => exact h'
  | holds hholds _ ih => exact .holds hholds ih
  | broken hbroken hcode hstatement _ ih => exact .broken hbroken hcode hstatement ih

theorem flatMap {α : Type} {items : List α} {sites : α → List Site} {defects : α → List Defect}
    (h : ∀ a ∈ items, Reports ir count policy (sites a) (defects a)) :
    Reports ir count policy (items.flatMap sites) (items.flatMap defects) := by
  induction items with
  | nil => exact .nil
  | cons a rest ih =>
    rw [List.flatMap_cons, List.flatMap_cons]
    exact (h a List.mem_cons_self).append (ih fun b hb => h b (List.mem_cons_of_mem a hb))

/-- A check of one place after the other. -/
theorem filterMap {α : Type} {items : List α} {site : α → Site} {check : α → Option Defect}
    (h : ∀ a ∈ items, Reports ir count policy [site a] (check a).toList) :
    Reports ir count policy (items.map site) (items.filterMap check) := by
  rw [List.map_eq_flatMap, List.filterMap_eq_flatMap_toList]
  exact flatMap h

theorem of_holds (site : Site) (h : site.Holds ir count policy) :
    Reports ir count policy [site] [] :=
  .holds h .nil

theorem of_broken (site : Site) (h : ¬ site.Holds ir count policy) {d : Defect}
    (hcode : d.code = site.code ir) (hstatement : d.statement = site.statement ir) :
    Reports ir count policy [site] [d] :=
  .broken h hcode hstatement .nil

/-- Nothing is reported exactly when the rules hold. -/
theorem defects_eq_nil_iff (h : Reports ir count policy sites defects) :
    defects = [] ↔ ∀ site ∈ sites, site.Holds ir count policy := by
  induction h with
  | nil => exact iff_of_true rfl fun _ hsite => absurd hsite List.not_mem_nil
  | holds hholds _ ih => rw [ih, List.forall_mem_cons, and_iff_right hholds]
  | broken hbroken _ _ _ _ =>
    exact iff_of_false (List.cons_ne_nil _ _) fun hall => hbroken (hall _ List.mem_cons_self)

end Reports

/-! ## Locations -/

theorem locationInRange_iff {location : Value} :
    locationInRange ir.lineTable.length location = true ↔ ir.HasLine location := by
  constructor
  · intro h
    unfold locationInRange at h
    split at h
    · rename_i n
      rw [Bool.and_eq_true, decide_eq_true_eq, decide_eq_true_eq] at h
      exact ⟨n.toNat, by rw [Int.toNat_of_nonneg h.1], by omega⟩
    · exact absurd h Bool.false_ne_true
  · rintro ⟨k, rfl, hk⟩
    simp only [locationInRange, Bool.and_eq_true, decide_eq_true_eq]
    omega

theorem reports_locationDefect? (i : Nat) (location : Value) :
    Reports ir count policy [.location i location] (locationDefect? ir i location).toList := by
  rw [locationDefect?]
  by_cases h : locationInRange ir.lineTable.length location = true
  · rw [if_pos h]
    exact .of_holds (.location i location) (locationInRange_iff.1 h)
  · rw [if_neg h]
    exact .of_broken (.location i location) (fun hline => h (locationInRange_iff.2 hline)) rfl rfl

theorem reports_locationDefects :
    Reports ir count policy ir.locationSites (locationDefects ir) := by
  have htable : Reports ir count policy [.lineTable] (if ir.lineTable.isEmpty then
      [⟨"empty-location-table", Text.ofString "line table is empty", none, "error"⟩] else []) := by
    split
    · rename_i hempty
      exact .of_broken .lineTable (not_not.2 (List.isEmpty_iff.1 hempty)) rfl rfl
    · rename_i hlines
      exact .of_holds .lineTable fun hempty => hlines (List.isEmpty_iff.2 hempty)
  have hcount : Reports ir count policy [.locationCount] (if ir.locations.length = ir.size then []
      else [⟨"location-length-mismatch", Text.ofString (decimal ir.locations.length ++
        " locations for " ++ decimal ir.size ++ " statements"), none, "error"⟩]) := by
    split
    · rename_i hlength
      exact .of_holds .locationCount hlength
    · rename_i hlength
      exact .of_broken .locationCount hlength rfl rfl
  have hsingle : Reports ir count policy
      (if ir.lineTable.isEmpty then [] else ir.numberedLocations.map fun entry =>
        .location entry.1 entry.2)
      (if ir.lineTable.isEmpty then [] else ir.numberedLocations.filterMap fun entry =>
        locationDefect? ir entry.1 entry.2) := by
    split
    · exact .nil
    · exact .filterMap fun entry _ => reports_locationDefect? entry.1 entry.2
  exact (htable.append hcount).append hsingle

/-! ## References and arguments -/

theorem reports_labelDefect? (i : Nat) (n : Node) (reachable : Nat → Bool) (l : Label) :
    Reports ir count policy [.reference i n (.label l)]
      (referenceDefect? ir policy i n.isPhi reachable (.label l)).toList := by
  rw [referenceDefect?]
  by_cases hrange : ir.inRange l.id = true
  · rw [if_pos hrange]
    exact .of_holds (.reference i n (.label l)) (IR.inRange_iff.1 hrange)
  · rw [if_neg hrange]
    refine .of_broken (.reference i n (.label l)) ?_ rfl rfl
    exact fun hholds => hrange (IR.inRange_iff.2 hholds)

section Values

-- The check of a value has to be told rightly what can be reached from a phi.
variable {i : Nat} {n : Node} {reachable : Nat → Bool} {v : Variable}

theorem valueDefect?_of_mayUse
    (hreachable : policy = .phiReachable → n.isPhi = true →
      (reachable v.id = true ↔ Relation.TransGen ir.Flows i v.id))
    (hrange : ir.inRange v.id = true) (h : ir.MayUse policy i n v.id) :
    referenceDefect? ir policy i n.isPhi reachable (.value v) = none := by
  simp only [referenceDefect?, hrange, Bool.not_true, Bool.false_eq_true, if_false]
  split
  · rfl
  · rename_i hlate
    rw [Bool.or_eq_true, decide_eq_true_eq, decide_eq_true_eq, not_or] at hlate
    rcases h with hlt | hallow | ⟨hpolicy, hphi, hpath⟩
    · exact absurd hlt hlate.1
    · exact absurd hallow hlate.2
    · have hphi := Node.isPhi_iff.2 hphi
      rw [if_pos (by rw [hpolicy, hphi]; rfl), if_pos ((hreachable hpolicy hphi).2 hpath)]

theorem valueDefect?_of_not_mayUse
    (hreachable : policy = .phiReachable → n.isPhi = true →
      (reachable v.id = true ↔ Relation.TransGen ir.Flows i v.id))
    (hrange : ir.inRange v.id = true) (h : ¬ ir.MayUse policy i n v.id) :
    ∃ message, referenceDefect? ir policy i n.isPhi reachable (.value v) =
      some ⟨"forward-reference", message, some (.variable ⟨i⟩), "error"⟩ := by
  simp only [referenceDefect?, hrange, Bool.not_true, Bool.false_eq_true, if_false]
  split
  · rename_i hearly
    rw [Bool.or_eq_true, decide_eq_true_eq, decide_eq_true_eq] at hearly
    exact absurd (hearly.imp_right Or.inl) h
  · split
    · rename_i hphi
      rw [Bool.and_eq_true, decide_eq_true_eq] at hphi
      have hunmet : ¬ reachable v.id = true := fun hmet => h (Or.inr (Or.inr
        ⟨hphi.1, Node.isPhi_iff.1 hphi.2, (hreachable hphi.1 hphi.2).1 hmet⟩))
      rw [if_neg hunmet]
      exact ⟨_, rfl⟩
    · exact ⟨_, rfl⟩

theorem reports_valueDefect?
    (hreachable : policy = .phiReachable → n.isPhi = true →
      (reachable v.id = true ↔ Relation.TransGen ir.Flows i v.id)) :
    Reports ir count policy [.reference i n (.value v)]
      (referenceDefect? ir policy i n.isPhi reachable (.value v)).toList := by
  by_cases hrange : ir.inRange v.id = true
  · have hforward : "forward-reference" = (Site.reference i n (.value v)).code ir :=
      (if_pos hrange).symm
    by_cases hmay : ir.MayUse policy i n v.id
    · rw [valueDefect?_of_mayUse hreachable hrange hmay]
      exact .of_holds (.reference i n (.value v)) ⟨IR.inRange_iff.1 hrange, hmay⟩
    · obtain ⟨message, hdefect⟩ := valueDefect?_of_not_mayUse hreachable hrange hmay
      rw [hdefect]
      exact .of_broken (.reference i n (.value v)) (fun hholds => hmay hholds.2) hforward rfl
  · have hdangling : "dangling-reference" = (Site.reference i n (.value v)).code ir :=
      (if_neg hrange).symm
    simp only [referenceDefect?, hrange, Bool.not_false, if_true, Option.toList_some]
    exact .of_broken (.reference i n (.value v)) (fun hholds => hrange (IR.inRange_iff.2 hholds.1))
      hdangling rfl

end Values

theorem argumentInRange_iff (hcount : ir.nargs.number? = some (.int count)) {index : Int} :
    argumentInRange ir.nargs index = true ↔ 1 ≤ index ∧ index ≤ count := by
  simp only [argumentInRange, hcount, Number.intLe, Bool.and_eq_true, decide_eq_true_eq]

theorem reports_argumentDefect? (hcount : ir.nargs.number? = some (.int count)) (i : Nat)
    (index : Int) :
    Reports ir count policy [.argument i index] (argumentDefect? ir.nargs i index).toList := by
  rw [argumentDefect?]
  by_cases h : argumentInRange ir.nargs index = true
  · rw [if_pos h]
    exact .of_holds (.argument i index) ((argumentInRange_iff hcount).1 h)
  · rw [if_neg h]
    refine .of_broken (.argument i index) ?_ rfl rfl
    exact fun hholds => h ((argumentInRange_iff hcount).2 hholds)

theorem reports_nodeDefects (hcount : ir.nargs.number? = some (.int count)) (i : Nat) (n : Node) :
    Reports ir count policy (IR.nodeSites i n) (nodeDefects ir policy i n) := by
  refine Reports.append (.filterMap fun r _ => ?_) (.filterMap fun index _ => ?_)
  · cases r with
    | label l => exact reports_labelDefect? i n _ l
    | value v =>
      refine reports_valueDefect? fun hpolicy hphi => ?_
      rw [if_pos (by rw [hphi, hpolicy]; rfl), List.contains_iff_mem, IR.mem_reachableFrom,
        IR.reaches_iff]
  · exact reports_argumentDefect? hcount i index

theorem reports_referenceDefects (hcount : ir.nargs.number? = some (.int count)) :
    Reports ir count policy (ir.numbered.flatMap fun (i, n) => IR.nodeSites i n)
      (referenceDefects ir policy) :=
  .flatMap fun entry _ => reports_nodeDefects hcount entry.1 entry.2

/-! ## The rules of the host -/

theorem isTerminator_iff {n : Node} : n.isTerminator = true ↔
    (∃ value, n = .ret value) ∨ ∃ target, n = .branch target .null := by
  constructor
  · intro h
    cases n with
    | ret value => exact Or.inl ⟨value, rfl⟩
    | branch target cond =>
      cases cond with
      | null => exact Or.inr ⟨target, rfl⟩
      | _ => exact absurd h Bool.false_ne_true
    | call _ _ | phi _ | const _ | global _ | argument _ => exact absurd h Bool.false_ne_true
  · rintro (⟨value, rfl⟩ | ⟨target, rfl⟩) <;> rfl

theorem reports_terminatorRule : Reports ir count policy [.ending] (terminatorRule ir) := by
  rw [terminatorRule, IR.getLast?_code]
  cases hlast : ir.node? ir.size with
  | none =>
    have hempty : ir.size = 0 := by
      by_contra hpos
      obtain ⟨n, hn⟩ := IR.exists_node (IR.inRange_iff.2 ⟨Nat.pos_of_ne_zero hpos, Nat.le_refl _⟩)
      rw [hn] at hlast
      injection hlast
    refine .of_broken .ending ?_ rfl (if_pos hempty).symm
    rintro ⟨n, hn, -⟩
    rw [hn] at hlast
    injection hlast
  | some last =>
    have hpos : ir.size ≠ 0 := by
      intro hempty
      rw [hempty] at hlast
      injection hlast
    by_cases hends : last.isTerminator = true
    · simp only [hends, if_true]
      exact .of_holds .ending ⟨last, hlast, isTerminator_iff.1 hends⟩
    · simp only [hends]
      refine .of_broken .ending ?_ rfl (if_neg hpos).symm
      rintro ⟨n, hn, hform⟩
      obtain rfl := Option.some.inj (hlast.symm.trans hn)
      exact hends (isTerminator_iff.2 hform)

/-- The scan knows at every statement whether a head goes on there, and so reports the
phis outside of heads. -/
theorem reports_phiScan {nodes : List Node} {start : Nat} {inHead : Bool}
    (hnodes : ∀ j n, nodes[j]? = some n → ir.node? (start + j) = some n)
    (hhead : inHead = true ↔ ir.Continues start) :
    Reports ir count policy (IR.phiSites ((List.range' start nodes.length).zip nodes))
      (phiScan ir.isLeader inHead ((List.range' start nodes.length).zip nodes)) := by
  induction nodes generalizing start inHead with
  | nil => exact .nil
  | cons n rest ih =>
    have hn : ir.node? start = some n := hnodes 0 n rfl
    have hrest : ∀ j m, rest[j]? = some m → ir.node? (start + 1 + j) = some m := by
      intro j m hm
      rw [Nat.add_assoc, Nat.add_comm 1 j]
      exact hnodes (j + 1) m hm
    rw [List.length_cons, List.range'_succ, List.zip_cons_cons]
    by_cases hphi : n.isPhi = true
    · obtain ⟨incoming, rfl⟩ := Node.isPhi_iff.1 hphi
      have hnow : (inHead || ir.isLeader start) = true ↔ ir.InHead start := by
        rw [Bool.or_eq_true, hhead, IR.isLeader_iff, IR.inHead_iff]
      have hnext : (inHead || ir.isLeader start) = true ↔ ir.Continues (start + 1) := by
        rw [hnow, IR.continues_succ_iff, and_iff_left ⟨incoming, hn⟩]
      rw [phiScan]
      refine Reports.append (?_ : Reports ir count policy [.phi start] _) (ih hrest hnext)
      by_cases hin : (inHead || ir.isLeader start) = true
      · rw [if_pos hin]
        exact .of_holds (.phi start) (hnow.1 hin)
      · rw [if_neg hin]
        exact .of_broken (.phi start) (fun hholds => hin (hnow.2 hholds)) rfl rfl
    · have hscan (rest : List (Nat × Node)) : phiScan ir.isLeader inHead ((start, n) :: rest) =
          phiScan ir.isLeader false rest := by
        cases n with
        | phi incoming => exact absurd rfl hphi
        | call _ _ | branch _ _ | ret _ | const _ | global _ | argument _ => rfl
      have hnext : false = true ↔ ir.Continues (start + 1) := by
        refine iff_of_false Bool.false_ne_true fun hgoes => hphi ?_
        obtain ⟨incoming, hisPhi⟩ := (IR.continues_succ_iff.1 hgoes).2
        rw [Option.some.inj (hn.symm.trans hisPhi)]
        rfl
      rw [hscan, IR.phiSites, List.filter_cons_of_neg (by exact hphi)]
      exact ih hrest hnext

theorem reports_phiPlacementRule :
    Reports ir count policy (IR.phiSites ir.numbered) (phiPlacementRule ir) := by
  rw [phiPlacementRule, IR.numbered, ← IR.length_code]
  refine reports_phiScan ?_ (iff_of_false Bool.false_ne_true IR.not_continues_one)
  intro j n hn
  rw [Nat.add_comm, ← IR.getElem?_code]
  exact hn

/-! ## The whole report -/

theorem reports_defects (hcount : ir.nargs.number? = some (.int count)) :
    Reports ir count policy ir.sites (defects ir policy defaultRules) := by
  rw [defects, IR.sites]
  refine (reports_locationDefects.append (reports_referenceDefects hcount)).append ?_
  rw [defaultRules, List.flatMap_cons, List.flatMap_cons, List.flatMap_nil, List.append_nil]
  exact reports_terminatorRule.append reports_phiPlacementRule

/-- When the argument count is a number, a validation comes to a report.  It is empty
exactly for a body without a defect, and in it stands one defect for every place where
a rule is broken, with its code and its statement, in the order of the places. -/
theorem validate_exact (hcount : ir.nargs.number? = some (.int count)) (policy : ForwardPolicy) :
    ∃ report, validate ir policy = .ok report ∧
      (report.defects = [] ↔ ir.Sound count policy) ∧
      Reports ir count policy ir.sites report.defects := by
  have hnumber : ir.nargs.number? ≠ none := hcount.trans_ne (Option.some_ne_none _)
  refine ⟨_, validate_eq hnumber policy, ?_, reports_defects hcount⟩
  rw [(reports_defects hcount).defects_eq_nil_iff, IR.sound_iff]

/-- In the counting loop the phi takes a value from further down, which is a defect for
one policy only. -/
theorem sound_countingLoop :
    Samples.countingLoop.Sound 1 .allow ∧ ¬ Samples.countingLoop.Sound 1 .reject := by
  constructor
  · obtain ⟨report, hreport, hsound, -⟩ := @validate_exact Samples.countingLoop 1 rfl .allow
    refine hsound.1 ?_
    obtain rfl := Except.ok.inj hreport
    decide +kernel
  · obtain ⟨report, hreport, hsound, -⟩ := @validate_exact Samples.countingLoop 1 rfl .reject
    rw [← hsound]
    obtain rfl := Except.ok.inj hreport
    decide +kernel

/-- A body with a location and without a line table to look it up in. -/
def Samples.unlined : IR where
  name := "f"
  nargs := .int 1
  slots := []
  lineTable := []
  body := [⟨.ret .null, .unknown⟩]
  locations := [.int 0]
  metadata := []

/-- A location can lack its line without a defect at its statement: in an empty line
table none is looked up. -/
theorem location_unreported_unlined :
    ¬ ∀ (ir : IR) (count : Int) (policy : ForwardPolicy) (report : Report),
      ir.nargs.number? = some (.int count) → validate ir policy = .ok report →
        ∀ i location, (i, location) ∈ ir.numberedLocations → i ≤ ir.size → ¬ ir.HasLine location →
          ∃ d ∈ report.defects,
            d.code = "location-out-of-range" ∧ d.statement = some (.variable ⟨i⟩) := by
  intro hall
  have hline : ¬ Samples.unlined.HasLine (.int 0) := by
    rintro ⟨k, -, hk⟩
    exact absurd hk (Nat.not_lt_zero k)
  have hcount : Samples.unlined.nargs.number? = some (.int 1) := rfl
  obtain ⟨d, hd, hcode, -⟩ := hall Samples.unlined 1 .phiReachable _ hcount
    (validate_eq (hcount.trans_ne (Option.some_ne_none _)) .phiReachable)
    1 (.int 0) List.mem_cons_self (by decide) hline
  have hcodes : (defects Samples.unlined .phiReachable defaultRules).map Defect.code =
      ["empty-location-table"] := by decide +kernel
  have hmem : d.code ∈ (defects Samples.unlined .phiReachable defaultRules).map Defect.code :=
    List.mem_map_of_mem hd
  rw [hcodes, List.mem_singleton, hcode] at hmem
  exact absurd hmem (by decide)

end SsaEdit
