/-
What a stricter policy reports more.

A report lists the defects in the order of the places of a body, and a laxer policy
breaks the rule at fewer places.  So the laxer report comes out of the stricter one when
the defects at some places are taken away: `Interleaves` keeps the order of what stays
and of what is taken.  Only the rule for the use of a value depends on the policy
(`Site.waived_code`), and between the strictest policy and the next it is given up just
for the values that a phi carries around a loop (`filter_loopCarried`).
-/
import Mathlib.Data.List.Permutation
import SsaEdit.Proofs.Validation.Exact

namespace SsaEdit

/-! ## Lists told apart -/

/-- A list is made of two others, and the order of each is kept. -/
inductive Interleaves {α : Type} : List α → List α → List α → Prop
  | nil : Interleaves [] [] []
  | left (a : α) {xs ys zs : List α} (rest : Interleaves xs ys zs) :
    Interleaves (a :: xs) ys (a :: zs)
  | right (a : α) {xs ys zs : List α} (rest : Interleaves xs ys zs) :
    Interleaves xs (a :: ys) (a :: zs)

namespace Interleaves

variable {α : Type} {xs ys zs : List α}

theorem alone (xs : List α) : Interleaves xs [] xs := by
  induction xs with
  | nil => exact .nil
  | cons a xs ih => exact .left a ih

theorem append {xs' ys' zs' : List α} (h : Interleaves xs ys zs) (h' : Interleaves xs' ys' zs') :
    Interleaves (xs ++ xs') (ys ++ ys') (zs ++ zs') := by
  induction h with
  | nil => exact h'
  | left a _ ih => exact .left a ih
  | right a _ ih => exact .right a ih

theorem sublist (h : Interleaves xs ys zs) : xs.Sublist zs := by
  induction h with
  | nil => exact .slnil
  | left a _ ih => exact ih.cons_cons a
  | right a _ ih => exact ih.cons a

end Interleaves

/-! ## Laxer policies -/

/-- How much a policy lets pass. -/
def ForwardPolicy.leniency : ForwardPolicy → Nat
  | .reject => 0
  | .phiReachable => 1
  | .allow => 2

variable {ir : IR} {count : Int} {policy strict lax : ForwardPolicy}

theorem IR.MayUse.mono (hle : strict.leniency ≤ lax.leniency) {i t : Nat} {n : Node}
    (h : ir.MayUse strict i n t) : ir.MayUse lax i n t := by
  rcases h with hbefore | rfl | ⟨rfl, hphi, hpath⟩
  · exact Or.inl hbefore
  · cases lax with
    | allow => exact Or.inr (Or.inl rfl)
    | reject | phiReachable => exact absurd hle (by decide)
  · cases lax with
    | allow => exact Or.inr (Or.inl rfl)
    | phiReachable => exact Or.inr (Or.inr ⟨rfl, hphi, hpath⟩)
    | reject => exact absurd hle (by decide)

namespace Site

/-- What a report tells of a place where the rule is broken. -/
def placed (ir : IR) (site : Site) : String × Option Value := (site.code ir, site.statement ir)

theorem Holds.mono (hle : strict.leniency ≤ lax.leniency) {site : Site}
    (h : site.Holds ir count strict) : site.Holds ir count lax := by
  cases site with
  | reference i n r =>
    cases r with
    | label l => exact h
    | value v => exact ⟨h.1, h.2.mono hle⟩
  | _ => exact h

/-- The one rule that a policy can give up is that values are computed before they are
used. -/
theorem waived_code {site : Site} (hstrict : ¬ site.Holds ir count strict)
    (hlax : site.Holds ir count lax) : site.code ir = "forward-reference" := by
  cases site with
  | reference i n r =>
    cases r with
    | label l => exact absurd hlax hstrict
    | value v => exact if_pos (IR.inRange_iff.2 hlax.1)
  | _ => exact absurd hlax hstrict

end Site

/-! ## The reports of two policies -/

/-- What a report tells of its defects apart from wordings and severities. -/
def Report.placed (report : Report) : List (String × Option Value) :=
  report.defects.map fun d => (d.code, d.statement)

/-- Of the same places, a stricter policy reports what a laxer one does, and besides it
the places where the laxer alone is content. -/
theorem Reports.interleaves {sites : List Site} {waived : Site → Bool}
    (hle : strict.leniency ≤ lax.leniency)
    (hwaived : ∀ site ∈ sites,
      waived site = true ↔ ¬ site.Holds ir count strict ∧ site.Holds ir count lax)
    {defects fewer : List Defect} (h : Reports ir count strict sites defects)
    (h' : Reports ir count lax sites fewer) :
    Interleaves (fewer.map fun d => (d.code, d.statement))
      ((sites.filter waived).map (Site.placed ir))
      (defects.map fun d => (d.code, d.statement)) := by
  induction h generalizing fewer with
  | nil =>
    cases h'
    exact .nil
  | @holds site sites defects hholds _ ih =>
    obtain ⟨hsite, hsites⟩ := List.forall_mem_cons.1 hwaived
    have hkept : ¬ waived site = true := fun hw => (hsite.1 hw).1 hholds
    rw [List.filter_cons_of_neg hkept]
    cases h' with
    | holds _ hrest => exact ih hsites hrest
    | broken hbroken => exact absurd (hholds.mono hle) hbroken
  | @broken site sites d defects hbroken hcode hstatement _ ih =>
    obtain ⟨hsite, hsites⟩ := List.forall_mem_cons.1 hwaived
    cases h' with
    | holds hholds hrest =>
      rw [List.filter_cons_of_pos (hsite.2 ⟨hbroken, hholds⟩), List.map_cons, List.map_cons,
        hcode, hstatement]
      exact .right _ (ih hsites hrest)
    | broken hbroken' hcode' hstatement' hrest =>
      have hkept : ¬ waived site = true := fun hw => hbroken' (hsite.1 hw).2
      rw [List.filter_cons_of_neg hkept, List.map_cons, List.map_cons, hcode, hstatement, hcode',
        hstatement']
      exact .left _ (ih hsites hrest)

/-- The reports on a body under two policies, for any rules of the host. -/
theorem interleaves_defects (hcount : ir.nargs.number? = some (.int count))
    (hle : strict.leniency ≤ lax.leniency) (rules : List HostRule) {waived : Site → Bool}
    (hwaived : ∀ site, waived site = true ↔
      ¬ site.Holds ir count strict ∧ site.Holds ir count lax) :
    Interleaves (Report.mk (defects ir lax rules)).placed
      (((ir.numbered.flatMap fun (i, n) => IR.nodeSites i n).filter waived).map (Site.placed ir))
      (Report.mk (defects ir strict rules)).placed := by
  have hstrict : Reports ir count strict _ (referenceDefects ir strict) :=
    reports_referenceDefects hcount
  have hreferences := Reports.interleaves hle (fun site _ => hwaived site) hstrict
    (reports_referenceDefects hcount)
  simp only [Report.placed, defects, List.map_append]
  have hbefore := Interleaves.alone ((locationDefects ir).map fun d => (d.code, d.statement))
  have hafter := Interleaves.alone
    ((rules.flatMap fun rule => rule ir).map fun d => (d.code, d.statement))
  have hall := (hbefore.append hreferences).append hafter
  rwa [List.nil_append, List.append_nil] at hall

/-! ## Values carried around a loop -/

/-- Whether a statement refers to one that does not stand before it though control can get
there from it. -/
def IR.carriesBack (ir : IR) (i : Nat) (r : Reference) : Bool :=
  r.isValue && decide (i ≤ r.id ∧ Relation.TransGen ir.Flows i r.id)

/-- Every such value of every phi, as often as the phi merges it, with the number of the
phi. -/
def IR.loopCarried (ir : IR) : List (Nat × Reference) :=
  (ir.numbered.filter fun entry => entry.2.isPhi).flatMap fun entry =>
    (entry.2.references.filter (ir.carriesBack entry.1)).map fun r => (entry.1, r)

/-- What a report tells of the use of a value too early. -/
def forwardReference (use : Nat × Reference) : String × Option Value :=
  ("forward-reference", some (.variable ⟨use.1⟩))

/-- Whether a place is such a use of a value. -/
def Site.isLoopCarried (ir : IR) : Site → Bool
  | .reference i n r => n.isPhi && ir.carriesBack i r
  | _ => false

/-- Just there the strictest policy is broken and the next is not. -/
theorem Site.isLoopCarried_iff {site : Site} : site.isLoopCarried ir = true ↔
    ¬ site.Holds ir count .reject ∧ site.Holds ir count .phiReachable := by
  cases site with
  | reference i n r =>
    rw [isLoopCarried, IR.carriesBack, Bool.and_eq_true, Bool.and_eq_true, decide_eq_true_eq,
      Node.isPhi_iff]
    cases r with
    | label l => exact iff_of_false (fun h => Bool.false_ne_true h.2.1) fun h => h.1 h.2
    | value v =>
      constructor
      · rintro ⟨hphi, -, hlate, hpath⟩
        have hlate : i ≤ v.id := hlate
        have hrange : 1 ≤ v.id ∧ v.id ≤ ir.size := by
          have hmem := IR.mem_reachableFrom.2 (IR.reaches_iff.2 hpath)
          exact IR.inRange_iff.1 (IR.mem_ids.1 (List.mem_of_mem_filter hmem))
        refine ⟨?_, hrange, Or.inr (Or.inr ⟨rfl, hphi, hpath⟩)⟩
        rintro ⟨-, hbefore | hallow | ⟨hpolicy, -⟩⟩
        · omega
        · cases hallow
        · cases hpolicy
      · rintro ⟨hstrict, hrange, hbefore | hallow | ⟨-, hphi, hpath⟩⟩
        · exact absurd ⟨hrange, Or.inl hbefore⟩ hstrict
        · cases hallow
        · refine ⟨hphi, rfl, Nat.le_of_not_lt fun hbefore => ?_, hpath⟩
          exact hstrict ⟨hrange, Or.inl hbefore⟩
  | _ => exact iff_of_false Bool.false_ne_true fun h => h.1 h.2

theorem placed_of_isLoopCarried {i : Nat} {n : Node} {r : Reference}
    (h : (Site.reference i n r).isLoopCarried ir = true) :
    (Site.reference i n r).placed ir = forwardReference (i, r) := by
  obtain ⟨hstrict, hlax⟩ := (@Site.isLoopCarried_iff ir 0 _).1 h
  rw [Site.placed, Site.waived_code hstrict hlax]
  rfl

theorem filter_nodeSites (i : Nat) (n : Node) :
    ((IR.nodeSites i n).filter (Site.isLoopCarried ir)).map (Site.placed ir) =
      if n.isPhi then
        ((n.references.filter (ir.carriesBack i)).map fun r => (i, r)).map forwardReference
      else [] := by
  have harguments : (n.arguments.map (Site.argument i)).filter (Site.isLoopCarried ir) = [] := by
    simp [List.filter_eq_nil_iff, Site.isLoopCarried]
  rw [IR.nodeSites, List.filter_append, harguments, List.append_nil, List.filter_map, List.map_map,
    List.map_map]
  by_cases hphi : n.isPhi = true
  · have hfilter : Site.isLoopCarried ir ∘ Site.reference i n = ir.carriesBack i := by
      funext r
      simp [Site.isLoopCarried, hphi]
    rw [if_pos hphi, hfilter]
    refine List.map_congr_left fun r hr => placed_of_isLoopCarried ?_
    rw [Site.isLoopCarried, hphi, (List.mem_filter.1 hr).2, Bool.and_self]
  · have hfilter : n.references.filter (Site.isLoopCarried ir ∘ Site.reference i n) = [] := by
      simp [List.filter_eq_nil_iff, Site.isLoopCarried, hphi]
    rw [if_neg hphi, hfilter, List.map_nil]

theorem filter_loopCarried (nodes : List (Nat × Node)) :
    ((nodes.flatMap fun (i, n) => IR.nodeSites i n).filter (Site.isLoopCarried ir)).map
        (Site.placed ir) =
      ((nodes.filter fun entry => entry.2.isPhi).flatMap fun entry =>
        (entry.2.references.filter (ir.carriesBack entry.1)).map fun r => (entry.1, r)).map
          forwardReference := by
  induction nodes with
  | nil => rfl
  | cons entry rest ih =>
    rw [List.flatMap_cons, List.filter_append, List.map_append, ih, filter_nodeSites]
    cases hphi : entry.2.isPhi with
    | true => simp only [List.filter_cons, hphi, if_true, List.flatMap_cons, List.map_append]
    | false => simp only [List.filter_cons, hphi, Bool.false_eq_true, if_false, List.nil_append]

open Classical in
/-- The laxer of two policies reports what the stricter does but for some uses of values
too early, in the same order.  Between the strictest and the next these are the values
that phis carry around loops, one defect for every use. -/
theorem validate_monotone (hcount : ir.nargs.number? = some (.int count))
    (rules : List HostRule) :
    ∃ report : ForwardPolicy → Report,
      (∀ policy, validate ir policy rules = .ok (report policy)) ∧
      (report .allow).placed.Sublist (report .phiReachable).placed ∧
      (report .phiReachable).placed.Sublist (report .reject).placed ∧
      (∀ strict lax : ForwardPolicy, strict.leniency ≤ lax.leniency →
        ∃ waived : List (String × Option Value), (∀ place ∈ waived, place.1 = "forward-reference") ∧
          Interleaves (report lax).placed waived (report strict).placed) ∧
      Interleaves (report .phiReachable).placed (ir.loopCarried.map forwardReference)
        (report .reject).placed := by
  have hnumber : ir.nargs.number? ≠ none := hcount.trans_ne (Option.some_ne_none _)
  have hwaived : ∀ strict lax : ForwardPolicy, strict.leniency ≤ lax.leniency →
      ∃ waived : List (String × Option Value), (∀ place ∈ waived, place.1 = "forward-reference") ∧
        Interleaves (Report.mk (defects ir lax rules)).placed waived
          (Report.mk (defects ir strict rules)).placed := by
    intro strict lax hle
    refine ⟨_, ?_, interleaves_defects hcount hle rules fun site => decide_eq_true_iff⟩
    intro place hplace
    obtain ⟨site, hsite, rfl⟩ := List.mem_map.1 hplace
    obtain ⟨hstrict, hlax⟩ := of_decide_eq_true (List.mem_filter.1 hsite).2
    exact Site.waived_code hstrict hlax
  have hcarried : Interleaves (Report.mk (defects ir .phiReachable rules)).placed _
      (Report.mk (defects ir .reject rules)).placed :=
    interleaves_defects hcount (by decide) rules fun site => Site.isLoopCarried_iff
  rw [filter_loopCarried] at hcarried
  obtain ⟨_, -, hallow⟩ := hwaived .phiReachable .allow (by decide)
  exact ⟨fun policy => ⟨defects ir policy rules⟩, fun policy => validate_by hnumber policy rules,
    hallow.sublist, hcarried.sublist, hwaived, hcarried⟩

/-- A phi that merges its own value twice, and one value from behind its block. -/
def Samples.selfMerging : IR where
  name := "f"
  nargs := .int 0
  slots := []
  lineTable := [⟨none, 1, none⟩]
  body :=
    [⟨.phi [(⟨1⟩, .variable ⟨1⟩), (⟨1⟩, .variable ⟨3⟩), (⟨2⟩, .variable ⟨1⟩)], .unknown⟩,
     ⟨.branch ⟨1⟩ .null, .unknown⟩,
     ⟨.ret (.variable ⟨1⟩), .unknown⟩]
  locations := [.int 0, .int 0, .int 0]
  metadata := []

/-- Of its three early uses two are carried around the loop, one before and one after the
third, so the report of the strictest policy has two defects more. -/
theorem validate_monotone_selfMerging :
    Samples.selfMerging.nargs.number? = some (.int 0) ∧
    Samples.selfMerging.loopCarried = [(1, .value ⟨1⟩), (1, .value ⟨1⟩)] ∧
    ∃ report : ForwardPolicy → Report,
      (∀ policy, validate Samples.selfMerging policy [terminatorRule] = .ok (report policy)) ∧
      Interleaves (report .phiReachable).placed
        ([(1, .value ⟨1⟩), (1, .value ⟨1⟩)].map forwardReference) (report .reject).placed := by
  have hcount : Samples.selfMerging.nargs.number? = some (.int 0) := rfl
  have hcarries : Samples.selfMerging.loopCarried = [(1, .value ⟨1⟩), (1, .value ⟨1⟩)] := by cbv
  obtain ⟨report, hreport, -, -, -, hcarried⟩ := validate_monotone hcount [terminatorRule]
  rw [hcarries] at hcarried
  exact ⟨hcount, hcarries, report, hreport, hcarried⟩

end SsaEdit
