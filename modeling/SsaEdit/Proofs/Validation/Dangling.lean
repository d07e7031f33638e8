/-
The dangling references of a report.

Of the defects of a body those about missing statements stand for the occurrences of
references that are out of range, one for one and in order.  Every other place of a
body has a code of another kind.
-/
import SsaEdit.Proofs.Validation.Exact

namespace SsaEdit

/-- The code of the defect that a reference to no statement is. -/
def Reference.danglingCode : Reference → String
  | .label _ => "dangling-label"
  | .value _ => "dangling-reference"

@[simp] theorem Reference.danglingCode_withId (r : Reference) (k : Nat) :
    (r.withId k).danglingCode = r.danglingCode := by
  cases r <;> rfl

/-- Whether a code is about a reference to no statement. -/
def isDanglingCode (code : String) : Bool :=
  code == "dangling-label" || code == "dangling-reference"

/-- The defects of a report about references to no statement, each by its statement and
its code. -/
def Report.danglingDefects (report : Report) : List (Option Value × String) :=
  (report.defects.filter fun d => isDanglingCode d.code).map fun d => (d.statement, d.code)

/-- The references of a node to no statement. -/
def IR.missing (ir : IR) (n : Node) : List Reference :=
  n.references.filter fun r => !ir.inRange r.id

/-- The defects that they are when the node is that of statement `i`. -/
def IR.danglingAt (ir : IR) (i : Nat) (n : Node) : List (Option Value × String) :=
  (ir.missing n).map fun r => (some (.variable ⟨i⟩), r.danglingCode)

variable {ir : IR} {count : Int} {policy : ForwardPolicy}

/-- What a report says about a place if there is a reference to no statement. -/
def Site.dangling? (ir : IR) : Site → Option (Option Value × String)
  | .reference i _ r =>
    if ir.inRange r.id then none else some (some (.variable ⟨i⟩), r.danglingCode)
  | _ => none

namespace Site

theorem dangling?_of_holds {site : Site} (h : site.Holds ir count policy) :
    site.dangling? ir = none := by
  cases site with
  | reference i n r =>
    have hrange : ir.inRange r.id = true := by
      cases r with
      | label l => exact IR.inRange_iff.2 h
      | value v => exact IR.inRange_iff.2 h.1
    exact if_pos hrange
  | _ => rfl

/-- The codes tell references to no statement from all other faults. -/
theorem dangling?_of_broken {site : Site} (h : ¬ site.Holds ir count policy) :
    site.dangling? ir =
      if isDanglingCode (site.code ir) then some (site.statement ir, site.code ir) else none := by
  cases site with
  | reference i n r =>
    cases r with
    | label l =>
      have hrange : ¬ ir.inRange l.id = true := fun hrange => h (IR.inRange_iff.1 hrange)
      exact if_neg hrange
    | value v =>
      by_cases hrange : ir.inRange v.id = true
      · rw [code, if_pos hrange]
        exact if_pos hrange
      · rw [code, if_neg hrange]
        exact if_neg hrange
  | _ => rfl

end Site

theorem Reports.dangling {sites : List Site} {defects : List Defect}
    (h : Reports ir count policy sites defects) :
    (defects.filter fun d => isDanglingCode d.code).map (fun d => (d.statement, d.code)) =
      sites.filterMap (Site.dangling? ir) := by
  induction h with
  | nil => rfl
  | holds hholds _ ih => rw [List.filterMap_cons_none (Site.dangling?_of_holds hholds), ih]
  | @broken site _ d _ hbroken hcode hstatement _ ih =>
    rw [List.filterMap_cons, Site.dangling?_of_broken hbroken, List.filter_cons, ← hcode,
      ← hstatement, ← ih]
    cases isDanglingCode d.code <;> rfl

theorem filterMap_locationSites : ir.locationSites.filterMap (Site.dangling? ir) = [] := by
  rw [IR.locationSites, List.filterMap_cons_none rfl, List.filterMap_cons_none rfl]
  split
  · rfl
  · rw [List.filterMap_map]
    exact List.filterMap_none _

theorem filterMap_nodeSites (i : Nat) (n : Node) :
    (IR.nodeSites i n).filterMap (Site.dangling? ir) = ir.danglingAt i n := by
  have harguments : (n.arguments.map (Site.argument i)).filterMap (Site.dangling? ir) = [] := by
    rw [List.filterMap_map]
    exact List.filterMap_none _
  rw [IR.nodeSites, List.filterMap_append, harguments, List.append_nil, List.filterMap_map,
    IR.danglingAt, IR.missing, ← List.filterMap_eq_map, List.filterMap_filter]
  apply List.filterMap_congr
  intro r _
  rw [Function.comp_apply, Site.dangling?]
  cases ir.inRange r.id <;> rfl

theorem filterMap_phiSites (nodes : List (Nat × Node)) :
    (IR.phiSites nodes).filterMap (Site.dangling? ir) = [] := by
  rw [IR.phiSites, List.filterMap_map]
  exact List.filterMap_none _

/-- The report holds one defect for every reference to no statement, at the statement
that has it. -/
theorem Reports.danglingDefects_eq {report : Report}
    (h : Reports ir count policy ir.sites report.defects) :
    report.danglingDefects = ir.numbered.flatMap fun (i, n) => ir.danglingAt i n := by
  rw [Report.danglingDefects, h.dangling, IR.sites, List.filterMap_append, List.filterMap_append,
    filterMap_locationSites, List.filterMap_cons_none rfl, filterMap_phiSites, List.nil_append,
    List.append_nil, List.filterMap_flatMap]
  exact List.flatMap_congr fun entry _ => filterMap_nodeSites entry.1 entry.2

/-- With a line table and with a location for every statement, no defect is about the
locations as a whole. -/
theorem Reports.code_of_located {sites : List Site} {defects : List Defect}
    (h : Reports ir count policy sites defects) (hlines : ir.lineTable ≠ [])
    (hlength : ir.locations.length = ir.size) :
    ∀ d ∈ defects, d.code ≠ "empty-location-table" ∧ d.code ≠ "location-length-mismatch" := by
  induction h with
  | nil => exact fun _ hd => absurd hd List.not_mem_nil
  | holds _ _ ih => exact ih
  | @broken site _ d _ hbroken hcode _ _ ih =>
    rw [List.forall_mem_cons, hcode]
    refine ⟨?_, ih⟩
    cases site with
    | lineTable => exact absurd hlines hbroken
    | locationCount => exact absurd hlength hbroken
    | reference i n r =>
      cases r with
      | label l => simp [Site.code]
      | value v =>
        rw [Site.code]
        split <;> simp
    | location _ _ | argument _ _ | ending | phi _ => simp [Site.code]

end SsaEdit
