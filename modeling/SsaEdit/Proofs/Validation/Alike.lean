/-
Bodies that a validation cannot tell apart.

Of a node a validation reads its references and arguments, whether it is a phi, where
it can jump to and whether it is a terminator; of the rest of a body the argument
count, the locations and the size of the line table.  Bodies that agree on all this
are `Alike`.  They have the same places, with nodes that are alike, and at each place
the rule holds for both or for neither, so the reports are the same but for wordings.

Being alike is symmetric, so of every equivalence only one direction is argued.
-/
import SsaEdit.Proofs.Flow.Route
import SsaEdit.Proofs.Validation.Exact

namespace SsaEdit

/-- What a report tells about a defect apart from its wording. -/
def Defect.finding (d : Defect) : String × Option Value × String := (d.code, d.statement, d.severity)

def Report.findings (report : Report) : List (String × Option Value × String) :=
  report.defects.map Defect.finding

/-! ## Nodes and bodies -/

/-- Two nodes agree on all that a validation reads. -/
structure Node.Alike (m n : Node) : Prop where
  references : m.references = n.references
  arguments : m.arguments = n.arguments
  isPhi : m.isPhi = n.isPhi
  target : m.target? = n.target?
  isTerminator : m.isTerminator = n.isTerminator

/-- Two bodies agree on all that a validation reads. -/
structure IR.Alike (a b : IR) : Prop where
  nargs : a.nargs = b.nargs
  locations : a.locations = b.locations
  lines : a.lineTable.length = b.lineTable.length
  code : List.Forall₂ Node.Alike a.code b.code

namespace Node.Alike

variable {m n : Node}

theorem symm (h : m.Alike n) : n.Alike m :=
  ⟨h.references.symm, h.arguments.symm, h.isPhi.symm, h.target.symm, h.isTerminator.symm⟩

theorem branch {l : Label} {cond : Value} (h : Node.Alike (.branch l cond) n) :
    ∃ other, n = .branch l other := Node.eq_branch_of_target? h.target.symm

theorem phi {incoming : List (Label × Value)} (h : Node.Alike (.phi incoming) n) :
    ∃ others, n = .phi others := Node.isPhi_iff.1 h.isPhi.symm

theorem ret {value : Value} (h : Node.Alike (.ret value) n) : ∃ other, n = .ret other := by
  rcases isTerminator_iff.1 h.isTerminator.symm with hret | ⟨l, rfl⟩
  · exact hret
  · injection h.target

end Node.Alike

namespace IR.Alike

variable {a b : IR}

theorem symm (h : a.Alike b) : b.Alike a where
  nargs := h.nargs.symm
  locations := h.locations.symm
  lines := h.lines.symm
  code := h.code.flip.imp fun _ _ hnodes => hnodes.symm

theorem size (h : a.Alike b) : a.size = b.size := by
  have hlength := h.code.length_eq
  rwa [IR.length_code, IR.length_code] at hlength

theorem inRange (h : a.Alike b) (k : Nat) : a.inRange k = b.inRange k := by
  rw [IR.inRange, IR.inRange, h.size]

theorem node (h : a.Alike b) {i : Nat} {m : Node} (hm : a.node? i = some m) :
    ∃ n, b.node? i = some n ∧ m.Alike n := by
  have hrange := IR.inRange_of_node? hm
  obtain ⟨n, hn⟩ := IR.exists_node (h.inRange i ▸ hrange)
  obtain ⟨j, rfl⟩ : ∃ j, i = j + 1 := Nat.exists_eq_add_of_le' (IR.inRange_iff.1 hrange).1
  refine ⟨n, hn, ?_⟩
  rw [← IR.getElem?_code, List.getElem?_eq_some_iff] at hm hn
  obtain ⟨hj, rfl⟩ := hm
  obtain ⟨hj', rfl⟩ := hn
  exact h.code.get hj hj'

/-! ## Control flow -/

theorem flows (h : a.Alike b) {i j : Nat} (hflow : a.Flows i j) : b.Flows i j := by
  cases hflow with
  | jump here there =>
    obtain ⟨n, hn, hnodes⟩ := h.node here
    obtain ⟨cond, rfl⟩ := hnodes.branch
    exact .jump hn (h.inRange _ ▸ there)
  | next here passes there =>
    obtain ⟨n, hn, hnodes⟩ := h.node here
    exact .next hn (hnodes.isTerminator ▸ passes) (h.size ▸ there)

theorem startsBlock (h : a.Alike b) {i : Nat} (hstart : a.StartsBlock i) : b.StartsBlock i := by
  cases hstart with
  | first there => exact .first (h.size ▸ there)
  | target here there =>
    obtain ⟨n, hn, hnodes⟩ := h.node here
    obtain ⟨cond, rfl⟩ := hnodes.branch
    exact .target hn (h.inRange _ ▸ there)
  | afterBranch here there =>
    obtain ⟨n, hn, hnodes⟩ := h.node here
    obtain ⟨cond, rfl⟩ := hnodes.branch
    exact .afterBranch hn (h.size ▸ there)
  | afterReturn here there =>
    obtain ⟨n, hn, hnodes⟩ := h.node here
    obtain ⟨value, rfl⟩ := hnodes.ret
    exact .afterReturn hn (h.size ▸ there)

theorem inHead (h : a.Alike b) {i : Nat} (hhead : a.InHead i) : b.InHead i := by
  obtain ⟨l, hstart, hle, hphis⟩ := hhead
  refine ⟨l, h.startsBlock hstart, hle, fun k hk hki => ?_⟩
  obtain ⟨incoming, here⟩ := hphis k hk hki
  obtain ⟨n, hn, hnodes⟩ := h.node here
  obtain ⟨others, rfl⟩ := hnodes.phi
  exact ⟨others, hn⟩

theorem ends (h : a.Alike b) (hends : a.Ends) : b.Ends := by
  obtain ⟨m, here, hterminator⟩ := hends
  obtain ⟨n, hn, hnodes⟩ := h.node here
  refine ⟨n, h.size ▸ hn, isTerminator_iff.1 ?_⟩
  rw [← hnodes.isTerminator]
  exact isTerminator_iff.2 hterminator

theorem mayUse (h : a.Alike b) {policy : ForwardPolicy} {i t : Nat} {m n : Node}
    (hnodes : m.Alike n) (huse : a.MayUse policy i m t) : b.MayUse policy i n t := by
  rcases huse with hbefore | hallow | ⟨hpolicy, ⟨incoming, rfl⟩, hpath⟩
  · exact Or.inl hbefore
  · exact Or.inr (Or.inl hallow)
  · exact Or.inr (Or.inr ⟨hpolicy, hnodes.phi, Relation.TransGen.mono (fun _ _ => h.flows) _ _ hpath⟩)

end IR.Alike

/-! ## Places -/

/-- Two places are the same, but for the nodes they may name. -/
inductive Site.Alike : Site → Site → Prop
  | same (site : Site) : Alike site site
  | reference (i : Nat) (r : Reference) {m n : Node} (nodes : m.Alike n) :
    Alike (.reference i m r) (.reference i n r)

namespace Site.Alike

variable {a b : IR} {s t : Site}

theorem symm (h : s.Alike t) : t.Alike s := by
  cases h with
  | same => exact .same _
  | reference i r hnodes => exact .reference i r hnodes.symm

theorem holds_reference (hbodies : a.Alike b) {m n : Node} (hnodes : m.Alike n) {i : Nat}
    {r : Reference} {count : Int} {policy : ForwardPolicy}
    (hs : (Site.reference i m r).Holds a count policy) :
    (Site.reference i n r).Holds b count policy := by
  have hrange : ∀ k, 1 ≤ k ∧ k ≤ a.size → 1 ≤ k ∧ k ≤ b.size := fun _ hk => hbodies.size ▸ hk
  cases r with
  | label l => exact hrange l.id hs
  | value v => exact ⟨hrange v.id hs.1, hbodies.mayUse hnodes hs.2⟩

theorem holds (h : s.Alike t) (hbodies : a.Alike b) {count : Int} {policy : ForwardPolicy}
    (hs : s.Holds a count policy) : t.Holds b count policy := by
  cases h with
  | same =>
    cases s with
    | lineTable =>
      have hlines : a.lineTable ≠ [] := hs
      rw [← List.length_pos_iff, hbodies.lines, List.length_pos_iff] at hlines
      exact hlines
    | locationCount =>
      have hlocated : a.locations.length = a.size := hs
      rw [hbodies.locations, hbodies.size] at hlocated
      exact hlocated
    | location _ _ =>
      obtain ⟨k, hk, hlt⟩ := hs
      exact ⟨k, hk, hbodies.lines ▸ hlt⟩
    | reference => exact holds_reference hbodies ⟨rfl, rfl, rfl, rfl, rfl⟩ hs
    | argument _ _ => exact hs
    | ending => exact hbodies.ends hs
    | phi _ => exact hbodies.inHead hs
  | reference _ _ hnodes => exact holds_reference hbodies hnodes hs

theorem holds_iff (h : s.Alike t) (hbodies : a.Alike b) {count : Int} {policy : ForwardPolicy} :
    s.Holds a count policy ↔ t.Holds b count policy :=
  ⟨h.holds hbodies, h.symm.holds hbodies.symm⟩

theorem code_eq (h : s.Alike t) (hbodies : a.Alike b) : s.code a = t.code b := by
  have hreference : ∀ i m n r, (Site.reference i m r).code a = (Site.reference i n r).code b := by
    intro i m n r
    cases r with
    | label l => rfl
    | value v => simp only [Site.code, hbodies.inRange]
  cases h with
  | same =>
    cases s with
    | reference i n r => exact hreference i n n r
    | _ => rfl
  | reference i r _ => exact hreference i _ _ r

theorem statement_eq (h : s.Alike t) (hbodies : a.Alike b) : s.statement a = t.statement b := by
  cases h with
  | same => cases s <;> simp only [Site.statement, hbodies.size]
  | reference => rfl

end Site.Alike

/-! ## All places of a body -/

namespace IR

variable {a b : IR}

/-- Two numbered nodes with one number that are alike. -/
def EntriesAlike (x y : Nat × Node) : Prop := x.1 = y.1 ∧ x.2.Alike y.2

theorem entriesAlike_zip {xs ys : List Node} (h : List.Forall₂ Node.Alike xs ys) (start : Nat) :
    List.Forall₂ EntriesAlike ((List.range' start xs.length).zip xs)
      ((List.range' start ys.length).zip ys) := by
  induction h generalizing start with
  | nil => exact .nil
  | cons hnodes _ ih => exact .cons ⟨rfl, hnodes⟩ (ih (start + 1))

theorem Alike.numbered (h : a.Alike b) : List.Forall₂ EntriesAlike a.numbered b.numbered := by
  rw [IR.numbered, IR.numbered, ← IR.length_code, ← IR.length_code]
  exact entriesAlike_zip h.code 1

theorem alike_nodeSites {i : Nat} {m n : Node} (h : m.Alike n) :
    List.Forall₂ Site.Alike (nodeSites i m) (nodeSites i n) := by
  rw [nodeSites, nodeSites, h.references, h.arguments]
  refine List.rel_append ?_ (List.forall₂_same.2 fun site _ => .same site)
  exact List.rel_map (fun r s hrs => hrs ▸ .reference i r h) (List.forall₂_same.2 fun _ _ => rfl)

theorem alike_phiSites {xs ys : List (Nat × Node)} (h : List.Forall₂ EntriesAlike xs ys) :
    List.Forall₂ Site.Alike (phiSites xs) (phiSites ys) := by
  have hfiltered : List.Forall₂ EntriesAlike (xs.filter fun entry => entry.2.isPhi)
      (ys.filter fun entry => entry.2.isPhi) :=
    List.rel_filter (fun x y hxy => iff_of_eq (congrArg (· = true) hxy.2.isPhi)) h
  refine List.rel_map (fun x y hxy => ?_) hfiltered
  have hnumber : x.1 = y.1 := hxy.1
  rw [hnumber]
  exact .same _

theorem Alike.locationSites (h : a.Alike b) : a.locationSites = b.locationSites := by
  have hempty : a.lineTable.isEmpty = b.lineTable.isEmpty := by
    rw [Bool.eq_iff_iff, List.isEmpty_iff_length_eq_zero, List.isEmpty_iff_length_eq_zero, h.lines]
  rw [IR.locationSites, IR.locationSites, IR.numberedLocations, IR.numberedLocations, h.locations,
    hempty]

theorem Alike.sites (h : a.Alike b) : List.Forall₂ Site.Alike a.sites b.sites := by
  rw [IR.sites, IR.sites, h.locationSites]
  refine List.rel_append (List.rel_append ?_ ?_) (.cons (.same _) (alike_phiSites h.numbered))
  · exact List.forall₂_same.2 fun site _ => .same site
  · refine List.rel_flatMap h.numbered ?_
    rintro ⟨i, m⟩ ⟨_, n⟩ ⟨rfl, hnodes⟩
    exact alike_nodeSites hnodes

end IR

/-! ## Reports -/

section Reports

variable {a b : IR} {count : Int} {policy : ForwardPolicy}

/-- What is reported of the places of one body is reported of those of the other. -/
theorem Reports.placed_eq (hbodies : a.Alike b) {sites others : List Site}
    {defects found : List Defect} (hsites : List.Forall₂ Site.Alike sites others)
    (h : Reports a count policy sites defects) (h' : Reports b count policy others found) :
    defects.map (fun d => (d.code, d.statement)) = found.map fun d => (d.code, d.statement) := by
  induction hsites generalizing defects found with
  | nil =>
    cases h
    cases h'
    rfl
  | cons hsite _ ih =>
    cases h with
    | holds hholds hrest =>
      cases h' with
      | holds _ hrest' => exact ih hrest hrest'
      | broken hbroken => exact absurd ((hsite.holds_iff hbodies).1 hholds) hbroken
    | broken hbroken hcode hstatement hrest =>
      cases h' with
      | holds hholds => exact absurd ((hsite.holds_iff hbodies).2 hholds) hbroken
      | broken _ hcode' hstatement' hrest' =>
        rw [List.map_cons, List.map_cons, ih hrest hrest', hcode, hcode', hstatement, hstatement',
          hsite.code_eq hbodies, hsite.statement_eq hbodies]

/-! ## Whatever is found -/

theorem forall_mem_phiScan {p : Defect → Prop} (hphi : ∀ i, p (misplacedPhi i))
    {isLeader : Nat → Bool} {nodes : List (Nat × Node)} (inHead : Bool) :
    ∀ d ∈ phiScan isLeader inHead nodes, p d := by
  induction nodes generalizing inHead with
  | nil =>
    rw [phiScan]
    exact List.forall_mem_nil _
  | cons first rest ih =>
    obtain ⟨i, n⟩ := first
    cases n with
    | phi incoming =>
      rw [phiScan]
      refine List.forall_mem_append.2 ⟨fun d hd => ?_, ih _⟩
      obtain ⟨-, hd⟩ := List.mem_ite_nil_left.1 hd
      rw [List.mem_singleton.1 hd]
      exact hphi i
    | call _ _ | branch _ _ | ret _ | const _ | global _ | argument _ => exact ih _

/-- What holds of whatever is wrong with locations, with nodes, with the end and with the
place of a phi holds of all that the validation finds by itself. -/
theorem forall_mem_defects {p : Defect → Prop} (hlocation : ∀ d ∈ locationDefects a, p d)
    (hnode : ∀ i n, ∀ d ∈ nodeDefects a policy i n, p d) (hending : ∀ d ∈ terminatorRule a, p d)
    (hphi : ∀ i, p (misplacedPhi i)) : ∀ d ∈ defects a policy defaultRules, p d := by
  intro d h
  rw [defects, List.mem_append, List.mem_append] at h
  rcases h with (h | h) | h
  · exact hlocation d h
  · obtain ⟨entry, -, hd⟩ := List.mem_flatMap.1 h
    exact hnode _ _ d hd
  · obtain ⟨rule, hmem, hd⟩ := List.mem_flatMap.1 h
    rcases List.mem_cons.1 hmem with rfl | hmem
    · exact hending d hd
    · rw [List.mem_singleton.1 hmem] at hd
      exact forall_mem_phiScan hphi _ d hd

/-- The severity of a defect that is written out. -/
theorem severity_mk {d : Defect} {code : String} {message : Text} {statement : Option Value}
    {severity : String} (h : (⟨code, message, statement, severity⟩ : Defect) = d) :
    d.severity = severity := h ▸ rfl

theorem severity_of_referenceDefect? {i : Nat} {isPhi : Bool} {reachable : Nat → Bool}
    {r : Reference} {d : Defect} (h : referenceDefect? a policy i isPhi reachable r = some d) :
    d.severity = "error" := by
  unfold referenceDefect? at h
  dsimp only at h
  repeat' split at h
  all_goals
    first
    | exact severity_mk (Option.some.inj h)
    | injection h

theorem severity_of_mem_locationDefects {d : Defect} (h : d ∈ locationDefects a) :
    d.severity = "error" := by
  rw [locationDefects, List.mem_append, List.mem_append] at h
  rcases h with (htable | hcount) | hsingle
  · obtain ⟨-, htable⟩ := List.mem_ite_nil_right.1 htable
    exact severity_mk (List.mem_singleton.1 htable).symm
  · obtain ⟨-, hcount⟩ := List.mem_ite_nil_left.1 hcount
    exact severity_mk (List.mem_singleton.1 hcount).symm
  · obtain ⟨-, hsingle⟩ := List.mem_ite_nil_left.1 hsingle
    obtain ⟨entry, -, hd⟩ := List.mem_filterMap.1 hsingle
    dsimp only [locationDefect?] at hd
    split at hd
    · injection hd
    · injection hd with hd
      exact severity_mk hd

theorem severity_of_mem_nodeDefects {i : Nat} {n : Node} {d : Defect}
    (h : d ∈ nodeDefects a policy i n) : d.severity = "error" := by
  rcases List.mem_append.1 h with href | harg
  · obtain ⟨r, -, hd⟩ := List.mem_filterMap.1 href
    exact severity_of_referenceDefect? hd
  · obtain ⟨index, -, hd⟩ := List.mem_filterMap.1 harg
    rw [argumentDefect?] at hd
    split at hd
    · injection hd
    · injection hd with hd
      exact severity_mk hd

theorem severity_of_mem_terminatorRule {d : Defect} (h : d ∈ terminatorRule a) :
    d.severity = "error" := by
  rw [terminatorRule] at h
  split at h
  · exact severity_mk (List.mem_singleton.1 h).symm
  · obtain ⟨-, h⟩ := List.mem_ite_nil_left.1 h
    exact severity_mk (List.mem_singleton.1 h).symm

/-- Whatever the validation finds by itself is an error. -/
theorem severity_of_mem_defects {d : Defect} (h : d ∈ defects a policy defaultRules) :
    d.severity = "error" :=
  forall_mem_defects (p := fun d => d.severity = "error")
    (fun _ => severity_of_mem_locationDefects) (fun _ _ _ => severity_of_mem_nodeDefects)
    (fun _ => severity_of_mem_terminatorRule) (fun _ => rfl) d h

/-- Of bodies that are alike the same is found. -/
theorem findings_eq (hbodies : a.Alike b) (hcount : a.nargs.number? = some (.int count))
    (policy : ForwardPolicy) :
    (defects a policy defaultRules).map Defect.finding =
      (defects b policy defaultRules).map Defect.finding := by
  have hplaced : ∀ c : IR, (defects c policy defaultRules).map Defect.finding =
      ((defects c policy defaultRules).map fun d => (d.code, d.statement)).map fun placed =>
        (placed.1, placed.2, "error") := by
    intro c
    rw [List.map_map]
    refine List.map_congr_left fun d hd => ?_
    rw [Defect.finding, severity_of_mem_defects hd]
    rfl
  rw [hplaced a, hplaced b, Reports.placed_eq hbodies hbodies.sites (reports_defects hcount)
    (reports_defects (hbodies.nargs ▸ hcount))]

end Reports

end SsaEdit
