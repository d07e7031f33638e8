/-
The rules that a body has to obey.

`IR.Sound` says what a body without a defect is, by its fields and its flow of control
alone.  The same is said once more place by place: `IR.sites` lists what a rule speaks
about, every occurrence of a reference or of an argument for itself, and `Site.Holds`
is the rule for one of them.  `sound_iff` ties the two together.

In an empty line table no location is looked up; then the missing table is the one
fault of them all.
-/
import SsaEdit.Proofs.Flow.Blocks
import SsaEdit.Validation

namespace SsaEdit

/-! ## What a node mentions -/

namespace Value

theorem mem_operandReferences {v : Value} {r : Reference} :
    r ∈ v.operandReferences ↔ ∃ x, v = .variable x ∧ r = .value x := by
  unfold operandReferences
  split
  · simp
  · rename_i hnot
    constructor
    · exact fun hr => absurd hr List.not_mem_nil
    · rintro ⟨x, hx, -⟩
      exact (hnot x hx).elim

theorem argument?_eq_some {v : Value} {index : Int} :
    v.argument? = some index ↔ v = .node (.argument index) := by
  unfold argument?
  split
  · simp
  · rename_i hnot
    constructor
    · exact fun hnone => absurd hnone.symm (Option.some_ne_none index)
    · exact fun hv => (hnot index hv).elim

theorem mem_filterMap_argument? {values : List Value} {index : Int} :
    index ∈ values.filterMap argument? ↔ .node (.argument index) ∈ values := by
  simp only [List.mem_filterMap, argument?_eq_some, exists_eq_right]

end Value

namespace Node

/-- The fields of a node in which a reference stands. -/
inductive Embeds : Node → Reference → Prop
  | callee (v : Variable) (args : List Value) : Embeds (.call (.variable v) args) (.value v)
  | arg (callee : Value) {args : List Value} {v : Variable} (h : .variable v ∈ args) :
    Embeds (.call callee args) (.value v)
  | target (l : Label) (cond : Value) : Embeds (.branch l cond) (.label l)
  | cond (l : Label) (v : Variable) : Embeds (.branch l (.variable v)) (.value v)
  | returned (v : Variable) : Embeds (.ret (.variable v)) (.value v)
  | edge {incoming : List (Label × Value)} {l : Label} {value : Value}
    (h : (l, value) ∈ incoming) : Embeds (.phi incoming) (.label l)
  | merged {incoming : List (Label × Value)} {l : Label} {v : Variable}
    (h : (l, .variable v) ∈ incoming) : Embeds (.phi incoming) (.value v)

/-- The fields of a node in which the number of an argument stands. -/
inductive Takes : Node → Int → Prop
  | itself (index : Int) : Takes (.argument index) index
  | callee (index : Int) (args : List Value) : Takes (.call (.node (.argument index)) args) index
  | arg (callee : Value) {args : List Value} {index : Int} (h : .node (.argument index) ∈ args) :
    Takes (.call callee args) index
  | cond (l : Label) (index : Int) : Takes (.branch l (.node (.argument index))) index
  | returned (index : Int) : Takes (.ret (.node (.argument index))) index
  | merged {incoming : List (Label × Value)} {l : Label} {index : Int}
    (h : (l, .node (.argument index)) ∈ incoming) : Takes (.phi incoming) index

theorem isPhi_iff {n : Node} : n.isPhi = true ↔ ∃ incoming, n = .phi incoming := by
  constructor
  · intro hphi
    cases n with
    | phi incoming => exact ⟨incoming, rfl⟩
    | call _ _ | branch _ _ | ret _ | const _ | global _ | argument _ =>
      exact absurd hphi Bool.false_ne_true
  · rintro ⟨incoming, rfl⟩
    rfl

theorem mem_references {n : Node} {r : Reference} : r ∈ n.references ↔ n.Embeds r := by
  constructor
  · intro h
    cases n with
    | call callee args =>
      rw [references, List.mem_append, List.mem_flatMap] at h
      rcases h with hcallee | ⟨arg, harg, hr⟩
      · obtain ⟨v, rfl, rfl⟩ := Value.mem_operandReferences.1 hcallee
        exact .callee v args
      · obtain ⟨v, rfl, rfl⟩ := Value.mem_operandReferences.1 hr
        exact .arg callee harg
    | branch target cond =>
      rw [references, List.mem_cons] at h
      rcases h with rfl | hcond
      · exact .target target cond
      · obtain ⟨v, rfl, rfl⟩ := Value.mem_operandReferences.1 hcond
        exact .cond target v
    | ret value =>
      obtain ⟨v, rfl, rfl⟩ := Value.mem_operandReferences.1 h
      exact .returned v
    | phi incoming =>
      rw [references, List.mem_flatMap] at h
      obtain ⟨⟨l, value⟩, hedge, hr⟩ := h
      rcases List.mem_cons.1 hr with rfl | hvalue
      · exact .edge hedge
      · obtain ⟨v, hv, rfl⟩ := Value.mem_operandReferences.1 hvalue
        have hv : value = .variable v := hv
        subst hv
        exact .merged hedge
    | const _ | global _ | argument _ => exact absurd h List.not_mem_nil
  · intro h
    cases h with
    | callee v args => exact List.mem_append_left _ List.mem_cons_self
    | arg callee harg =>
      exact List.mem_append_right _ (List.mem_flatMap.2 ⟨_, harg, List.mem_cons_self⟩)
    | target l cond => exact List.mem_cons_self
    | cond l v => exact List.mem_cons_of_mem _ List.mem_cons_self
    | returned v => exact List.mem_cons_self
    | edge hedge => exact List.mem_flatMap.2 ⟨_, hedge, List.mem_cons_self⟩
    | merged hedge =>
      exact List.mem_flatMap.2 ⟨_, hedge, List.mem_cons_of_mem _ List.mem_cons_self⟩

theorem mem_arguments {n : Node} {index : Int} : index ∈ n.arguments ↔ n.Takes index := by
  constructor
  · intro h
    cases n with
    | argument k => exact List.mem_singleton.1 h ▸ .itself k
    | call callee args =>
      rcases List.mem_cons.1 (Value.mem_filterMap_argument?.1 h) with rfl | harg
      · exact .callee index args
      · exact .arg callee harg
    | branch target cond =>
      have hcond := Value.mem_filterMap_argument?.1 h
      rw [operands] at hcond
      split at hcond
      · exact absurd hcond List.not_mem_nil
      · exact List.mem_singleton.1 hcond ▸ .cond target index
    | ret value =>
      exact List.mem_singleton.1 (Value.mem_filterMap_argument?.1 h) ▸ .returned index
    | phi incoming =>
      obtain ⟨⟨l, value⟩, hedge, hvalue⟩ := List.mem_map.1 (Value.mem_filterMap_argument?.1 h)
      have hvalue : value = .node (.argument index) := hvalue
      subst hvalue
      exact .merged hedge
    | const _ | global _ => exact absurd h List.not_mem_nil
  · intro h
    cases h with
    | itself _ => exact List.mem_cons_self
    | callee _ args => exact Value.mem_filterMap_argument?.2 List.mem_cons_self
    | arg callee harg => exact Value.mem_filterMap_argument?.2 (List.mem_cons_of_mem _ harg)
    | cond l _ => exact Value.mem_filterMap_argument?.2 List.mem_cons_self
    | returned _ => exact Value.mem_filterMap_argument?.2 List.mem_cons_self
    | merged hedge =>
      exact Value.mem_filterMap_argument?.2 (List.mem_map.2 ⟨_, hedge, rfl⟩)

end Node

/-! ## Bodies without a defect -/

namespace IR

variable {ir : IR}

/-- A location is the number of a line. -/
def HasLine (ir : IR) (location : Value) : Prop :=
  ∃ k : Nat, location = .int k ∧ k < ir.lineTable.length

/-- Statement `i` may use the value of statement `t` under a policy: an earlier one
always, and any other only by leave of the policy. -/
def MayUse (ir : IR) (policy : ForwardPolicy) (i : Nat) (n : Node) (t : Nat) : Prop :=
  t < i ∨ policy = .allow ∨
    policy = .phiReachable ∧ (∃ incoming, n = .phi incoming) ∧ Relation.TransGen ir.Flows i t

/-- The last statement never passes control on. -/
def Ends (ir : IR) : Prop :=
  ∃ n, ir.node? ir.size = some n ∧ ((∃ value, n = .ret value) ∨ ∃ target, n = .branch target .null)

/-- A body without a defect, when it has `count` arguments. -/
structure Sound (ir : IR) (count : Int) (policy : ForwardPolicy) : Prop where
  lines : ir.lineTable ≠ []
  located : ir.locations.length = ir.size
  locations : ∀ location ∈ ir.locations, ir.HasLine location
  labels : ∀ i n l, ir.node? i = some n → n.Embeds (.label l) → 1 ≤ l.id ∧ l.id ≤ ir.size
  values : ∀ i n v, ir.node? i = some n → n.Embeds (.value v) →
    (1 ≤ v.id ∧ v.id ≤ ir.size) ∧ ir.MayUse policy i n v.id
  arguments : ∀ i n index, ir.node? i = some n → n.Takes index → 1 ≤ index ∧ index ≤ count
  ends : ir.Ends
  phis : ∀ i, ir.IsPhi i → ir.InHead i

end IR

/-! ## The rules place by place -/

/-- What a rule speaks about: the line table, the number of locations, one location,
one reference or argument of a statement, the end of the body, or a phi. -/
inductive Site
  | lineTable
  | locationCount
  | location (i : Nat) (value : Value)
  | reference (i : Nat) (n : Node) (r : Reference)
  | argument (i : Nat) (index : Int)
  | ending
  | phi (i : Nat)

namespace Site

/-- The rule at one place of a body. -/
def Holds (ir : IR) (count : Int) (policy : ForwardPolicy) : Site → Prop
  | .lineTable => ir.lineTable ≠ []
  | .locationCount => ir.locations.length = ir.size
  | .location _ value => ir.HasLine value
  | .reference _ _ (.label l) => 1 ≤ l.id ∧ l.id ≤ ir.size
  | .reference i n (.value v) => (1 ≤ v.id ∧ v.id ≤ ir.size) ∧ ir.MayUse policy i n v.id
  | .argument _ index => 1 ≤ index ∧ index ≤ count
  | .ending => ir.Ends
  | .phi i => ir.InHead i

/-- The code of the defect when the rule is broken. -/
def code (ir : IR) : Site → String
  | .lineTable => "empty-location-table"
  | .locationCount => "location-length-mismatch"
  | .location _ _ => "location-out-of-range"
  | .reference _ _ (.label _) => "dangling-label"
  | .reference _ _ (.value v) =>
    if ir.inRange v.id then "forward-reference" else "dangling-reference"
  | .argument _ _ => "argument-out-of-range"
  | .ending => "missing-terminator"
  | .phi _ => "misplaced-phi"

/-- The statement that is at fault.  Surplus locations are those of no statement, and
an empty body has no last one. -/
def statement (ir : IR) : Site → Option Value
  | .lineTable | .locationCount => none
  | .location i _ => if i ≤ ir.size then some (.variable ⟨i⟩) else none
  | .reference i _ _ | .argument i _ | .phi i => some (.variable ⟨i⟩)
  | .ending => if ir.size = 0 then none else some (.variable ⟨ir.size⟩)

end Site

namespace IR

variable {ir : IR}

/-- The locations with their numbers. -/
def numberedLocations (ir : IR) : List (Nat × Value) :=
  (List.range' 1 ir.locations.length).zip ir.locations

/-- The places of a body that concern its locations. -/
def locationSites (ir : IR) : List Site :=
  .lineTable :: .locationCount ::
    if ir.lineTable.isEmpty then []
    else ir.numberedLocations.map fun (i, value) => .location i value

/-- The references and arguments of a statement, one after the other. -/
def nodeSites (i : Nat) (n : Node) : List Site :=
  n.references.map (.reference i n) ++ n.arguments.map (.argument i)

def phiSites (nodes : List (Nat × Node)) : List Site :=
  (nodes.filter fun entry => entry.2.isPhi).map fun entry => .phi entry.1

/-- Every place of a body that a rule speaks about. -/
def sites (ir : IR) : List Site :=
  ir.locationSites ++ (ir.numbered.flatMap fun (i, n) => nodeSites i n) ++
    .ending :: phiSites ir.numbered

theorem mem_nodeSites {site : Site} {i : Nat} {n : Node} : site ∈ nodeSites i n ↔
    (∃ r, n.Embeds r ∧ site = .reference i n r) ∨
      ∃ index, n.Takes index ∧ site = .argument i index := by
  simp only [nodeSites, List.mem_append, List.mem_map, Node.mem_references, Node.mem_arguments,
    eq_comm]

theorem isPhi_iff {i : Nat} : ir.IsPhi i ↔ ∃ n, ir.node? i = some n ∧ n.isPhi = true := by
  constructor
  · rintro ⟨incoming, hn⟩
    exact ⟨_, hn, rfl⟩
  · rintro ⟨n, hn, hphi⟩
    obtain ⟨incoming, rfl⟩ := Node.isPhi_iff.1 hphi
    exact ⟨incoming, hn⟩

/-- What the places of a body are. -/
inductive HasSite (ir : IR) : Site → Prop
  | lineTable : HasSite ir .lineTable
  | locationCount : HasSite ir .locationCount
  | location {i : Nat} {value : Value} (lined : ir.lineTable ≠ [])
    (h : (i, value) ∈ ir.numberedLocations) : HasSite ir (.location i value)
  | reference {i : Nat} {n : Node} {r : Reference} (here : ir.node? i = some n) (h : n.Embeds r) :
    HasSite ir (.reference i n r)
  | argument {i : Nat} {n : Node} {index : Int} (here : ir.node? i = some n) (h : n.Takes index) :
    HasSite ir (.argument i index)
  | ending : HasSite ir .ending
  | phi {i : Nat} (h : ir.IsPhi i) : HasSite ir (.phi i)

theorem mem_sites {site : Site} : site ∈ ir.sites ↔ ir.HasSite site := by
  simp only [sites, locationSites, phiSites, List.mem_append, List.mem_cons, List.mem_map,
    List.mem_ite_nil_left, List.mem_flatMap, List.mem_filter, Prod.exists, mem_nodeSites,
    mem_numbered, List.isEmpty_iff]
  constructor
  · rintro (((rfl | rfl | ⟨hlined, i, value, hmem, rfl⟩) |
      ⟨i, n, hn, (⟨r, hr, rfl⟩ | ⟨index, hindex, rfl⟩)⟩) | (rfl | ⟨i, n, ⟨hn, hphi⟩, rfl⟩))
    · exact .lineTable
    · exact .locationCount
    · exact .location hlined hmem
    · exact .reference hn hr
    · exact .argument hn hindex
    · exact .ending
    · exact .phi (isPhi_iff.2 ⟨n, hn, hphi⟩)
  · intro h
    cases h with
    | lineTable => exact Or.inl (Or.inl (Or.inl rfl))
    | locationCount => exact Or.inl (Or.inl (Or.inr (Or.inl rfl)))
    | location hlined hmem =>
      exact Or.inl (Or.inl (Or.inr (Or.inr ⟨hlined, _, _, hmem, rfl⟩)))
    | reference hn hr => exact Or.inl (Or.inr ⟨_, _, hn, Or.inl ⟨_, hr, rfl⟩⟩)
    | argument hn hindex => exact Or.inl (Or.inr ⟨_, _, hn, Or.inr ⟨_, hindex, rfl⟩⟩)
    | ending => exact Or.inr (Or.inl rfl)
    | phi hphi =>
      obtain ⟨n, hn, hisPhi⟩ := isPhi_iff.1 hphi
      exact Or.inr (Or.inr ⟨_, n, ⟨hn, hisPhi⟩, rfl⟩)

/-- A body is without a defect when the rules hold at every place of it. -/
theorem sound_iff {count : Int} {policy : ForwardPolicy} :
    ir.Sound count policy ↔ ∀ site ∈ ir.sites, site.Holds ir count policy := by
  constructor
  · intro h site hsite
    cases mem_sites.1 hsite with
    | lineTable => exact h.lines
    | locationCount => exact h.located
    | location _ hmem => exact h.locations _ (List.of_mem_zip hmem).2
    | @reference i n r hn hr =>
      cases r with
      | label l => exact h.labels i n l hn hr
      | value v => exact h.values i n v hn hr
    | argument hn hindex => exact h.arguments _ _ _ hn hindex
    | ending => exact h.ends
    | phi hphi => exact h.phis _ hphi
  · intro h
    have hlines : ir.lineTable ≠ [] := h _ (mem_sites.2 .lineTable)
    refine ⟨hlines, h _ (mem_sites.2 .locationCount), ?_, ?_, ?_, ?_, h _ (mem_sites.2 .ending), ?_⟩
    · intro location hlocation
      have hsnd := List.map_snd_zip
        (show ir.locations.length ≤ (List.range' 1 ir.locations.length).length by simp)
      rw [← hsnd] at hlocation
      obtain ⟨⟨i, value⟩, hmem, rfl⟩ := List.mem_map.1 hlocation
      exact h (.location i value) (mem_sites.2 (.location hlines hmem))
    · intro i n l hn hl
      exact h (.reference i n (.label l)) (mem_sites.2 (.reference hn hl))
    · intro i n v hn hv
      exact h (.reference i n (.value v)) (mem_sites.2 (.reference hn hv))
    · intro i n index hn hindex
      exact h (.argument i index) (mem_sites.2 (.argument hn hindex))
    · intro i hphi
      exact h (.phi i) (mem_sites.2 (.phi hphi))

end IR
end SsaEdit
