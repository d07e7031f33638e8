/-
The bodies that a listing can hold.

A listing has room for literals, for arguments, for globals of the namespace that
it is read into, and for references; it has none for what belongs to the host.
Texts have to be narrow, because a code point above U+FFFF comes back as two, and
numbers short, because the reader refuses long ones.  An operand that a listing can
hold is printed as one token, whose value is the operand.
-/
import SsaEdit.Proofs.Listing.Scan

namespace SsaEdit
namespace Listing

/-! ## Values, nodes and bodies -/

/-- A literal of the textual form. -/
def Literal : Value → Prop
  | .null => True
  | .bool _ => True
  | .int n => Short n.natAbs
  | .float _ => True
  | .text t => t.Narrow
  | _ => False

/-- A global that is found again under its bare name. -/
def Named (home : Namespace) (g : GlobalRef) : Prop :=
  g.home = home ∧ isWord g.name.toList = true ∧ Keyword.ofSpelling? g.name.toList = none

/-- An operand other than a variable. -/
def Constant (home : Namespace) : Value → Prop
  | .node (.argument index) => 0 ≤ index ∧ Short index.natAbs
  | .node (.global g) => Named home g
  | v => Literal v

/-- An operand. -/
def Operand (home : Namespace) : Value → Prop
  | .variable v => Short v.id
  | v => Constant home v

/-- A node all of whose parts can be printed. -/
def PrintableNode (home : Namespace) : Node → Prop
  | .call callee args => Operand home callee ∧ ∀ arg ∈ args, Operand home arg
  | .branch target cond => Short target.id ∧ Operand home cond
  | .ret value => Operand home value
  | .phi incoming => ∀ edge ∈ incoming, Short edge.1.id ∧ Operand home edge.2
  | .const value => Literal value
  | .global g => Named home g
  | .argument index => 0 ≤ index ∧ Short index.natAbs

/-- A type that is unknown or named by a text. -/
def PrintableType : Value → Prop
  | .unknown => True
  | .text t => t.Narrow
  | _ => False

/-- A location that is a natural number. -/
def PrintableLocation : Value → Prop
  | .int n => 0 ≤ n ∧ Short n.natAbs
  | _ => False

/-- A name of a file or a function that is absent or not empty. -/
def PrintableName : Option Text → Prop
  | none => True
  | some t => t ≠ [] ∧ t.Narrow

/-- An entry of the line table that can be printed. -/
structure PrintableLine (info : LineInfo) : Prop where
  nonneg : 0 ≤ info.line
  short : Short info.line.natAbs
  file : PrintableName info.file
  function : PrintableName info.function

/-- A body that can be printed, for readers of a namespace. -/
structure Printable (home : Namespace) (ir : IR) : Prop where
  metadata : ir.metadata = []
  nargs : ir.nargs = .int ir.slots.length
  located : ir.locations.length = ir.size
  short : Short ir.size
  name : ir.name.Narrow
  slots : ∀ slot ∈ ir.slots, slot.Narrow
  lines : ∀ info ∈ ir.lineTable, PrintableLine info
  nodes : ∀ s ∈ ir.body, PrintableNode home s.node
  types : ∀ s ∈ ir.body, PrintableType s.type
  locations : ∀ location ∈ ir.locations, PrintableLocation location

/-! ## Deciding what can be printed -/

section Decide

variable (home : Namespace)

instance : DecidablePred Literal := fun v => by
  cases v with
  | null | bool | float => exact .isTrue trivial
  | int n => exact inferInstanceAs (Decidable (Short n.natAbs))
  | text t => exact inferInstanceAs (Decidable t.Narrow)
  | _ => exact .isFalse id

instance : DecidablePred (Named home) := fun g =>
  inferInstanceAs (Decidable (g.home = home ∧ isWord g.name.toList = true ∧
    Keyword.ofSpelling? g.name.toList = none))

instance : DecidablePred (Constant home) := fun v => by
  have hliteral : Decidable (Literal v) := inferInstance
  cases v with
  | node n =>
    cases n with
    | argument index => exact inferInstanceAs (Decidable (0 ≤ index ∧ Short index.natAbs))
    | global g => exact inferInstanceAs (Decidable (Named home g))
    | _ => exact .isFalse id
  | _ => exact hliteral

instance : DecidablePred (Operand home) := fun v => by
  have hconstant : Decidable (Constant home v) := inferInstance
  cases v with
  | «variable» v => exact inferInstanceAs (Decidable (Short v.id))
  | _ => exact hconstant

instance : DecidablePred (PrintableNode home)
  | .call callee args =>
    inferInstanceAs (Decidable (Operand home callee ∧ ∀ arg ∈ args, Operand home arg))
  | .branch target cond => inferInstanceAs (Decidable (Short target.id ∧ Operand home cond))
  | .ret value => inferInstanceAs (Decidable (Operand home value))
  | .phi incoming =>
    inferInstanceAs (Decidable (∀ edge ∈ incoming, Short edge.1.id ∧ Operand home edge.2))
  | .const value => inferInstanceAs (Decidable (Literal value))
  | .global g => inferInstanceAs (Decidable (Named home g))
  | .argument index => inferInstanceAs (Decidable (0 ≤ index ∧ Short index.natAbs))

instance : DecidablePred PrintableType := fun type => by
  cases type with
  | unknown => exact .isTrue trivial
  | text t => exact inferInstanceAs (Decidable t.Narrow)
  | _ => exact .isFalse id

instance : DecidablePred PrintableLocation := fun location => by
  cases location with
  | int n => exact inferInstanceAs (Decidable (0 ≤ n ∧ Short n.natAbs))
  | _ => exact .isFalse id

instance : DecidablePred PrintableName
  | none => .isTrue trivial
  | some t => inferInstanceAs (Decidable (t ≠ [] ∧ t.Narrow))

instance : DecidablePred PrintableLine := fun info =>
  decidable_of_iff (0 ≤ info.line ∧ Short info.line.natAbs ∧ PrintableName info.file ∧
      PrintableName info.function)
    ⟨fun h => ⟨h.1, h.2.1, h.2.2.1, h.2.2.2⟩, fun h => ⟨h.nonneg, h.short, h.file, h.function⟩⟩

end Decide

/-! ## The token of an operand -/

/-- The kinds of tokens that stand alone as a node. -/
def Terminal.isConstant (t : Terminal) : Bool := t = .argument || t = .name || t.isLiteral

/-- Whether every constant is found among some kinds. -/
def takesConstants (kinds : List Terminal) : Bool :=
  kinds.contains .name && !kinds.contains .digits && Alone kinds .quoted '"' &&
    Alone kinds .argument '$' && literalKinds.all fun t => kinds.contains t

variable {home : Namespace} {kinds : List Terminal} {rest : List Char}

/-- What the token of a constant asks of the kinds that are welcome. -/
structure TakesConstants (kinds : List Terminal) : Prop where
  name : kinds.contains .name = true
  digits : kinds.contains .digits = false
  quoted : Alone kinds .quoted '"' = true
  argument : Alone kinds .argument '$' = true
  literal : ∀ t ∈ literalKinds, kinds.contains t = true

theorem takesConstants_iff : takesConstants kinds = true ↔ TakesConstants kinds := by
  simp only [takesConstants, Bool.and_eq_true, Bool.not_eq_true', List.all_eq_true]
  constructor
  · rintro ⟨⟨⟨⟨hname, hdigits⟩, hquoted⟩, hargument⟩, hliteral⟩
    exact ⟨hname, hdigits, hquoted, hargument, hliteral⟩
  · rintro ⟨hname, hdigits, hquoted, hargument, hliteral⟩
    exact ⟨⟨⟨⟨hname, hdigits⟩, hquoted⟩, hargument⟩, hliteral⟩

theorem TakesConstants.keyword (h : TakesConstants kinds) {k : Keyword}
    (hk : Terminal.keyword k ∈ literalKinds) (hrest : Stops rest) :
    Cuts kinds (.keyword k) k.spelling rest :=
  cuts_keyword_word k (h.literal _ hk) h.name hrest

theorem exists_float_token (x : Binary64) (hkinds : TakesConstants kinds)
    (hrest : Stops rest) :
    ∃ kind : Terminal, kind.isConstant = true ∧ Cuts kinds kind (printOperand (.float x)) rest ∧
      ∀ start, Token.operand home ⟨kind, printOperand (.float x), start⟩ = .ok (.float x) := by
  cases x with
  | nan =>
    exact ⟨.keyword .nan, rfl, hkinds.keyword (by decide) hrest, fun _ => rfl⟩
  | infinite negative =>
    cases negative with
    | false =>
      exact ⟨.keyword .inf, rfl, hkinds.keyword (by decide) hrest, fun _ => rfl⟩
    | true =>
      exact ⟨.minusInf, rfl, cuts_minusInf (hkinds.literal _ (by decide)) hkinds.digits, fun _ => rfl⟩
  | finite negative m =>
    obtain ⟨n, hregular, hspelling, hinexact, hvalue⟩ :=
      floatLayout.exists_numeral_write negative m
    have hprint : printOperand (.float (.finite negative m)) = n.spelling := hspelling.symm
    rw [hprint]
    refine ⟨.number, rfl, cuts_number hregular (hkinds.literal _ (by decide)) hkinds.digits hrest, ?_⟩
    intro start
    rw [← hvalue, ← numeral_float hregular hinexact .number start]
    rfl

theorem exists_literal_token {v : Value} (hv : Literal v) (hkinds : TakesConstants kinds)
    (hrest : Stops rest) :
    ∃ kind : Terminal, kind.isConstant = true ∧ Cuts kinds kind (printOperand v) rest ∧
      ∀ start, Token.operand home ⟨kind, printOperand v, start⟩ = .ok v := by
  cases v with
  | null =>
    exact ⟨.keyword .absent, rfl, hkinds.keyword (by decide) hrest, fun _ => rfl⟩
  | bool b =>
    cases b with
    | false =>
      exact ⟨.keyword .no, rfl, hkinds.keyword (by decide) hrest, fun _ => rfl⟩
    | true =>
      exact ⟨.keyword .yes, rfl, hkinds.keyword (by decide) hrest, fun _ => rfl⟩
  | int n =>
    have hprint : printOperand (.int n) = (Numeral.ofInt n).spelling :=
      (Numeral.spelling_ofInt n).symm
    rw [hprint]
    refine ⟨.number, rfl, cuts_number (Numeral.regular_ofInt n) (hkinds.literal _ (by decide))
      hkinds.digits hrest, ?_⟩
    intro start
    exact congrArg Except.ok (numeral_int hv .number start)
  | float x => exact exists_float_token x hkinds hrest
  | text t =>
    refine ⟨.quoted, rfl, cuts_quoted hv hkinds.quoted, ?_⟩
    intro start
    exact congrArg (Except.map Value.text) (literal_encode hv .quoted start)
  | «variable» | label | callable | «foreign» | list | tuple | unknown | node | statement =>
    cases hv

theorem exists_constant_token {v : Value} (hv : Constant home v)
    (hkinds : TakesConstants kinds) (hrest : Stops rest) :
    ∃ kind : Terminal, kind.isConstant = true ∧ Cuts kinds kind (printOperand v) rest ∧
      ∀ start, Token.operand home ⟨kind, printOperand v, start⟩ = .ok v := by
  cases v with
  | node n =>
    cases n with
    | argument index =>
      obtain ⟨hnonneg, hshort⟩ := hv
      obtain ⟨k, rfl⟩ := Int.eq_ofNat_of_zero_le hnonneg
      have hprint : printOperand (.node (.argument k)) = '$' :: Nat.toDigits 10 k :=
        argumentDisplay_natCast k
      rw [hprint]
      refine ⟨.argument, rfl, cuts_argument k hkinds.argument hrest, ?_⟩
      intro start
      have hk : Short k := hshort
      simp only [Token.operand, number_sigil hk]
      rfl
    | global g =>
      obtain ⟨rfl, hword, hkeyword⟩ := hv
      have hprint : printOperand (.node (.global g)) = g.name.toList := by
        rw [printOperand, printName, Text.ofString, plainChars?_ofChars]
        simp [hword, hkeyword]
      rw [hprint]
      refine ⟨.name, rfl, cuts_name hword hkeyword hkinds.name hrest, ?_⟩
      intro start
      have hback : String.ofList g.name.toList = g.name := String.ofList_toList
      simp only [Token.operand, hback]
    | call | branch | ret | phi | const => cases hv
  | null | bool | int | float | text => exact exists_literal_token hv hkinds hrest
  | «variable» | label | callable | «foreign» | list | tuple | unknown | statement => cases hv

/-! ## Reading operands -/

/-- Whether every operand is found among some kinds. -/
def takesOperands (kinds : List Terminal) : Bool :=
  takesConstants kinds && Alone kinds .variable '%'

theorem exists_operand_token {v : Value} (hv : Operand home v)
    (hkinds : takesOperands kinds = true) (hrest : Stops rest) :
    ∃ kind : Terminal, kind.isOperand = true ∧ Cuts kinds kind (printOperand v) rest ∧
      ∀ start, Token.operand home ⟨kind, printOperand v, start⟩ = .ok v := by
  obtain ⟨hconstants, hvariable⟩ := Bool.and_eq_true_iff.1 hkinds
  by_cases hcase : ∃ n, v = .variable n
  · obtain ⟨⟨n⟩, rfl⟩ := hcase
    have hprint : printOperand (.variable ⟨n⟩) = '%' :: Nat.toDigits 10 n := variable_display n
    rw [hprint]
    refine ⟨.variable, rfl, cuts_variable n hvariable hrest, ?_⟩
    intro start
    exact congrArg (Except.map fun n => Value.variable ⟨n⟩) (number_sigil hv .variable '%' start)
  · have hconstant : Constant home v := by
      cases v with
      | «variable» n => exact absurd ⟨n, rfl⟩ hcase
      | _ => exact hv
    obtain ⟨kind, hkind, hcuts, heval⟩ := exists_constant_token hconstant (takesConstants_iff.1 hconstants) hrest
    refine ⟨kind, ?_, hcuts, heval⟩
    rw [Terminal.isConstant] at hkind
    simp only [Bool.or_eq_true, decide_eq_true_eq] at hkind
    rw [Terminal.isOperand]
    simp only [Bool.or_eq_true, decide_eq_true_eq]
    tauto

variable {state : State} {p : Tree → Prop}

/-- Past an operand other than a variable. -/
theorem Reads.constant {v : Value} (hv : Constant home v) (hkinds : takesConstants state.kinds = true)
    (hrest : Stops rest)
    (h : ∀ token : Token, token.kind.isConstant = true → token.operand home = .ok v →
      ∃ next, state.advance? token = some next ∧ Reads next rest p) :
    Reads state (printOperand v ++ rest) p := by
  obtain ⟨kind, hkind, hcuts, heval⟩ := exists_constant_token hv (takesConstants_iff.1 hkinds) hrest
  exact token hcuts fun start => h ⟨kind, printOperand v, start⟩ hkind (heval start)

/-- Past an operand. -/
theorem Reads.operand {v : Value} (hv : Operand home v) (hkinds : takesOperands state.kinds = true)
    (hrest : Stops rest)
    (h : ∀ token : Token, token.kind.isOperand = true → token.operand home = .ok v →
      ∃ next, state.advance? token = some next ∧ Reads next rest p) :
    Reads state (printOperand v ++ rest) p := by
  obtain ⟨kind, hkind, hcuts, heval⟩ := exists_operand_token hv hkinds hrest
  exact token hcuts fun start => h ⟨kind, printOperand v, start⟩ hkind (heval start)

end Listing
end SsaEdit
