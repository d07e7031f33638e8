/-
References from one statement to another.

A `Variable` names the value that the statement with its number computes, a
`Label` names a statement as a place to jump to.  They are separate types, so a
value can never stand where a jump target is due, and neither is a number.
Number 0 names no statement: renumbering writes it where the statement that was
meant is gone.
-/

namespace SsaEdit

/-- The value computed by the statement with this number. -/
structure Variable where
  id : Nat
  deriving DecidableEq, Inhabited

/-- The statement with this number, as a jump target or as the origin of a
merged value. -/
structure Label where
  id : Nat
  deriving DecidableEq, Inhabited

/-- The number that names no statement. -/
def danglingId : Nat := 0

/-- A mention of a statement inside another one. -/
inductive Reference
  | value (v : Variable)
  | label (l : Label)
  deriving DecidableEq

namespace Reference

/-- The number of the statement that is meant. -/
def id : Reference → Nat
  | .value v => v.id
  | .label l => l.id

/-- The reference of the same class to another statement. -/
def withId (n : Nat) : Reference → Reference
  | .value _ => .value ⟨n⟩
  | .label _ => .label ⟨n⟩

def isValue : Reference → Bool
  | .value _ => true
  | .label _ => false

@[simp] theorem id_withId (r : Reference) (n : Nat) : (r.withId n).id = n := by
  cases r <;> rfl

@[simp] theorem withId_id (r : Reference) : r.withId r.id = r := by
  cases r <;> rfl

@[simp] theorem isValue_withId (r : Reference) (n : Nat) : (r.withId n).isValue = r.isValue := by
  cases r <;> rfl

end Reference

/-! ## Written forms -/

/-- A natural number in decimal, with all of its digits.  The host converts no number of more
than `maxDigits` digits; reading keeps to that limit, and writing a number into a message does
not, so that a number of any length is shown. -/
def decimal (n : Nat) : String := String.ofList (Nat.toDigits 10 n)

/-- An integer in decimal, written as `decimal` does, without a limit. -/
def decimalInt (n : Int) : String :=
  if n < 0 then "-" ++ decimal n.natAbs else decimal n.natAbs

def Variable.display (v : Variable) : String := "%" ++ decimal v.id

def Label.display (l : Label) : String := "#" ++ decimal l.id

def Reference.display : Reference → String
  | .value v => v.display
  | .label l => l.display

/-- A reference held by the statement `user` to a statement that is not there. -/
structure Dangling where
  user : Variable
  ref : Reference
  deriving DecidableEq

def Dangling.display (d : Dangling) : String := d.user.display ++ " -> " ++ d.ref.display

end SsaEdit
