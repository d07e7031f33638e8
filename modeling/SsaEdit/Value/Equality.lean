/-
Equality of values as the host program sees it.

Numbers are equal when they are the same number, whatever kind they are of.
Everything else is equal when it is of the same kind and its parts are equal in
order; globals compare their namespaces by identity.  Two not-a-numbers that
were made apart are different, while one that was carried from place to place
equals itself; `nans` tells which of the two is the case for the values compared.

`Value.hashable` tells which values can serve as keys: those without a list
inside.
-/
import SsaEdit.Value

namespace SsaEdit

mutual

def Value.same (nans : Bool) : Value → Value → Bool
  | .null, .null => true
  | .text s, .text t => s == t
  | .variable v, .variable w => v == w
  | .label l, .label m => l == m
  | .callable p, .callable q => p == q
  | .foreign r, .foreign s => r == s
  | .list xs, .list ys => sameAll nans xs ys
  | .tuple xs, .tuple ys => sameAll nans xs ys
  | .unknown, .unknown => true
  | .node m, .node n => m.same nans n
  | .statement m s, .statement n t => m.same nans n && s.same nans t
  | a, b =>
    match a.number?, b.number? with
    | some x, some y => x.eq nans y
    | _, _ => false
termination_by structural v => v

def Node.same (nans : Bool) : Node → Node → Bool
  | .call f xs, .call g ys => f.same nans g && sameAll nans xs ys
  | .branch l c, .branch m d => l == m && c.same nans d
  | .ret x, .ret y => x.same nans y
  | .phi xs, .phi ys => sameEdges nans xs ys
  | .const x, .const y => x.same nans y
  | .global g, .global h => g == h
  | .argument i, .argument j => i == j
  | _, _ => false
termination_by structural n => n

def sameAll (nans : Bool) : List Value → List Value → Bool
  | [], [] => true
  | x :: xs, y :: ys => x.same nans y && sameAll nans xs ys
  | _, _ => false
termination_by structural vs => vs

def sameEdges (nans : Bool) : List (Label × Value) → List (Label × Value) → Bool
  | [], [] => true
  | x :: xs, y :: ys => sameEdge nans x y && sameEdges nans xs ys
  | _, _ => false
termination_by structural edges => edges

def sameEdge (nans : Bool) : Label × Value → Label × Value → Bool
  | (l, x), (m, y) => l == m && x.same nans y
termination_by structural edge => edge

end

def Statement.same (nans : Bool) (s t : Statement) : Bool :=
  s.node.same nans t.node && s.type.same nans t.type

mutual

def Value.hashable : Value → Bool
  | .list _ => false
  | .tuple items => hashableAll items
  | .node n => n.hashable
  | .statement n type => n.hashable && type.hashable
  | _ => true
termination_by structural v => v

def Node.hashable : Node → Bool
  | .call callee args => callee.hashable && hashableAll args
  | .branch _ cond => cond.hashable
  | .ret value => value.hashable
  | .phi incoming => hashableEdges incoming
  | .const value => value.hashable
  | _ => true
termination_by structural n => n

def hashableAll : List Value → Bool
  | [] => true
  | v :: rest => v.hashable && hashableAll rest
termination_by structural vs => vs

def hashableEdges : List (Label × Value) → Bool
  | [] => true
  | edge :: rest => hashableEdge edge && hashableEdges rest
termination_by structural edges => edges

def hashableEdge : Label × Value → Bool
  | (_, value) => value.hashable
termination_by structural edge => edge

end

/-- Put a pair into an ordered dictionary: a key already there keeps its place
and its spelling and takes the new value. -/
def insertPair (same : α → α → Bool) (pairs : List (α × β)) (key : α) (value : β) :
    List (α × β) :=
  match pairs with
  | [] => [(key, value)]
  | (k, v) :: rest =>
    if same k key then (k, value) :: rest else (k, v) :: insertPair same rest key value

/-- The ordered dictionary made of some pairs. -/
def ofPairs (same : α → α → Bool) (pairs : List (α × β)) : List (α × β) :=
  pairs.foldl (fun dict pair => insertPair same dict pair.1 pair.2) []

end SsaEdit
