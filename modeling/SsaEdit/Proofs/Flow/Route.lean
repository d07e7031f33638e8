/-
Lines of statements that control runs along.

A line is a list of distinct keys, and a route says of every key whether control
passes on from it to the next of the line and whether it can jump from it to
another key.  A place on a line is what is left of the line from there, so a pass
drops the first key and a jump goes back to the whole line.

Keys that pass, never jump and are not jumped to can be left out of a line
(`Route.reaches_filter`).  What is left of a line at a place then shrinks to what
is left of the shorter line, and a pass from a key left out changes nothing there.

A body is drawn by a line that has a key for every statement.  Which statements
can be reached from which can then be read off the line.
-/
import Mathlib.Data.List.TakeWhile
import SsaEdit.Proofs.Flow.Reachability

namespace SsaEdit

/-- Where a node can jump to. -/
def Node.target? : Node → Option Label
  | .branch target _ => some target
  | _ => none

theorem Node.eq_branch_of_target? {n : Node} {target : Label} (h : n.target? = some target) :
    ∃ cond, n = .branch target cond := by
  cases n with
  | branch _ cond =>
    injection h with h
    exact ⟨cond, h ▸ rfl⟩
  | ret _ | call _ _ | phi _ | const _ | global _ | argument _ => injection h

/-- How control moves along a line. -/
structure Route where
  passes : Nat → Bool
  jump : Nat → Option Nat

namespace Route

/-! ## Places -/

/-- What is left of a line from a key on; nothing if the key is not on it. -/
def place (keys : List Nat) (k : Nat) : List Nat := keys.dropWhile (· != k)

theorem place_suffix (keys : List Nat) (k : Nat) : place keys k <:+ keys :=
  List.dropWhile_suffix _

theorem place_of_not_mem {keys : List Nat} {k : Nat} (h : k ∉ keys) : place keys k = [] := by
  rw [place, List.dropWhile_eq_nil_iff]
  intro x hx
  have hne : x ≠ k := fun e => h (e ▸ hx)
  simp [hne]

theorem place_of_split {keys pre rest : List Nat} {k : Nat} (hsplit : keys = pre ++ k :: rest)
    (hpre : k ∉ pre) : place keys k = k :: rest := by
  have hall : ∀ x ∈ pre, (x != k) = true := by
    intro x hx
    have hne : x ≠ k := fun e => hpre (e ▸ hx)
    simp [hne]
  rw [place, hsplit, List.dropWhile_append_of_pos hall]
  simp

/-- On a line of distinct keys there is one place for a key. -/
theorem place_of_suffix {keys rest : List Nat} {k : Nat} (hnd : keys.Nodup)
    (h : k :: rest <:+ keys) : place keys k = k :: rest := by
  obtain ⟨pre, hsplit⟩ := h
  rw [← hsplit, List.nodup_middle, List.nodup_cons, List.mem_append, not_or] at hnd
  exact place_of_split hsplit.symm hnd.1.1

theorem place_of_getElem? {keys : List Nat} {i k : Nat} (hnd : keys.Nodup)
    (h : keys[i]? = some k) : place keys k = keys.drop i := by
  obtain ⟨hlt, hk⟩ := List.getElem?_eq_some_iff.1 h
  have hdrop : keys.drop i = k :: keys.drop (i + 1) := by
    rw [List.drop_eq_getElem_cons hlt, hk]
  rw [hdrop]
  exact place_of_suffix hnd (hdrop ▸ List.drop_suffix i keys)

theorem place_filter {keep : Nat → Bool} {k : Nat} (hk : keep k = true) (keys : List Nat) :
    place (keys.filter keep) k = (place keys k).filter keep := by
  induction keys with
  | nil => rfl
  | cons first rest ih =>
    by_cases hfirst : first = k
    · subst hfirst
      simp [place, hk]
    · have hne : (first != k) = true := by simp [hfirst]
      have hcons : ∀ l, place (first :: l) k = place l k :=
        fun _ => List.dropWhile_cons_of_pos hne
      rw [hcons, ← ih]
      cases hkept : keep first with
      | true => rw [List.filter_cons_of_pos hkept, hcons]
      | false => rw [List.filter_cons_of_neg (Bool.eq_false_iff.1 hkept)]

/-! ## Moves -/

variable {F : Route} {keys : List Nat} {keep : Nat → Bool}

/-- One move between places of a line. -/
inductive Moves (F : Route) (keys : List Nat) : List Nat → List Nat → Prop
  | pass {k : Nat} {rest : List Nat} (h : F.passes k = true) : Moves F keys (k :: rest) rest
  | jump {k t : Nat} {rest : List Nat} (h : F.jump k = some t) :
    Moves F keys (k :: rest) (place keys t)

theorem Moves.suffix {s s' : List Nat} (h : F.Moves keys s s') (hs : s <:+ keys) :
    s' <:+ keys := by
  cases h with
  | pass _ => exact (List.suffix_cons _ _).trans hs
  | jump _ => exact place_suffix keys _

/-- Control can get from one key to another over at least one move. -/
def Reaches (F : Route) (keys : List Nat) (a b : Nat) : Prop :=
  Relation.TransGen (F.Moves keys) (place keys a) (place keys b)

/-! ## Leaving keys out -/

/-- The keys that are not kept pass, never jump and are not jumped to. -/
structure Skips (F : Route) (keys : List Nat) (keep : Nat → Bool) : Prop where
  passes : ∀ k ∈ keys, keep k = false → F.passes k = true
  jump_none : ∀ k ∈ keys, keep k = false → F.jump k = none
  target : ∀ k ∈ keys, ∀ t, F.jump k = some t → t ∈ keys → keep t = true

theorem Skips.place_filter_target (h : F.Skips keys keep) {k t : Nat} (hk : k ∈ keys)
    (hjump : F.jump k = some t) : place (keys.filter keep) t = (place keys t).filter keep := by
  by_cases ht : t ∈ keys
  · exact place_filter (h.target k hk t hjump ht) keys
  · have hnot : t ∉ keys.filter keep := fun hm => ht (List.mem_of_mem_filter hm)
    rw [place_of_not_mem ht, place_of_not_mem hnot]
    rfl

/-- A move from a kept key is a move of the shorter line, and one from another key
is none. -/
theorem Skips.move_filter (h : F.Skips keys keep) {k : Nat} {rest s' : List Nat}
    (hs : k :: rest <:+ keys) (hmove : F.Moves keys (k :: rest) s') :
    (keep k = true ∧ F.Moves (keys.filter keep) ((k :: rest).filter keep) (s'.filter keep)) ∨
      (keep k = false ∧ (k :: rest).filter keep = s'.filter keep) := by
  have hk : k ∈ keys := hs.mem List.mem_cons_self
  cases hkept : keep k with
  | true =>
    refine Or.inl ⟨rfl, ?_⟩
    rw [List.filter_cons_of_pos hkept]
    cases hmove with
    | pass hpass => exact .pass hpass
    | jump hjump =>
      rw [← h.place_filter_target hk hjump]
      exact .jump hjump
  | false =>
    refine Or.inr ⟨rfl, ?_⟩
    rw [List.filter_cons_of_neg (Bool.eq_false_iff.1 hkept)]
    cases hmove with
    | pass _ => rfl
    | jump hjump =>
      rw [h.jump_none k hk hkept] at hjump
      injection hjump

theorem Skips.transGen_filter (h : F.Skips keys keep) {s s' : List Nat} (hs : s <:+ keys)
    (hpath : Relation.TransGen (F.Moves keys) s s') :
    Relation.ReflTransGen (F.Moves (keys.filter keep)) (s.filter keep) (s'.filter keep) ∧
      ∀ k rest, s = k :: rest → keep k = true →
        Relation.TransGen (F.Moves (keys.filter keep)) (s.filter keep) (s'.filter keep) := by
  induction hpath using Relation.TransGen.head_induction_on with
  | @single s hmove =>
    cases s with
    | nil => cases hmove
    | cons k rest =>
      rcases h.move_filter hs hmove with ⟨-, hshort⟩ | ⟨hskip, heq⟩
      · exact ⟨.single hshort, fun _ _ _ _ => .single hshort⟩
      · refine ⟨heq ▸ .refl, ?_⟩
        rintro _ _ ⟨⟩ hkept
        exact absurd (hskip.symm.trans hkept) Bool.false_ne_true
  | @head s mid hmove _ ih =>
    obtain ⟨hrest, -⟩ := ih (hmove.suffix hs)
    cases s with
    | nil => cases hmove
    | cons k rest =>
      rcases h.move_filter hs hmove with ⟨-, hshort⟩ | ⟨hskip, heq⟩
      · exact ⟨.head hshort hrest, fun _ _ _ _ => .head' hshort hrest⟩
      · refine ⟨heq ▸ hrest, ?_⟩
        rintro _ _ ⟨⟩ hkept
        exact absurd (hskip.symm.trans hkept) Bool.false_ne_true

/-- Control passes over the keys that are left out. -/
theorem Skips.advance (h : F.Skips keys keep) {s : List Nat} (hs : s <:+ keys) {k : Nat}
    {rest' : List Nat} (hfilter : s.filter keep = k :: rest') :
    ∃ rest, Relation.ReflTransGen (F.Moves keys) s (k :: rest) ∧ k :: rest <:+ keys ∧
      rest.filter keep = rest' := by
  induction s with
  | nil => injection hfilter
  | cons first rest ih =>
    cases hkept : keep first with
    | true =>
      rw [List.filter_cons_of_pos hkept] at hfilter
      injection hfilter with hfirst hrest
      subst hfirst
      exact ⟨rest, .refl, hs, hrest⟩
    | false =>
      rw [List.filter_cons_of_neg (Bool.eq_false_iff.1 hkept)] at hfilter
      have hpass : F.Moves keys (first :: rest) rest :=
        .pass (h.passes first (hs.mem List.mem_cons_self) hkept)
      obtain ⟨rest', hpath, hsuffix, hfilter'⟩ := ih (hpass.suffix hs) hfilter
      exact ⟨rest', .head hpass hpath, hsuffix, hfilter'⟩

theorem Skips.lift_move (h : F.Skips keys keep) {s u : List Nat} (hs : s <:+ keys)
    (hmove : F.Moves (keys.filter keep) (s.filter keep) u) :
    ∃ s', Relation.TransGen (F.Moves keys) s s' ∧ s' <:+ keys ∧ s'.filter keep = u := by
  generalize hfilter : s.filter keep = u' at hmove
  cases hmove with
  | @pass k rest' hpass =>
    obtain ⟨rest, hpath, hsuffix, hrest⟩ := h.advance hs hfilter
    have hmove : F.Moves keys (k :: rest) rest := .pass hpass
    exact ⟨rest, .tail' hpath hmove, hmove.suffix hsuffix, hrest⟩
  | @jump k t rest' hjump =>
    obtain ⟨rest, hpath, hsuffix, -⟩ := h.advance hs hfilter
    have hk : k ∈ keys := hsuffix.mem List.mem_cons_self
    exact ⟨place keys t, .tail' hpath (.jump hjump), place_suffix keys t,
      (h.place_filter_target hk hjump).symm⟩

theorem Skips.lift_transGen (h : F.Skips keys keep) {s u : List Nat} (hs : s <:+ keys)
    (hpath : Relation.TransGen (F.Moves (keys.filter keep)) (s.filter keep) u) :
    ∃ s', Relation.TransGen (F.Moves keys) s s' ∧ s' <:+ keys ∧ s'.filter keep = u := by
  induction hpath with
  | single hmove => exact h.lift_move hs hmove
  | tail _ hmove ih =>
    obtain ⟨mid, hfirst, hmid, hfilter⟩ := ih
    rw [← hfilter] at hmove
    obtain ⟨s', hlast, hs', hfilter'⟩ := h.lift_move hmid hmove
    exact ⟨s', hfirst.trans hlast, hs', hfilter'⟩

/-- Leaving keys out changes nothing between those that are kept. -/
theorem reaches_filter (hnd : keys.Nodup) (h : F.Skips keys keep) {a b : Nat} (ha : a ∈ keys)
    (hb : b ∈ keys) (hkeepa : keep a = true) (hkeepb : keep b = true) :
    F.Reaches (keys.filter keep) a b ↔ F.Reaches keys a b := by
  have hcons : ∀ k ∈ keys, ∃ rest, place keys k = k :: rest := by
    intro k hk
    obtain ⟨pre, rest, hsplit⟩ := List.append_of_mem hk
    exact ⟨rest, place_of_suffix hnd ⟨pre, hsplit.symm⟩⟩
  rw [Reaches, Reaches, place_filter hkeepa, place_filter hkeepb]
  constructor
  · intro hpath
    obtain ⟨s', hlong, hs', hfilter⟩ := h.lift_transGen (place_suffix keys a) hpath
    obtain ⟨rest, hplace⟩ := hcons b hb
    rw [hplace, List.filter_cons_of_pos hkeepb] at hfilter
    obtain ⟨rest', hmore, hsuffix, -⟩ := h.advance hs' hfilter
    rw [place_of_suffix hnd hsuffix]
    exact hlong.trans_left hmore
  · intro hpath
    obtain ⟨rest, hplace⟩ := hcons a ha
    exact (h.transGen_filter (place_suffix keys a) hpath).2 a rest hplace hkeepa

/-! ## Bodies drawn by a line -/

/-- Whether a node with this jump target, if any, jumps to a key on a line: a target
that is a statement of the body stands at the place of the key. -/
def JumpsTo (ir : IR) (keys : List Nat) (jump : Option Nat) : Option Label → Prop
  | some target => ∃ t, jump = some t ∧
    (ir.inRange target.id = true → keys[target.id - 1]? = some t) ∧
    (ir.inRange target.id = false → t ∉ keys)
  | none => jump = none

/-- The statements of a body stand on a line, and control moves between them as it
moves along the line. -/
structure Draws (F : Route) (keys : List Nat) (ir : IR) : Prop where
  nodup : keys.Nodup
  length : keys.length = ir.size
  passes : ∀ i k n, keys[i]? = some k → ir.node? (i + 1) = some n → F.passes k = !n.isTerminator
  jumps : ∀ i k n, keys[i]? = some k → ir.node? (i + 1) = some n →
    JumpsTo ir keys (F.jump k) n.target?

namespace Draws

variable {ir : IR}

theorem move_of_flows (h : F.Draws keys ir) {i j : Nat} (hflow : ir.Flows (i + 1) j) :
    F.Moves keys (keys.drop i) (keys.drop (j - 1)) := by
  have hlt : i < keys.length := by
    have hrange := hflow.inRange_left
    rw [IR.inRange_iff] at hrange
    have := h.length
    omega
  have hk := List.getElem?_eq_getElem hlt
  rw [List.drop_eq_getElem_cons hlt]
  generalize keys[i] = k at hk
  cases hflow with
  | jump here there =>
    obtain ⟨t, hjump, hin, -⟩ := h.jumps i k _ hk here
    rw [← place_of_getElem? h.nodup (hin there)]
    exact .jump hjump
  | next here passes there =>
    exact .pass ((h.passes i k _ hk here).trans (by rw [passes]; rfl))

theorem flows_of_jump (h : F.Draws keys ir) {i k t : Nat} {n : Node} (hk : keys[i]? = some k)
    (hn : ir.node? (i + 1) = some n) (hjump : F.jump k = some t) (hs : place keys t ≠ []) :
    ∃ j, place keys t = keys.drop j ∧ ir.Flows (i + 1) (j + 1) := by
  have hto := h.jumps i k n hk hn
  rw [hjump] at hto
  cases htarget : n.target? with
  | none =>
    rw [htarget] at hto
    have hnone : some t = none := hto
    injection hnone
  | some target =>
    obtain ⟨cond, rfl⟩ := Node.eq_branch_of_target? htarget
    obtain ⟨t', ht, hin, hout⟩ := hto
    injection ht with ht
    subst ht
    cases hrange : ir.inRange target.id with
    | false => exact absurd (place_of_not_mem (hout hrange)) hs
    | true =>
      have hflow : ir.Flows (i + 1) target.id := .jump hn hrange
      have hpos : target.id - 1 + 1 = target.id := by
        rw [IR.inRange_iff] at hrange
        omega
      exact ⟨target.id - 1, place_of_getElem? h.nodup (hin hrange), hpos ▸ hflow⟩

theorem flows_of_move (h : F.Draws keys ir) {i : Nat} {s : List Nat}
    (hmove : F.Moves keys (keys.drop i) s) (hs : s ≠ []) :
    ∃ j, s = keys.drop j ∧ ir.Flows (i + 1) (j + 1) := by
  have hlt : i < keys.length := by
    by_contra hge
    rw [List.drop_eq_nil_of_le (Nat.le_of_not_lt hge)] at hmove
    cases hmove
  have hrange : ir.inRange (i + 1) = true := by
    have := h.length
    rw [IR.inRange_iff]
    omega
  obtain ⟨n, hn⟩ := IR.exists_node hrange
  have hk := List.getElem?_eq_getElem hlt
  rw [List.drop_eq_getElem_cons hlt] at hmove
  generalize keys[i] = k at hk hmove
  cases hmove with
  | pass hpass =>
    have hnext : i + 1 < ir.size := by
      rw [← h.length]
      exact Nat.lt_of_not_le fun hle => hs (List.drop_eq_nil_of_le hle)
    have hterminator : n.isTerminator = false := by
      rw [h.passes i k n hk hn] at hpass
      exact Bool.not_eq_true' _ ▸ hpass
    exact ⟨i + 1, rfl, .next hn hterminator hnext⟩
  | jump hjump => exact h.flows_of_jump hk hn hjump hs

theorem transGen_of_moves (h : F.Draws keys ir) {i : Nat} {s : List Nat}
    (hpath : Relation.TransGen (F.Moves keys) (keys.drop i) s) (hs : s ≠ []) :
    ∃ j, s = keys.drop j ∧ ir.Reaches (i + 1) (j + 1) := by
  induction hpath with
  | single hmove =>
    obtain ⟨j, hj, hflow⟩ := h.flows_of_move hmove hs
    exact ⟨j, hj, .single (IR.mem_successors.2 hflow)⟩
  | @tail mid last _ hmove ih =>
    have hmid : mid ≠ [] := by
      rintro rfl
      cases hmove
    obtain ⟨k, rfl, hreach⟩ := ih hmid
    obtain ⟨j, hj, hflow⟩ := h.flows_of_move hmove hs
    exact ⟨j, hj, hreach.tail (IR.mem_successors.2 hflow)⟩

/-- Reachability between statements is reachability between their keys. -/
theorem reaches_iff (h : F.Draws keys ir) {i j a b : Nat} (ha : keys[i]? = some a)
    (hb : keys[j]? = some b) : ir.Reaches (i + 1) (j + 1) ↔ F.Reaches keys a b := by
  rw [Reaches, place_of_getElem? h.nodup ha, place_of_getElem? h.nodup hb]
  constructor
  · intro hpath
    have hmoves : Relation.TransGen (F.Moves keys) (keys.drop (i + 1 - 1))
        (keys.drop (j + 1 - 1)) := by
      refine Relation.TransGen.lift (fun m => keys.drop (m - 1)) ?_ _ _ hpath
      intro m m' hnext
      have hflow := IR.mem_successors.1 hnext
      obtain ⟨m, rfl⟩ : ∃ k, m = k + 1 := by
        have hrange := hflow.inRange_left
        rw [IR.inRange_iff] at hrange
        exact ⟨m - 1, by omega⟩
      exact h.move_of_flows hflow
    exact hmoves
  · intro hpath
    obtain ⟨hlt, -⟩ := List.getElem?_eq_some_iff.1 hb
    have hne : keys.drop j ≠ [] := by
      rw [Ne, List.drop_eq_nil_iff]
      omega
    obtain ⟨j', hj', hreach⟩ := h.transGen_of_moves hpath hne
    have hsame : j' = j := by
      have hlen := congrArg List.length hj'
      rw [List.length_drop, List.length_drop] at hlen
      omega
    exact hsame ▸ hreach

end Draws

end Route
end SsaEdit
