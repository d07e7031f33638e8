/-
One iteration at a time, and every source statement once.

A session has any number of iterators, and its calls come in any order: edits of every
kind, steps that fail, iterators that are closed twice, and finishing in the middle.
`Paced` is what every call keeps.  No two iterators are open together, the builder
knows whether one is, and what was yielded so far, by whichever iterator, is the
source from its first statement up to the cursor.
-/
import SsaEdit.Proofs.Session.References

namespace SsaEdit

namespace Builder

variable {b : Builder}

/-- The outcomes of a step. -/
inductive Steps (b : Builder) :
    Builder × Except Fault (Option (Variable × Statement)) → Prop
  | gone (hcanvas : b.canvas = none) (fault : Fault) : Steps b (b, .error fault)
  | ended (hcanvas : b.canvas ≠ none) (hend : b.source.size ≤ b.cursor) :
    Steps b ({ b with phase := .exhausted }, .ok none)
  | failed (hcanvas : b.canvas ≠ none) (hlt : b.cursor < b.source.size) (fault : Fault) :
    Steps b ({ b with phase := .iterating }, .error fault)
  | copied (hcanvas : b.canvas ≠ none) (hlt : b.cursor < b.source.size) (after : Canvas)
    (s : Statement) : Steps b (b.advanced after, .ok (some (⟨b.cursor + 1⟩, s)))

theorem step_steps (b : Builder) (env : Environment) : b.Steps (b.step env) := by
  cases hc : b.canvas with
  | none =>
    have hlive : b.liveCanvas = .error (.alreadyFinished b.source.name) := by rw [liveCanvas, hc]
    rw [step, hlive]
    exact .gone hc _
  | some c =>
    have hlive : b.liveCanvas = .ok c := by rw [liveCanvas, hc]
    have hcanvas : b.canvas ≠ none := by simp [hc]
    rw [step, hlive]
    cases hs : b.source.body[b.cursor]? with
    | none => exact .ended hcanvas (List.getElem?_eq_none_iff.1 hs)
    | some s =>
      have hlt : b.cursor < b.source.size := (List.getElem?_eq_some_iff.1 hs).1
      dsimp only
      cases ({ b with phase := .iterating } : Builder).copy env c s with
      | error fault => exact .failed hcanvas hlt fault
      | ok done => exact .copied hcanvas hlt done.1 done.2

/-- An end leaves the builder as it was, or it takes the canvas away. -/
theorem finish_builder (b : Builder) (strict : Bool) :
    (b.finish strict).builder = b ∨ ∃ places, (b.finish strict).builder =
      { b with canvas := none, phase := .finished, renumbering := places } := by
  rw [finish]
  split
  · exact Or.inl rfl
  · refine Or.inr ?_
    dsimp only
    split
    · split
      · exact ⟨_, rfl⟩
      · exact ⟨_, rfl⟩
    · exact ⟨_, rfl⟩

theorem iterating_edit (b : Builder) (e : Canvas.Edit) :
    (b.edit e).1.iterating = b.iterating := by
  rw [edit]
  cases b.liveCanvas <;> rfl

/-- The source variables up to a cursor. -/
def variablesUpTo (cursor : Nat) : List Variable := (List.range' 1 cursor).map Variable.mk

theorem variablesUpTo_succ (cursor : Nat) :
    variablesUpTo (cursor + 1) = variablesUpTo cursor ++ [⟨cursor + 1⟩] := by
  rw [variablesUpTo, List.range'_1_concat, List.map_append, Nat.add_comm 1]
  rfl

/-- What every call keeps of a builder, when some variables were yielded. -/
structure Advances (ir : IR) (yielded : List Variable) (b : Builder) : Prop where
  source : b.source = ir
  cursor_le : b.cursor ≤ ir.size
  yielded : yielded = variablesUpTo b.cursor
  remap : b.remap = (variablesUpTo b.cursor).map fun v => (v, v)
  finished : b.phase = .finished ↔ b.canvas = none

namespace Advances

variable {ir : IR} {yielded : List Variable}

/-- The flag of an iteration in progress does not count. -/
theorem congr (h : Advances ir yielded b) (iterating : Bool) :
    Advances ir yielded { b with iterating := iterating } :=
  ⟨h.source, h.cursor_le, h.yielded, h.remap, h.finished⟩

theorem in_use (h : Advances ir yielded b) {phase : Phase} (hphase : phase ≠ .finished)
    (hcanvas : b.canvas ≠ none) : Advances ir yielded { b with phase := phase } :=
  ⟨h.source, h.cursor_le, h.yielded, h.remap, iff_of_false hphase hcanvas⟩

/-- The next source statement was copied and yielded. -/
theorem advanced (h : Advances ir yielded b) (hlt : b.cursor < b.source.size) (after : Canvas) :
    Advances ir (yielded ++ [⟨b.cursor + 1⟩]) (b.advanced after) where
  source := h.source
  cursor_le := h.source ▸ hlt
  yielded := by
    rw [h.yielded]
    exact (variablesUpTo_succ b.cursor).symm
  remap := by
    show b.remap ++ _ = List.map _ (variablesUpTo (b.cursor + 1))
    rw [h.remap, variablesUpTo_succ, List.map_append]
    rfl
  finished := iff_of_false (show Phase.iterating ≠ .finished by decide) (Option.some_ne_none after)

theorem edit (h : Advances ir yielded b) (e : Canvas.Edit) : Advances ir yielded (b.edit e).1 := by
  rw [Builder.edit, liveCanvas]
  cases hc : b.canvas with
  | none => exact h
  | some c =>
    have hphase : b.phase ≠ .finished := fun hfinished => by
      rw [h.finished, hc] at hfinished
      cases hfinished
    exact ⟨h.source, h.cursor_le, h.yielded, h.remap,
      iff_of_false hphase (Option.some_ne_none (c.run e).1)⟩

theorem finish (h : Advances ir yielded b) (strict : Bool) :
    Advances ir yielded (b.finish strict).builder := by
  rcases b.finish_builder strict with hsame | ⟨places, hfinished⟩
  · rw [hsame]
    exact h
  · rw [hfinished]
    exact ⟨h.source, h.cursor_le, h.yielded, h.remap, iff_of_true rfl rfl⟩

end Advances
end Builder

namespace Session

/-! ## Open iterators -/

variable {s : Session}

/-- No two iterators are open, and the builder knows whether one is. -/
structure Exclusive (s : Session) : Prop where
  unique : ∀ j k, s.isOpen j = true → s.isOpen k = true → j = k
  flag : s.builder.iterating = true ↔ ∃ k, s.isOpen k = true

theorem isOpen_opened (b : Builder) (iterators : List Bool) (k : Nat) :
    isOpen ⟨b, iterators ++ [true]⟩ k = true ↔
      isOpen ⟨b, iterators⟩ k = true ∨ k = iterators.length := by
  simp only [isOpen]
  rcases Nat.lt_trichotomy k iterators.length with hlt | heq | hgt
  · rw [List.getElem?_append_left hlt]
    simp [Nat.ne_of_lt hlt]
  · subst heq
    simp
  · have hafter : (iterators ++ [true])[k]? = none := by
      rw [List.getElem?_eq_none_iff, List.length_append, List.length_singleton]
      omega
    have hbefore : iterators[k]? = none := List.getElem?_eq_none_iff.2 (Nat.le_of_lt hgt)
    simp [hafter, hbefore, Nat.ne_of_gt hgt]

/-- A closed iterator stays as it is, and so does the session. -/
theorem close_of_closed {k : Nat} (h : s.isOpen k = false) : s.close k = s := by
  rw [close, h]
  rfl

/-- Closing an iterator closes no other one and opens none. -/
theorem isOpen_close (s : Session) (j k : Nat) :
    (s.close k).isOpen j = (s.isOpen j && j != k) := by
  cases hk : s.isOpen k with
  | false =>
    rw [close_of_closed hk]
    by_cases hjk : j = k
    · simp [hjk, hk]
    · simp [hjk]
  | true =>
    rw [close, hk, if_pos rfl]
    simp only [isOpen, List.getElem?_set]
    by_cases hjk : k = j
    · subst hjk
      by_cases hlt : k < s.iterators.length <;> simp [hlt]
    · simp [hjk, Ne.symm hjk]

namespace Exclusive

/-- Only the flag and the iterators count. -/
theorem congr (h : Exclusive s) {b : Builder} (hflag : b.iterating = s.builder.iterating) :
    Exclusive ⟨b, s.iterators⟩ :=
  ⟨h.unique, hflag ▸ h.flag⟩

theorem opened (h : Exclusive s) (hnot : s.builder.iterating = false) :
    Exclusive ⟨{ s.builder with iterating := true }, s.iterators ++ [true]⟩ := by
  have hclosed : ∀ k, s.isOpen k = true → False := fun k hk => by
    rw [h.flag.2 ⟨k, hk⟩] at hnot
    cases hnot
  have honly : ∀ k, isOpen ⟨{ s.builder with iterating := true }, s.iterators ++ [true]⟩ k = true →
      k = s.iterators.length := by
    intro k hk
    rcases (isOpen_opened _ _ k).1 hk with hold | hnew
    · exact (hclosed k hold).elim
    · exact hnew
  refine ⟨fun j k hj hk => (honly j hj).trans (honly k hk).symm, ?_⟩
  exact iff_of_true rfl ⟨_, (isOpen_opened _ _ _).2 (Or.inr rfl)⟩

theorem close (h : Exclusive s) (k : Nat) : Exclusive (s.close k) := by
  cases hk : s.isOpen k with
  | false =>
    rw [close_of_closed hk]
    exact h
  | true =>
    -- The iterator that is closed was the only open one.
    have hnone : ∀ j, (s.close k).isOpen j = false := by
      intro j
      rw [isOpen_close]
      cases hj : s.isOpen j with
      | false => rfl
      | true => simp [h.unique j k hj hk]
    refine ⟨fun i j hi _ => ?_, ?_⟩
    · rw [hnone i] at hi
      cases hi
    · refine iff_of_false ?_ ?_
      · rw [Session.close, hk]
        exact Bool.false_ne_true
      · rintro ⟨j, hj⟩
        rw [hnone j] at hj
        cases hj

end Exclusive

/-! ## What is yielded -/

/-- The variable that a call yields, if it is a step of an iterator that yields one. -/
def yields (s : Session) : Call → Option Variable
  | .next env k =>
    match (s.next env k).2 with
    | .ok (some (v, _)) => some v
    | _ => none
  | _ => none

/-- The variables that some calls yield, in order and whichever iterator yields them. -/
def yielded (s : Session) : List Call → List Variable
  | [] => []
  | call :: rest => (s.yields call).toList ++ (s.perform call).yielded rest

/-- What every call keeps of a session. -/
structure Paced (ir : IR) (yielded : List Variable) (s : Session) : Prop where
  builder : s.builder.Advances ir yielded
  exclusive : s.Exclusive

namespace Paced

variable {ir : IR} {yielded : List Variable}

theorem close (h : Paced ir yielded s) (k : Nat) : Paced ir yielded (s.close k) := by
  refine ⟨?_, h.exclusive.close k⟩
  obtain ⟨iterating, hbuilder⟩ := close_builder s k
  rw [hbuilder]
  exact h.builder.congr iterating

theorem iter (h : Paced ir yielded s) : Paced ir yielded (s.perform .iter) := by
  rw [perform]
  cases hc : s.builder.canvas with
  | none =>
    rw [Session.iter, Builder.liveCanvas, hc]
    exact h
  | some c =>
    rw [iter_eq hc]
    cases hflag : s.builder.iterating with
    | true => exact h
    | false => exact ⟨h.builder.congr true, h.exclusive.opened hflag⟩

/-- A step of an open iterator, whatever comes of it. -/
theorem next_open (h : Paced ir yielded s) (env : Environment) {k : Nat}
    (hopen : s.isOpen k = true) :
    Paced ir (yielded ++ (s.yields (.next env k)).toList) (s.next env k).1 := by
  have hsteps := s.builder.step_steps env
  rw [yields, next, if_pos hopen]
  revert hsteps
  generalize s.builder.step env = outcome
  intro hsteps
  cases hsteps with
  | gone hcanvas fault =>
    rw [Option.toList_none, List.append_nil]
    exact h.close k
  | ended hcanvas hend =>
    rw [Option.toList_none, List.append_nil]
    have hpaced : Paced ir yielded ⟨{ s.builder with phase := .exhausted }, s.iterators⟩ :=
      ⟨h.builder.in_use (by decide) hcanvas, h.exclusive.congr rfl⟩
    exact hpaced.close k
  | failed hcanvas hlt fault =>
    rw [Option.toList_none, List.append_nil]
    have hpaced : Paced ir yielded ⟨{ s.builder with phase := .iterating }, s.iterators⟩ :=
      ⟨h.builder.in_use (by decide) hcanvas, h.exclusive.congr rfl⟩
    exact hpaced.close k
  | copied hcanvas hlt after copy => exact ⟨h.builder.advanced hlt after, h.exclusive.congr rfl⟩

theorem perform (h : Paced ir yielded s) (call : Call) :
    Paced ir (yielded ++ (s.yields call).toList) (s.perform call) := by
  have hquiet : yielded ++ (none : Option Variable).toList = yielded := List.append_nil yielded
  cases call with
  | iter => exact hquiet.symm ▸ h.iter
  | close k => exact hquiet.symm ▸ h.close k
  | get target => exact hquiet.symm ▸ h
  | edit e =>
    exact hquiet.symm ▸ ⟨h.builder.edit e, h.exclusive.congr (s.builder.iterating_edit e)⟩
  | finish strict =>
    refine hquiet.symm ▸ ⟨h.builder.finish strict, h.exclusive.congr ?_⟩
    rcases s.builder.finish_builder strict with hsame | ⟨places, hfinished⟩
    · rw [hsame]
    · rw [hfinished]
  | next env k =>
    cases hopen : s.isOpen k with
    | true => exact h.next_open env hopen
    | false =>
      have hclosed : s.next env k = (s, .ok none) := by
        rw [next, hopen]
        rfl
      show Paced ir (yielded ++ (s.yields (.next env k)).toList) (s.next env k).1
      rw [yields, hclosed]
      exact hquiet.symm ▸ h

theorem run (h : Paced ir yielded s) (calls : List Call) :
    Paced ir (yielded ++ s.yielded calls) (s.run calls) := by
  induction calls generalizing s yielded with
  | nil =>
    rw [Session.yielded, List.append_nil]
    exact h
  | cons call rest ih =>
    have hrest := ih (h.perform call)
    rw [List.append_assoc] at hrest
    exact hrest

end Paced

theorem paced_of_ofIR {ir : IR} {start : Session} (h : ofIR ir = .ok start) :
    Paced ir [] start := by
  rw [ofIR, Builder.ofIR] at h
  split at h
  · injection h
  · injection h with h
    subst h
    refine ⟨⟨rfl, Nat.zero_le _, rfl, rfl,
      iff_of_false (show Phase.idle ≠ .finished by decide) (Option.some_ne_none _)⟩, ?_⟩
    have hnone : ∀ k, isOpen ⟨⟨ir, some (.empty ir.size), [], 0, .idle, [], false⟩, []⟩ k = false :=
      fun _ => rfl
    refine ⟨fun j k hj => ?_, iff_of_false Bool.false_ne_true ?_⟩
    · rw [hnone] at hj
      cases hj
    · rintro ⟨k, hk⟩
      rw [hnone] at hk
      cases hk

/-! ## The discipline of iterations -/

/-- The state of a session between two calls, when some variables were yielded. -/
structure Disciplined (ir : IR) (yielded : List Variable) (s : Session) : Prop where
  unique : ∀ j k, s.isOpen j = true → s.isOpen k = true → j = k
  flag : s.builder.iterating = true ↔ ∃ k, s.isOpen k = true
  /-- A builder that has not finished refuses an iterator exactly while one is open. -/
  refused : s.builder.phase ≠ .finished →
    (s.iter = .error (.alreadyIterating s.builder.source.name) ↔ ∃ k, s.isOpen k = true)
  /-- It gives one otherwise. -/
  granted : s.builder.phase ≠ .finished → (∀ k, s.isOpen k = false) →
    ∃ opened, s.iter = .ok opened ∧ ∀ k, opened.isOpen k = true ↔ k = s.iterators.length
  close_again : ∀ k, s.isOpen k = false → s.close k = s
  close_other : ∀ j k, j ≠ k → (s.close k).isOpen j = s.isOpen j
  cursor_le : s.builder.cursor ≤ ir.size
  yielded : yielded = (List.range' 1 s.builder.cursor).map Variable.mk
  remap : s.builder.remap = (List.range' 1 s.builder.cursor).map fun k => (⟨k⟩, ⟨k⟩)
  ends : ∀ env k, s.isOpen k = true → (s.next env k).2 = .ok none → s.builder.cursor = ir.size

namespace Paced

variable {ir : IR} {yielded : List Variable}

theorem cursor_of_end (h : Paced ir yielded s) {env : Environment} {k : Nat}
    (hopen : s.isOpen k = true) (hnext : (s.next env k).2 = .ok none) :
    s.builder.cursor = ir.size := by
  have hsteps := s.builder.step_steps env
  rw [next, if_pos hopen] at hnext
  revert hsteps hnext
  generalize s.builder.step env = outcome
  intro hnext hsteps
  cases hsteps with
  | gone hcanvas fault => cases hnext
  | failed hcanvas hlt fault => cases hnext
  | copied hcanvas hlt after copy => cases hnext
  | ended hcanvas hend => exact Nat.le_antisymm h.builder.cursor_le (h.builder.source ▸ hend)

theorem iter_cases (h : Paced ir yielded s) (hphase : s.builder.phase ≠ .finished) :
    s.iter = if s.builder.iterating then .error (.alreadyIterating s.builder.source.name)
      else .ok ⟨{ s.builder with iterating := true }, s.iterators ++ [true]⟩ := by
  cases hc : s.builder.canvas with
  | none => exact absurd (h.builder.finished.2 hc) hphase
  | some c => exact iter_eq hc

theorem disciplined (h : Paced ir yielded s) : Disciplined ir yielded s where
  unique := h.exclusive.unique
  flag := h.exclusive.flag
  refused hphase := by
    rw [h.iter_cases hphase, ← h.exclusive.flag]
    cases s.builder.iterating with
    | true => exact iff_of_true rfl rfl
    | false =>
      refine iff_of_false ?_ Bool.false_ne_true
      intro hsame
      cases hsame
  granted hphase hnone := by
    have hflag : s.builder.iterating = false := by
      rw [Bool.eq_false_iff, Ne, h.exclusive.flag]
      rintro ⟨k, hk⟩
      rw [hnone k] at hk
      cases hk
    refine ⟨⟨{ s.builder with iterating := true }, s.iterators ++ [true]⟩, ?_, fun k => ?_⟩
    · rw [h.iter_cases hphase, hflag]
      rfl
    · rw [isOpen_opened]
      have hk : isOpen ⟨{ s.builder with iterating := true }, s.iterators⟩ k = false := hnone k
      simp [hk]
  close_again _ := close_of_closed
  close_other j k hjk := by simp [isOpen_close, hjk]
  cursor_le := h.builder.cursor_le
  yielded := h.builder.yielded
  remap := by
    rw [h.builder.remap, Builder.variablesUpTo, List.map_map]
    rfl
  ends _ _ := h.cursor_of_end

end Paced

/-- After any calls on any iterators, in any order and whether they failed or not, at
most one iterator is open and the builder knows it, and all iterators together have
yielded the source from its first statement up to the cursor, without a repetition or
a gap. -/
theorem run_disciplined {ir : IR} {start : Session} (h : ofIR ir = .ok start)
    (calls : List Call) : Disciplined ir (start.yielded calls) (start.run calls) :=
  ((paced_of_ofIR h).run calls).disciplined

/-- Two iterators over the counting loop: a step of the first, a refused second one, the
first closed twice with a step of its successor in between, and an edit. -/
def handedOver : List Call :=
  [.iter, .next .empty 0, .iter, .close 0, .iter, .next .empty 1, .close 0,
    .edit (.delete (.variable ⟨1⟩)), .next .empty 1, .next .empty 0]

theorem run_disciplined_handedOver :
    Disciplined Samples.countingLoop [⟨1⟩, ⟨2⟩, ⟨3⟩]
      (run ⟨⟨Samples.countingLoop, some (.empty 7), [], 0, .idle, [], false⟩, []⟩ handedOver) :=
  run_disciplined ofIR_countingLoop handedOver

end Session
end SsaEdit
