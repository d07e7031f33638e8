/-
A step that fails, and another attempt.

`Builder.Obstacle` lists what can keep a step from copying the next statement.  All of it
is found out before anything is stored, so by `step_of_error` a failed step changes the
phase and nothing else.  The phase does not matter to a later step or edit, which is why
another attempt, through a new iterator and after any edits, comes to what the first one
would have come to.
-/
import SsaEdit.Proofs.Session.Iteration
import SsaEdit.Proofs.Session.Reachable

namespace SsaEdit

theorem Environment.lookup?_bind (env : Environment) (g : GlobalRef) (value : Value) :
    (env.bind g value).lookup? g = some value := by
  simp [bind, setScope, lookup?, scope, Scope.lookup, Scope.bind]

namespace Builder

variable {b after : Builder} {c : Canvas} {env : Environment} {fault : Fault}

/-! ## What stops a step -/

/-- What can keep a step from copying the next statement. -/
inductive Obstacle (env : Environment) (b : Builder) (c : Canvas) : Fault → Prop
  /-- Its callee is a global without a binding. -/
  | unbound {g : GlobalRef} {args : List Value} {type : Value}
    (hnext : b.source.body[b.cursor]? = some ⟨.call (.node (.global g)) args, type⟩)
    (hmissing : env.lookup? g = none) : Obstacle env b c ((env.scope g.home).missing g.name)
  /-- The source has no location for it. -/
  | unlocated (hlocation : b.source.locations[b.cursor]? = none) :
    Obstacle env b c .missingLocation
  /-- Its id is not set aside any more, because the canvas was renumbered. -/
  | released (hbeyond : c.reserved < b.cursor + 1) :
    Obstacle env b c (.notReserved ⟨b.cursor + 1⟩)
  /-- Another statement was placed under its id. -/
  | taken (hthere : b.cursor + 1 ∈ c.slots) : Obstacle env b c (.alreadyPlaced ⟨b.cursor + 1⟩)

/-- Only a global callee can fail to be bound. -/
theorem exists_of_bindCallee_error {f : Reference → Nat} {n : Node}
    (h : env.bindCallee (n.mapIds f) = .error fault) :
    ∃ g args, n = .call (.node (.global g)) args ∧ env.lookup? g = none ∧
      fault = (env.scope g.home).missing g.name := by
  cases hcalls : n.callsGlobal with
  | false =>
    rw [Environment.bindCallee_of_callsGlobal_eq_false
      ((Node.callsGlobal_mapIds f n).trans hcalls)] at h
    cases h
  | true =>
    obtain ⟨g, args, rfl⟩ := Node.callsGlobal_eq_true hcalls
    have hresolve : (env.resolve g).map (fun callee => Node.call callee (args.map (Value.mapId f))) =
        .error fault := h
    rw [Environment.resolve] at hresolve
    cases hlookup : env.lookup? g with
    | some callee =>
      rw [hlookup] at hresolve
      cases hresolve
    | none =>
      rw [hlookup] at hresolve
      exact ⟨g, args, rfl, hlookup, (Except.error.inj hresolve).symm⟩

/-- A statement can be placed under any id that is set aside and free. -/
theorem cases_of_place_error {v : Variable} {s : Statement} {location : Value} (hpos : 1 ≤ v.id)
    (h : c.place v s.toValue location = .error fault) :
    (c.reserved < v.id ∧ fault = .notReserved v) ∨ (v.id ∈ c.slots ∧ fault = .alreadyPlaced v) := by
  rw [Canvas.Lawful.place_eq] at h
  split at h
  · split at h
    · rename_i hthere
      exact Or.inr ⟨Std.TreeMap.mem_iff_contains.2 hthere, (Except.error.inj h).symm⟩
    · cases h
  · rename_i hrange
    exact Or.inl ⟨by omega, (Except.error.inj h).symm⟩

theorem obstacle_of_copy {s : Statement} (hs : b.source.body[b.cursor]? = some s)
    (h : b.copy env c s = .error fault) : Obstacle env b c fault := by
  rw [copy] at h
  cases hnode : env.bindCallee (s.node.mapIds b.resolve) with
  | error cause =>
    rw [hnode] at h
    obtain rfl : cause = fault := Except.error.inj h
    obtain ⟨n, type⟩ := s
    obtain ⟨g, args, rfl, hmissing, rfl⟩ := exists_of_bindCallee_error hnode
    exact .unbound hs hmissing
  | ok node =>
    rw [hnode] at h
    cases hlocation : b.source.locations[b.cursor]? with
    | none =>
      rw [hlocation] at h
      obtain rfl := Except.error.inj h
      exact .unlocated hlocation
    | some location =>
      rw [hlocation] at h
      cases hplace : c.place ⟨b.cursor + 1⟩ (Statement.toValue ⟨node, s.type⟩) location with
      | ok placed =>
        simp [hplace, bind, Except.bind, pure, Except.pure] at h
      | error cause =>
        obtain rfl : cause = fault := by
          simpa [hplace, bind, Except.bind] using h
        rcases cases_of_place_error (Nat.le_add_left 1 _) hplace with ⟨hlt, rfl⟩ | ⟨hthere, rfl⟩
        · exact .released hlt
        · exact .taken hthere

/-! ## Steps of a builder in use -/

/-- A failed step changes the phase and nothing else. -/
theorem step_of_error (hc : b.canvas = some c) (h : b.step env = (after, .error fault)) :
    after = { b with phase := .iterating } ∧ b.cursor < b.source.size ∧
      Obstacle env b c fault := by
  cases hs : b.source.body[b.cursor]? with
  | none =>
    simp only [step, liveCanvas, hc, hs] at h
    injection h with _ h
    cases h
  | some s =>
    rw [step_eq hc hs] at h
    cases hcopy : b.copy env c s with
    | ok done =>
      rw [hcopy] at h
      injection h with _ h
      cases h
    | error cause =>
      rw [hcopy] at h
      injection h with hafter hfault
      obtain rfl := Except.error.inj hfault
      exact ⟨hafter.symm, (List.getElem?_eq_some_iff.1 hs).1, obstacle_of_copy hs hcopy⟩

/-- While there is something to copy, the phase does not matter to a step. -/
theorem step_phase (hc : b.canvas ≠ none) (hlt : b.cursor < b.source.size) (p : Phase)
    (env : Environment) : ({ b with phase := p } : Builder).step env = b.step env := by
  obtain ⟨c, hc⟩ := Option.ne_none_iff_exists'.1 hc
  have hs := List.getElem?_eq_getElem hlt
  rw [step_eq hc hs, step_eq (b := { b with phase := p }) hc hs]
  rfl

/-- With its callee bound a statement is copied, if its location and its id are there. -/
theorem step_of_callee (hc : b.canvas = some c) {g : GlobalRef} {args : List Value}
    {type location callee : Value}
    (hnext : b.source.body[b.cursor]? = some ⟨.call (.node (.global g)) args, type⟩)
    (hlocation : b.source.locations[b.cursor]? = some location)
    (hle : b.cursor + 1 ≤ c.reserved) (hfree : b.cursor + 1 ∉ c.slots)
    (hcallee : env.lookup? g = some callee) :
    ∃ placed, c.place ⟨b.cursor + 1⟩
          (.statement (.call callee (args.map (Value.mapId b.resolve))) type) location =
        .ok placed ∧
      b.step env = (b.advanced placed, .ok (some (⟨b.cursor + 1⟩,
        ⟨.call callee (args.map (Value.mapId b.resolve)), type⟩))) := by
  have hcontains : c.slots.contains (b.cursor + 1) = false := by
    rw [← Bool.not_eq_true, ← Std.TreeMap.mem_iff_contains]
    exact hfree
  obtain ⟨placed, hplace⟩ : ∃ placed, c.place ⟨b.cursor + 1⟩
      (.statement (.call callee (args.map (Value.mapId b.resolve))) type) location =
        .ok placed := by
    rw [Canvas.Lawful.place_eq, if_pos ⟨Nat.le_add_left 1 _, hle⟩, hcontains]
    exact ⟨_, rfl⟩
  have hnode : env.bindCallee ((Node.call (.node (.global g)) args).mapIds b.resolve) =
      .ok (.call callee (args.map (Value.mapId b.resolve))) := by
    show (env.resolve g).map _ = _
    rw [Environment.resolve, hcallee]
    rfl
  have hcopy : b.copy env c ⟨.call (.node (.global g)) args, type⟩ =
      .ok (placed, ⟨.call callee (args.map (Value.mapId b.resolve)), type⟩) := by
    simp [copy, hnode, hlocation, Statement.toValue, hplace, bind, Except.bind, pure, Except.pure]
  exact ⟨placed, hplace, by rw [step_eq hc hnext, hcopy]⟩

end Builder

namespace Session

variable {s t after : Session} {c : Canvas} {env : Environment} {k : Nat} {fault : Fault}

/-! ## Steps of an open iterator -/

theorem close_of_open (h : s.isOpen k = true) :
    s.close k = ⟨{ s.builder with iterating := false }, s.iterators.set k false⟩ := if_pos h

/-- A step fails through an open iterator, which it closes. -/
theorem next_of_error (h : s.next env k = (after, .error fault)) :
    s.isOpen k = true ∧ ∃ b, s.builder.step env = (b, .error fault) ∧
      after = ⟨{ b with iterating := false }, s.iterators.set k false⟩ := by
  rw [next] at h
  split at h
  case isFalse =>
    injection h with _ h
    cases h
  case isTrue hopen =>
    refine ⟨hopen, ?_⟩
    generalize s.builder.step env = outcome at h
    obtain ⟨b, result⟩ := outcome
    cases result with
    | ok item =>
      have hresult := congrArg Prod.snd h
      cases item with
      | none => cases hresult
      | some item => cases hresult
    | error cause =>
      injection h with hafter hfault
      refine ⟨b, by rw [Except.error.inj hfault], ?_⟩
      rw [← hafter]
      exact close_of_open (s := ⟨b, s.iterators⟩) hopen

/-- What an open iterator comes to depends on the step of its builder alone. -/
theorem next_eq_next {j k : Nat} (hj : s.isOpen j = true) (hk : t.isOpen k = true)
    (hstep : s.builder.step env = t.builder.step env) :
    (s.next env j).2 = (t.next env k).2 ∧
      (s.next env j).1.builder = (t.next env k).1.builder := by
  rw [next, if_pos hj, next, if_pos hk, hstep]
  generalize t.builder.step env = outcome
  obtain ⟨b, result⟩ := outcome
  have hclosed : (close ⟨b, s.iterators⟩ j).builder = (close ⟨b, t.iterators⟩ k).builder := by
    rw [close_of_open (s := ⟨b, s.iterators⟩) hj, close_of_open (s := ⟨b, t.iterators⟩) hk]
  cases result with
  | error fault => exact ⟨rfl, hclosed⟩
  | ok item =>
    cases item with
    | none => exact ⟨rfl, hclosed⟩
    | some item => exact ⟨rfl, rfl⟩

theorem run_edits (hc : s.builder.canvas = some c) (edits : List Canvas.Edit) :
    s.run (edits.map .edit) =
      ⟨{ s.builder with canvas := some (c.runAll edits) }, s.iterators⟩ := by
  induction edits generalizing s c with
  | nil =>
    show s = ⟨{ s.builder with canvas := some c }, s.iterators⟩
    rw [← hc]
  | cons e rest ih =>
    have hedit : (s.edit e).1 =
        ⟨{ s.builder with canvas := some (c.run e).1 }, s.iterators⟩ := by
      rw [edit, Builder.edit, Builder.liveCanvas, hc]
    show (s.edit e).1.run (rest.map .edit) = _
    rw [hedit]
    exact ih rfl

/-! ## Another attempt -/

/-- A session after a step of iterator `k` has failed. -/
def stopped (s : Session) (k : Nat) : Session :=
  ⟨{ s.builder with phase := .iterating, iterating := false }, s.iterators.set k false⟩

/-- The same with a new iterator. -/
def resumed (s : Session) (k : Nat) : Session :=
  ⟨{ s.builder with phase := .iterating, iterating := true }, s.iterators.set k false ++ [true]⟩

theorem iter_stopped (hc : s.builder.canvas = some c) (k : Nat) :
    (s.stopped k).iter = .ok (s.resumed k) := by
  rw [iter_eq (s := s.stopped k) hc]
  rfl

theorem isOpen_resumed (s : Session) (k : Nat) :
    (s.resumed k).isOpen s.iterators.length = true :=
  (isOpen_opened _ _ _).2 (Or.inr List.length_set.symm)

/-- Where one iterator is open, none is after it has failed. -/
theorem isOpen_stopped (h : s.Exclusive) (hopen : s.isOpen k = true) (j : Nat) :
    (s.stopped k).isOpen j = false := by
  have hsame : (s.stopped k).isOpen j = (s.close k).isOpen j := by
    rw [close_of_open hopen]
    rfl
  rw [hsame, isOpen_close]
  cases hj : s.isOpen j with
  | false => rfl
  | true => rw [h.unique j k hj hopen, bne_self_eq_false, Bool.and_false]

/-- After any edits the new iterator comes to what the first one would have come to after
them. -/
theorem next_resumed (hc : s.builder.canvas = some c) (hopen : s.isOpen k = true)
    (hflag : s.builder.iterating = true) (hlt : s.builder.cursor < s.builder.source.size)
    (edits : List Canvas.Edit) (env : Environment) :
    (((s.resumed k).run (edits.map .edit)).next env s.iterators.length).2 =
        ((s.run (edits.map .edit)).next env k).2 ∧
      (((s.resumed k).run (edits.map .edit)).next env s.iterators.length).1.builder =
        ((s.run (edits.map .edit)).next env k).1.builder := by
  rw [run_edits hc, run_edits (s := s.resumed k) hc]
  refine next_eq_next (s.isOpen_resumed k) hopen ?_
  rw [resumed, ← hflag]
  exact Builder.step_phase (b := { s.builder with canvas := some (c.runAll edits) })
    (Option.some_ne_none _) hlt .iterating env

/-- What is left when a step of iterator `k` has failed, and what another attempt comes
to. -/
structure Retryable (env : Environment) (s : Session) (k : Nat) (c : Canvas) (after : Session)
    (fault : Fault) : Prop where
  /-- The canvas, the copies, the cursor and the places are what they were. -/
  builder : after.builder = { s.builder with phase := .iterating, iterating := false }
  closed : ∀ j, after.isOpen j = false
  obstacle : s.builder.Obstacle env c fault
  /-- A new iterator comes, after any edits, to what the first one would have come to after
  them, whatever has been bound meanwhile. -/
  again : ∃ opened, after.iter = .ok opened ∧ opened.isOpen s.iterators.length = true ∧
    ∀ (edits : List Canvas.Edit) (env' : Environment),
      ((opened.run (edits.map .edit)).next env' s.iterators.length).2 =
          ((s.run (edits.map .edit)).next env' k).2 ∧
        ((opened.run (edits.map .edit)).next env' s.iterators.length).1.builder =
          ((s.run (edits.map .edit)).next env' k).1.builder
  /-- Had the callee been bound, the statement would have been copied, if its location and
  its id are there. -/
  bound : ∀ (g : GlobalRef) (args : List Value) (type location : Value),
    s.builder.source.body[s.builder.cursor]? = some ⟨.call (.node (.global g)) args, type⟩ →
    s.builder.source.locations[s.builder.cursor]? = some location →
    s.builder.cursor + 1 ≤ c.reserved → s.builder.cursor + 1 ∉ c.slots →
    ∀ callee, ∃ placed,
      c.place ⟨s.builder.cursor + 1⟩
          (.statement (.call callee (args.map (Value.mapId s.builder.resolve))) type) location =
        .ok placed ∧
      s.next (env.bind g callee) k = ({ s with builder := s.builder.advanced placed },
        .ok (some (⟨s.builder.cursor + 1⟩,
          ⟨.call callee (args.map (Value.mapId s.builder.resolve)), type⟩)))

/-- In any state that calls lead to, a step that fails before the builder has finished
leaves everything as it was but for the phase and the iterator, which is closed, and can
be made again. -/
theorem next_retryable {ir : IR} (h : Reachable ir s) (hphase : s.builder.phase ≠ .finished)
    (hfails : s.next env k = (after, .error fault)) :
    ∃ c, s.builder.canvas = some c ∧ Retryable env s k c after fault := by
  obtain ⟨start, calls, hstart, rfl⟩ := h
  have hpaced := (paced_of_ofIR hstart).run calls
  generalize start.run calls = s at hpaced hphase hfails
  obtain ⟨c, hc⟩ : ∃ c, s.builder.canvas = some c :=
    Option.ne_none_iff_exists'.1 fun hnone => hphase (hpaced.builder.finished.2 hnone)
  obtain ⟨hopen, b, hstep, rfl⟩ := next_of_error hfails
  obtain ⟨rfl, hlt, hobstacle⟩ := Builder.step_of_error hc hstep
  have hflag : s.builder.iterating = true := hpaced.exclusive.flag.2 ⟨k, hopen⟩
  refine ⟨c, hc, rfl, isOpen_stopped hpaced.exclusive hopen, hobstacle, ?_, ?_⟩
  · exact ⟨s.resumed k, iter_stopped hc k, s.isOpen_resumed k, next_resumed hc hopen hflag hlt⟩
  · intro g args type location hnext hlocation hle hfree callee
    obtain ⟨placed, hplace, hcopied⟩ := Builder.step_of_callee hc hnext hlocation hle hfree
      (env.lookup?_bind g callee)
    exact ⟨placed, hplace, by rw [next, if_pos hopen, hcopied]⟩

/-- A call of a global. -/
def greeting : IR where
  name := "greeting"
  nargs := .int 1
  slots := ["a1"]
  lineTable := [⟨some "test.py", 1, some "greeting"⟩]
  body :=
    [⟨.argument 1, .unknown⟩,
     ⟨.call (.node (.global ⟨.named "lib", "print"⟩)) [.variable ⟨1⟩], .text "Int"⟩,
     ⟨.ret (.variable ⟨2⟩), .unknown⟩]
  locations := List.replicate 3 (.int 0)
  metadata := []

/-- The global is not bound when it is visited, and a statement is put at the start before
it is visited again. -/
theorem next_retryable_greeting :
    ∃ start s after, ofIR greeting = .ok start ∧ s = start.run [.iter, .next .empty 0] ∧
      Reachable greeting s ∧ s.builder.phase ≠ .finished ∧
      s.next .empty 0 = (after, .error (.unbound "print" none)) ∧
      after.builder.cursor = 1 ∧
      ∃ opened, after.iter = .ok opened ∧
        ((opened.run [.edit (.pushFirst (.node (.const .null)) none)]).next
            (Environment.empty.bind ⟨.named "lib", "print"⟩ (.callable "print")) 1).2 =
          .ok (some (⟨2⟩, ⟨.call (.callable "print") [.variable ⟨1⟩], .text "Int"⟩)) := by
  have hstart : ofIR greeting =
      .ok ⟨⟨greeting, some (.empty 3), [], 0, .idle, [], false⟩, []⟩ := rfl
  have hreachable := (⟨_, [.iter, .next .empty 0], hstart, rfl⟩ : Reachable greeting _)
  have hphase : (run ⟨⟨greeting, some (.empty 3), [], 0, .idle, [], false⟩, []⟩
      [.iter, .next .empty 0]).builder.phase ≠ .finished := by decide
  have hfails : next .empty (run ⟨⟨greeting, some (.empty 3), [], 0, .idle, [], false⟩, []⟩
      [.iter, .next .empty 0]) 0 = (_, .error (.unbound "print" none)) := rfl
  obtain ⟨c, -, hretryable⟩ := next_retryable hreachable hphase hfails
  obtain ⟨opened, hiter, -, hsame⟩ := hretryable.again
  have hsecond := (hsame [.pushFirst (.node (.const .null)) none]
    (Environment.empty.bind ⟨.named "lib", "print"⟩ (.callable "print"))).1
  refine ⟨_, _, _, hstart, rfl, hreachable, hphase, hfails, ?_, opened, hiter, ?_⟩
  · rw [hretryable.builder]
    rfl
  · exact hsecond.trans rfl

end Session
end SsaEdit
