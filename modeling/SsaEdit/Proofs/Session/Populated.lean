/-
Runs that may come to an end.

Among the operations of a builder is the end.  One that is refused for what dangles leaves
the canvas where it is, and any other takes it away for good.  `Populated` is what a run of
these operations keeps: either the canvas is gone, or the builder copies, up to what was
overwritten, and the ids on the canvas beyond those of the source are the ones that the
edits gave.
-/
import SsaEdit.Proofs.Canvas.Roll
import SsaEdit.Proofs.Session.Turns

namespace SsaEdit
namespace Session

/-! ## Inserted statements -/

/-- The variable that a call inserts a statement under, if it inserts one. -/
def inserts (s : Session) : Call → Option Variable
  | .edit e => Canvas.givenId (s.edit e).2
  | _ => none

/-- The variables that some calls insert statements under, in order. -/
def inserted (s : Session) : List Call → List Variable
  | [] => []
  | call :: rest => (s.inserts call).toList ++ (s.perform call).inserted rest

/-! ## Own operations -/

/-- Whether a call uses an operation of the builder or of an iterator.  The builder has
none to place a statement by hand or to renumber before the end. -/
def Call.isOwn : Call → Bool
  | .edit e => e.isOrdinary
  | _ => true

/-- A builder that has come to an end, or copies onto a canvas that holds the
statements inserted so far. -/
def Populated (ir : IR) (overwritten inserted : List Variable) (b : Builder) : Prop :=
  b.canvas = none ∨ ∃ c, Copying ir overwritten b c ∧
    (c.idsBeyond ir.size).Perm (inserted.map Variable.id)

/-- A canvas that is gone does not come back. -/
theorem canvas_of_gone {s : Session} (h : s.builder.canvas = none) (call : Call) :
    (s.perform call).builder.canvas = none := by
  obtain ⟨iterating, hsame⟩ := (s.perform_turns call).of_gone h
  rw [hsame]
  exact h

namespace Populated

variable {ir : IR} {overwritten inserted : List Variable} {s : Session}

theorem edit {c : Canvas} (h : Copying ir overwritten s.builder c)
    (hids : (c.idsBeyond ir.size).Perm (inserted.map Variable.id)) {e : Canvas.Edit}
    (ho : e.isOrdinary = true) :
    Populated ir (overwritten ++ (s.overwrites (.edit e)).toList)
      (inserted ++ (s.inserts (.edit e)).toList) (s.edit e).1.builder := by
  have hedit : s.builder.edit e =
      ({ s.builder with canvas := some (c.run e).1 }, (c.run e).2) := by
    rw [Builder.edit, Builder.liveCanvas, h.canvas]
  have hgives := h.lawful.run_gives ho
  have hbuilder : (s.edit e).1.builder = { s.builder with canvas := some (c.run e).1 } :=
    congrArg Prod.fst hedit
  have hinserts : s.inserts (.edit e) = Canvas.givenId (c.run e).2 :=
    congrArg (Canvas.givenId ∘ Prod.snd) hedit
  have hoverwrites : s.overwrites (.edit e) = c.overwrites e := by
    rw [overwrites, h.canvas]
    rfl
  rw [hbuilder, hinserts, hoverwrites]
  refine Or.inr ⟨_, h.edit ho, ?_⟩
  -- The id that was given is beyond those of the source.
  have hgiven : ((Canvas.givenId (c.run e).2).toList.map Variable.id).filter (ir.size < ·) =
      (Canvas.givenId (c.run e).2).toList.map Variable.id := by
    rw [List.filter_eq_self]
    intro id hid
    obtain ⟨v, hv, rfl⟩ := List.mem_map.1 hid
    rw [hgives.fresh v (Option.mem_toList.1 hv), decide_eq_true_iff, ← h.reserved]
    exact h.lawful.reserved_lt
  have hafter := hgives.ids.filter (ir.size < ·)
  rw [List.filter_append, hgiven] at hafter
  rw [List.map_append]
  exact hafter.trans (hids.append_right _)

theorem perform (h : Populated ir overwritten inserted s.builder) {call : Call}
    (ho : call.isOwn = true) :
    Populated ir (overwritten ++ (s.overwrites call).toList)
      (inserted ++ (s.inserts call).toList) (s.perform call).builder := by
  have hquiet : ∀ {b : Builder}, Populated ir overwritten inserted b →
      Populated ir (overwritten ++ []) (inserted ++ []) b := by
    rw [List.append_nil, List.append_nil]
    exact fun hkept => hkept
  rcases h with hnone | ⟨c, hc, hids⟩
  · exact Or.inl (canvas_of_gone hnone call)
  · cases call with
    | edit e => exact edit hc hids ho
    | iter => exact hquiet (Or.inr ⟨c, iter_copying hc, hids⟩)
    | close k => exact hquiet (Or.inr ⟨c, close_copying hc k, hids⟩)
    | get target => exact hquiet (Or.inr ⟨c, hc, hids⟩)
    | next env k =>
      obtain ⟨after, hafter, hbeyond⟩ := next_copying hc env k
      exact hquiet (Or.inr ⟨after, hafter, hbeyond ▸ hids⟩)
    | finish strict =>
      refine hquiet ?_
      show Populated ir overwritten inserted (s.builder.finish strict).builder
      rcases s.builder.finish_builder strict with hsame | ⟨places, hfinished⟩
      · rw [hsame]
        exact Or.inr ⟨c, hc, hids⟩
      · exact Or.inl (congrArg Builder.canvas hfinished)

theorem run (h : Populated ir overwritten inserted s.builder) {calls : List Call}
    (ho : ∀ call ∈ calls, call.isOwn = true) :
    Populated ir (overwritten ++ s.overwritten calls) (inserted ++ s.inserted calls)
      (s.run calls).builder := by
  induction calls generalizing s overwritten inserted with
  | nil =>
    rw [Session.overwritten, Session.inserted, List.append_nil, List.append_nil]
    exact h
  | cons call rest ih =>
    have hrest := ih (h.perform (ho call List.mem_cons_self))
      fun next hnext => ho next (List.mem_cons_of_mem _ hnext)
    rw [List.append_assoc, List.append_assoc] at hrest
    exact hrest

end Populated

/-- A session that uses the operations of its builder from the start. -/
theorem run_populated {ir : IR} {start : Session} (h : ofIR ir = .ok start) {calls : List Call}
    (ho : ∀ call ∈ calls, call.isOwn = true) :
    Populated ir (start.overwritten calls) (start.inserted calls) (start.run calls).builder := by
  have hstart : Populated ir [] [] start.builder := Or.inr ⟨_, copying_of_ofIR h, .refl _⟩
  exact hstart.run ho

end Session
end SsaEdit
