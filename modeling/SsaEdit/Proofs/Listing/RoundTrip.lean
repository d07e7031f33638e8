/-
A printed body reads back as itself.

The scan goes through the header, the line table and the statements of a listing,
and the tree it has in each settled state evaluates to the part of the body that
was passed.  At the end of the listing that part is the whole body.
-/
import SsaEdit.Proofs.Listing.Items
import SsaEdit.Samples

namespace SsaEdit
namespace Listing

theorem Short.mono {m n : Nat} (hm : m ≤ n) (hn : Short n) : Short m :=
  short_iff.2 (Nat.lt_of_le_of_lt hm (short_iff.1 hn))

variable {text : List Char} {home : Namespace} {state : State} {tree : Tree} {ir : IR}
  {rest : List Char} {p : Tree → Prop}

/-! ## The header -/

theorem Reads.slots {name : Token} {slots : List Text} (hslots : ∀ slot ∈ slots, slot.Narrow)
    (h : ∀ tokens, tokens.mapM Token.text = .ok slots → Reads (.openBody name tokens) rest p) :
    Reads (.firstSlot name) (Listing.separated (slots.map printName) ++ ')' :: rest) p := by
  refine separated Token.text (fun tokens => .slotEnd name tokens)
    (fun tokens => .nextSlot name tokens) ?_ ?_ ?_ ?_ (stops_cons (by decide) _) hslots ?_
  · rintro rfl
    exact mark .closeRound rfl rfl (fun _ => rfl) (h [] rfl)
  · intro slot s hslot hs hmore
    refine Reads.name hslot rfl rfl hs ?_
    intro t hkind htext
    have hround : t.kind ≠ .mark .closeRound := by
      intro heq
      rw [heq] at hkind
      cases hkind
    have hstep : State.advance? (.firstSlot name) t = some (.slotEnd name [t]) := by
      rw [State.advance?, if_neg hround, if_pos hkind]
    exact ⟨_, hstep, hmore t htext⟩
  · intro tokens s hmore
    exact mark .comma rfl rfl (fun _ => rfl) hmore
  · intro tokens slot s hslot hs hmore
    refine Reads.name hslot rfl rfl hs ?_
    intro t hkind htext
    exact ⟨_, if_pos hkind, hmore t htext⟩
  · intro tokens htokens
    exact mark .closeRound rfl rfl (fun _ => rfl) (h tokens htokens)

theorem Reads.header {name : Text} {slots : List Text} (hname : name.Narrow)
    (hslots : ∀ slot ∈ slots, slot.Narrow)
    (h : ∀ tree : Tree, tree.eval text home = .ok ⟨name, .int slots.length, slots, [], [], [], []⟩ →
      Reads (.body tree .item) rest p) :
    Reads .start (Keyword.ir.spelling ++ ' ' :: (printName name ++ '(' ::
      (Listing.separated (slots.map printName) ++ ')' :: ' ' :: '\x7b' :: '\n' :: rest))) p := by
  refine keyword .ir rfl rfl (fun _ => rfl) (space ?_)
  refine Reads.name hname rfl rfl (stops_cons (by decide) _) ?_
  intro nameToken hkind hnameText
  refine ⟨.openSlots nameToken, if_pos hkind, mark .openRound rfl rfl (fun _ => rfl) ?_⟩
  refine Reads.slots hslots ?_
  intro tokens htokens
  refine space (mark .openCurly rfl rfl (fun _ => rfl) (newline (h _ ?_)))
  rw [Tree.eval, hnameText, htokens]
  rfl

/-! ## The line table and the statements -/

theorem Reads.lineTable {infos : List LineInfo} (hinfos : ∀ info ∈ infos, PrintableLine info)
    (hsettled : Settled state tree) (htree : tree.eval text home = .ok ir)
    (h : ∀ next after, Settled next after →
      after.eval text home = .ok { ir with lineTable := ir.lineTable ++ infos } →
      Reads next rest p) :
    Reads state ((infos.flatMap fun info => '\t' :: printLine info ++ ['\n']) ++ rest) p := by
  induction infos generalizing state tree ir with
  | nil =>
    have heval : tree.eval text home = .ok { ir with lineTable := ir.lineTable ++ [] } := by
      rw [List.append_nil]
      exact htree
    exact h state tree hsettled heval
  | cons info infos ih =>
    rw [List.flatMap_cons, List.append_assoc]
    refine lineEntry (hinfos info (List.mem_cons_self ..)) hsettled htree ?_
    intro next after hsettled hafter
    refine ih (fun x hx => hinfos x (List.mem_cons_of_mem _ hx)) hsettled hafter ?_
    intro next after hsettled hafter
    refine h next after hsettled ?_
    rw [hafter]
    simp only [List.append_assoc, List.cons_append, List.nil_append]

/-- The statements still to come, with their locations, after those of a body. -/
structure Pending (home : Namespace) (ir : IR) (todo : List Statement) (places : List Value) :
    Prop where
  located : ir.locations.length = ir.size
  paired : places.length = todo.length
  short : Short (ir.size + todo.length)
  nodes : ∀ s ∈ todo, PrintableNode home s.node
  types : ∀ s ∈ todo, PrintableType s.type
  locations : ∀ place ∈ places, PrintableLocation place

theorem Pending.next {s : Statement} {todo : List Statement} {place : Value} {places : List Value}
    (h : Pending home ir (s :: todo) (place :: places)) :
    Pending home { ir with body := ir.body ++ [s], locations := ir.locations ++ [place] } todo
      places := by
  have hsize : (ir.body ++ [s]).length = ir.size + 1 := by simp [IR.size]
  refine ⟨?_, Nat.succ.inj h.paired, ?_, fun x hx => h.nodes x (List.mem_cons_of_mem _ hx),
    fun x hx => h.types x (List.mem_cons_of_mem _ hx),
    fun x hx => h.locations x (List.mem_cons_of_mem _ hx)⟩
  · rw [IR.size, hsize, List.length_append, h.located]
    rfl
  · rw [IR.size, hsize]
    exact h.short.mono (by simp; omega)

/-- The statements still to come have the numbers after those that were read, and
their locations stand behind those that were read. -/
theorem Reads.statements {todo : List Statement} {places all : List Value} {first : Nat}
    (hpending : Pending home ir todo places) (hsettled : Settled state tree)
    (htree : tree.eval text home = .ok ir) (hfirst : first = ir.size + 1)
    (hall : all = ir.locations ++ places)
    (h : ∀ next after, Settled next after →
      after.eval text home =
        .ok { ir with body := ir.body ++ todo, locations := ir.locations ++ places } →
      Reads next rest p) :
    Reads state (((todo.zipIdx first).flatMap fun x =>
      '\t' :: printStatement x.2 x.1 (all[x.2 - 1]?.getD (.int 0)) ++ ['\n']) ++ rest) p := by
  induction todo generalizing state tree ir places first with
  | nil =>
    obtain rfl := List.eq_nil_of_length_eq_zero hpending.paired
    have heval : tree.eval text home =
        .ok { ir with body := ir.body ++ [], locations := ir.locations ++ [] } := by
      rw [List.append_nil, List.append_nil]
      exact htree
    exact h state tree hsettled heval
  | cons s todo ih =>
    obtain ⟨place, places, rfl⟩ : ∃ place others, places = place :: others :=
      List.exists_cons_of_length_eq_add_one hpending.paired
    have hplace : all[first - 1]?.getD (.int 0) = place := by
      rw [hall, hfirst, Nat.add_sub_cancel, ← hpending.located]
      simp
    rw [List.zipIdx_cons, List.flatMap_cons, List.append_assoc]
    simp only [hplace]
    rw [hfirst]
    refine statementEntry (hpending.nodes s (List.mem_cons_self ..))
      (hpending.types s (List.mem_cons_self ..)) (hpending.locations place (List.mem_cons_self ..))
      (hpending.short.mono (by simp)) hsettled htree ?_
    intro next after hsettled hafter
    refine ih hpending.next hsettled hafter (by simp [IR.size]) (by simp [hall]) ?_
    intro next after hsettled hafter
    refine h next after hsettled ?_
    rw [hafter]
    simp only [List.append_assoc, List.cons_append, List.nil_append]

/-! ## Whole listings -/

theorem print_eq (ir : IR) :
    print ir = Keyword.ir.spelling ++ ' ' :: (printName ir.name ++ '(' ::
      (separated (ir.slots.map printName) ++ ')' :: ' ' :: '\x7b' :: '\n' ::
        ((ir.lineTable.flatMap fun info => '\t' :: printLine info ++ ['\n']) ++
          (((ir.body.zipIdx 1).flatMap fun x =>
            '\t' :: printStatement x.2 x.1 (ir.locations[x.2 - 1]?.getD (.int 0)) ++ ['\n']) ++
            ['\x7d', '\n'])))) := by
  rw [print]
  simp only [List.append_assoc, List.cons_append, List.nil_append]

theorem reads_print (h : Printable home ir) :
    Reads .start (print ir) fun tree => tree.eval text home = .ok ir := by
  obtain ⟨name, nargs, slots, lineTable, body, locations, metadata⟩ := ir
  obtain rfl : nargs = .int slots.length := h.nargs
  obtain rfl : metadata = [] := h.metadata
  rw [print_eq]
  refine Reads.header h.name h.slots fun tree
    (htree : tree.eval text home = .ok ⟨name, .int slots.length, slots, [], [], [], []⟩) => ?_
  refine Reads.lineTable h.lines (settled_item tree) htree ?_
  intro state tree hsettled htree
  have hshort : Short (0 + body.length) := by
    rw [Nat.zero_add]
    exact h.short
  have hpending : Pending home ⟨name, .int slots.length, slots, lineTable, [], [], []⟩ body
      locations := ⟨rfl, h.located, hshort, h.nodes, h.types, h.locations⟩
  refine Reads.statements hpending hsettled htree rfl rfl ?_
  intro state tree hsettled htree
  have hclose : ∀ start, state.advance? ⟨.mark .closeCurly, ['\x7d'], start⟩ = some (.done tree) :=
    fun start => (hsettled.step _ (by simp [betweenKinds])).trans rfl
  exact .mark .closeCurly rfl hsettled.close hclose (.newline (.nil rfl htree))

/-- A listing of a printable body reads as that body. -/
theorem read_print (h : Printable home ir) : read home (print ir) = .ok ir := by
  have hreads : Reads .start (print ir) fun tree => tree.eval (print ir) home = .ok ir :=
    reads_print h
  obtain ⟨tree, hscan, heval⟩ := hreads 0 0
  rw [read, readTree, hscan]
  exact heval

/-- A body with every kind of node, and with names and literals that need quotes. -/
def assorted : IR where
  name := "mixed bag"
  nargs := .int 2
  slots := ["n", "in"]
  lineTable := [⟨some "a \"b\".py", 3, none⟩, ⟨none, 0, some "mixed bag"⟩]
  body :=
    [⟨.argument 1, .text "Int"⟩,
     ⟨.const (.float (.finite true ⟨6755399441055744, -52, by decide, by decide, by decide, by decide⟩)),
      .unknown⟩,
     ⟨.phi [(⟨1⟩, .int (-3)), (⟨6⟩, .variable ⟨5⟩)], .text ""⟩,
     ⟨.call (.node (.global ⟨.named "main", "lt"⟩)) [.variable ⟨3⟩, .text "%1\n", .null], .unknown⟩,
     ⟨.branch ⟨7⟩ (.variable ⟨4⟩), .unknown⟩,
     ⟨.branch ⟨3⟩ .null, .text "loop"⟩,
     ⟨.global ⟨.named "main", "lt"⟩, .unknown⟩,
     ⟨.ret (.float .nan), .unknown⟩]
  locations := [0, 0, 1, 1, 1, 2, 2, 12].map fun n => .int n
  metadata := []

theorem read_print_assorted : Printable (.named "main") assorted ∧
    read (.named "main") (print assorted) = .ok assorted := by
  have hprintable : Printable (.named "main") assorted := by
    refine ⟨rfl, rfl, rfl, ?_, ?_, ?_, ?_, ?_, ?_, ?_⟩ <;> decide +kernel
  exact ⟨hprintable, read_print hprintable⟩

end Listing
end SsaEdit
