import DisastrOS.Trials

/-! The lists of the kernel over whole runs.

The results of `List_insert` and `List_detach` are ignored by their callers. A
guarded heap has no meaning where one of them would go wrong; the kernel runs on
it all the same.
-/

set_option autoImplicit false

namespace DisastrOS

open Refinement

/-! ## The guarded heap -/

namespace Heap

def list (m : Heap) (h : Head) : List Addr := m.walk (m.links.head h).size.toNat (m.links.head h).first

/-- What a caller that ignores the result relies on: `List_insert` does not
return 0 and `List_detach` is given an element of the list it names. -/
def Guards : {β : Type} → Op β → Heap → Prop
  | _, .insert head prev item, m => (m.links.List_insert head prev item).1 ≠ none
  | _, .detach head item, m => item ∈ m.list head
  | _, _, _ => True

instance : {β : Type} → (op : Op β) → (m : Heap) → Decidable (Guards op m)
  | _, .insert .., _ => inferInstanceAs (Decidable (_ ≠ _))
  | _, .detach .., _ => inferInstanceAs (Decidable (_ ∈ _))
  | _, .first _, _ | _, .last _, _ | _, .size _, _ | _, .next _, _ | _, .clear _, _ | _, .init _, _
  | _, .getBlock _, _ | _, .releaseBlock .., _ => inferInstanceAs (Decidable True)

end Heap

/-- The heap, as long as its callers may ignore what it returns. -/
def guarded : DataType Op where
  Data := Heap
  exec op m := if m.Guards op then m.exec op else none

theorem Represents.guards {c : Config} {m : Heap} {a a' : Arena (layout c)} {β : Type} {op : Op β}
    {value : β} (rep : Represents c m a) (run : sequences c op a = some (value, a')) : m.Guards op := by
  cases op with
  | insert head prev item =>
    simp only [sequences] at run
    split at run
    · rename_i ok
      obtain ⟨links, inserted, -⟩ := rep.insert ok
      rw [Heap.Guards, inserted]
      exact Option.some_ne_none _
    · cases run
  | detach head item =>
    simp only [sequences] at run
    split at run
    · rename_i linked
      have listed : m.list head = a.seq head := rep.list (k := ⟨.zero, m⟩) head
      rw [Heap.Guards, listed]
      exact a.sound.mem_seq.mpr linked
    · cases run
  | _ => trivial

/-- The guarded heap refines the arena as well. -/
theorem guarded_refines (c : Config) : Refines guarded (arena c) (Represents c) where
  sim := by
    intro β op m a a' value rep run
    obtain ⟨m', exec, rep'⟩ := (heap_refines c).sim op m a a' value rep run
    exact ⟨m', (if_pos (rep.guards run)).trans exec, rep'⟩

section
variable {c : Config} {fuel : Nat} {m : Kernel} {k : Scene}

theorem Shows.defined {code : Code Unit} {R : Ending → Prop} (shows : Shows c m k)
    (meets : k.Meets c fuel code R) :
    code.run guarded fuel (⟨m.store, m.data⟩ : State Store guarded.Data) ≠ .undefined := by
  obtain ⟨a, rep, same⟩ := shows.represented
  have sound := shows.sound
  have related : Represents c m.data (⟨k.toShape, sound⟩ : Arena (layout c)) := by
    rwa [← Arena.eq_of_shape (a := a) (b := ⟨k.toShape, sound⟩) same]
  have simulates := (guarded_refines c).run fuel code k.store m.data ⟨k.toShape, sound⟩ related
  have sat := meets sound
  rw [Refinement.wp] at sat
  rw [shows.store]
  intro undefined
  cases abstract : code.run (arena c) fuel (⟨k.store, ⟨k.toShape, sound⟩⟩ : View c) with
  | done value v =>
    rw [abstract, undefined] at simulates
    obtain ⟨data, result, -⟩ := simulates
    cases result
  | fault stop =>
    rw [abstract, undefined] at simulates
    cases simulates
  | undefined =>
    rw [abstract] at sat
    exact sat
  | exhausted =>
    rw [abstract, undefined] at simulates
    cases simulates

/-- No event makes `List_insert` return 0 or detaches an item that is not in the list. -/
theorem Event.defined (e : Event) (shows : Shows c m k) (inv : Coherent c k.store.running none k)
    (fuel : Nat) :
    (e.code c).run guarded fuel (⟨m.store, m.data⟩ : State Store guarded.Data) ≠ .undefined := by
  intro undefined
  have more := Program.run_extends guarded (Nat.le_max_left fuel ((blocks c).card + 1)) (e.code c)
    (⟨m.store, m.data⟩ : State Store guarded.Data)
  rw [undefined] at more
  exact shows.defined (e.meets inv rfl (by omega)) (more.resolve_left nofun)

end

/-! ## Ownership -/

/-- The lists of the kernel between two handlers. -/
structure Owned (c : Config) (m : Kernel) : Prop where
  lists : ∀ h, m.data.links.Holds h (m.list h)
  once : ∀ h, (m.list h).Nodup
  unique : ∀ x h h', x ∈ m.list h → x ∈ m.list h' → h = h'
  running : ∀ r, m.store.running = some r → m.Allocated c r ∧ r.pool = .pcb
  placed : ∀ p, m.Allocated c p → p.pool = .pcb →
    (m.store.running = some p ↔
      p ∉ m.list .ready_list ∧ p ∉ m.list .waiting_list ∧ p ∉ m.list .zombie_list)
  clean : ∀ q ∈ blocks c, q.pool = .message_queue → ¬ m.Allocated c q →
    m.data.links.item q = ⟨none, none⟩
  guarded : ∀ e fuel,
    (Event.code c e).run guarded fuel (⟨m.store, m.data⟩ : State Store guarded.Data) ≠ .undefined

theorem lists_owned (c : Constants) {m : Kernel} (reach : Reachable c.toConfig m) : Owned c.toConfig m := by
  obtain ⟨k, shows, inv, -⟩ := reach.shows
  constructor
  · exact shows.holds
  · intro h
    rw [shows.list]
    exact inv.sound.nodup h
  · intro x h h' here there
    rw [shows.mem_list] at here there
    cases here.symm.trans there
    rfl
  · intro r runs
    rw [shows.store] at runs
    rw [shows.allocated]
    exact inv.processes.runs runs
  · intro p alive pool
    have stands := inv.processes.stands ((shows.allocated p).mp alive) pool
    rw [shows.store, shows.mem_list, shows.mem_list, shows.mem_list]
    rcases stands with ⟨runs, unlinked, -⟩ | ⟨other, ⟨linked, -⟩ | ⟨linked, -⟩ | ⟨linked, -⟩⟩
    · simp [runs, unlinked]
    all_goals simp [other, linked]
  · intro q inside pool out
    obtain ⟨a, rep, same⟩ := shows.represented
    have free : q ∈ a.free q.pool := by
      rw [rep.allocated] at out
      by_contra taken
      exact out ⟨inside, taken⟩
    exact rep.clean q (a.sound.free_clean free).2.2
  · intro e fuel
    exact e.defined shows inv fuel

/-- A child is ready while the first process runs. -/
def child_ready : Observed always fun m => block .pcb 1 ∈ m.list .ready_list :=
  observe always [.syscall DSOS_CALL_SPAWN (arguments [1, 2])] (by decide +kernel)

theorem lists_owned_child : ∃ m, Reachable constants.toConfig m ∧
    block .pcb 1 ∈ m.list .ready_list ∧ Owned constants.toConfig m := by
  obtain ⟨m, reach, ready⟩ := child_ready
  exact ⟨m, reach.reachable, ready, lists_owned constants reach.reachable⟩

end DisastrOS
