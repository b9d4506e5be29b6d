import DisastrOS.Placement
import DisastrOS.Trials

/-! The answers a system call may have.

Each is a transition of the kernel, told by what the call leaves in the lists,
the pools and the store. What holds of single calls is made of these.
-/

set_option autoImplicit false

namespace DisastrOS

open Refinement

/-- The store once the call has been entered: the arguments and the context are saved. -/
def Store.entered (s : Store) (r : Addr) (num : Int) (args : Nat → Int) : Store :=
  s.setPCB r fun p =>
    { p with
      syscall_args := storeArgs p.syscall_args args (syscall_numarg num)
      syscall_num := num
      cpu_state := .swapped p.pid }

section
variable (c : Config) (m : Kernel) (r : Addr) (num : Int) (args : Nat → Int)

/-- The call answers `value` and changes nothing else. -/
def Answers (value : Int) : Prop :=
  ∃ m', Step c m (.syscall num args) m' ∧
    m'.store = (m.store.entered r num args).setPCB r (fun p => { p with syscall_retvalue := value }) ∧
    (∀ h, m'.list h = m.list h) ∧ ∀ x, m'.Allocated c x ↔ m.Allocated c x

def Rejects : Prop := ∃ value < 0, Answers c m r num args value

/-- The caller goes to sleep in both waiting lists, and the first ready process runs. -/
def Suspends (waiting : Addr → Head) : Prop :=
  ∃ m' q w n, Step c m (.syscall num args) m' ∧ m.queue (int32 (args 0)) = some q ∧
    m'.store.running = some n ∧ m.list .ready_list = n :: m'.list .ready_list ∧
    m'.list .waiting_list = m.list .waiting_list ++ [r] ∧ (m'.store.pcb r).status = .Waiting ∧
    m'.list (waiting q) = m.list (waiting q) ++ [w] ∧ m'.store.pcb_ptr w = some r ∧
    (∀ h, h ≠ .ready_list → h ≠ .waiting_list → h ≠ waiting q → m'.list h = m.list h) ∧
    ¬ m.Allocated c w ∧ ∀ x, m'.Allocated c x ↔ x = w ∨ m.Allocated c x

end

section
variable {c : Config} {m m' : Kernel} {k : Scene} {r : Addr} {num : Int} {args : Nat → Int}
  {H : Addr → Scene → Ending → Prop}

theorem Shows.handled (shows : Shows c m k) (inv : Coherent c k.store.running none k)
    (runs : k.store.running = some r) (handler : Handles c num = some H) (args : Nat → Int) :
    (∃ m' k', Step c m (.syscall num args) m' ∧ Shows c m' k' ∧ H r (k.enter r num args) (.done () k')) ∨
      (∃ stop, Halts c m (.syscall num args) stop ∧ H r (k.enter r num args) (.fault stop)) ∨
      (∃ k', H r (k.enter r num args) (.done () k') ∧ k'.store.running = none) ∨
      H r (k.enter r num args) .exhausted := by
  rcases shows.outcome inv (.syscall num args) with
    ⟨m', k', step, shows', reacts⟩ | ⟨stop, halts, reacts⟩ | loops
  · exact .inl ⟨m', k', step, shows', reacts.handler_ends handler runs⟩
  · rcases reacts.handler_fault handler runs with stops | idle
    · exact .inr (.inl ⟨stop, halts, stops⟩)
    · exact .inr (.inr (.inl idle))
  · exact .inr (.inr (.inr (loops.handler_loops handler runs)))

theorem Step.handled (step : Step c m (.syscall num args) m') (shows : Shows c m k)
    (inv : Coherent c k.store.running none k) (runs : k.store.running = some r)
    (handler : Handles c num = some H) :
    ∃ k', Shows c m' k' ∧ H r (k.enter r num args) (.done () k') := by
  obtain ⟨k', shows', reacts⟩ := step.reacts shows inv
  exact ⟨k', shows', reacts.handler_ends handler runs⟩

theorem Shows.entered (shows : Shows c m k) :
    m.store.entered r num args = (k.enter r num args).store := by
  rw [shows.store]
  rfl

theorem Shows.answers {value : Int} (shows : Shows c m k) (step : Step c m (.syscall num args) m')
    (shows' : Shows c m' ((k.enter r num args).answer r value)) : Answers c m r num args value := by
  refine ⟨m', step, ?_, fun h => ?_, fun x => ?_⟩
  · rw [shows'.store, shows.entered]
    rfl
  · rw [shows'.list, shows.list]
    rfl
  · rw [shows'.allocated, shows.allocated]
    rfl

theorem Shows.rejects {value : Int} (shows : Shows c m k) (step : Step c m (.syscall num args) m')
    (shows' : Shows c m' ((k.enter r num args).answer r value)) (negative : value < 0) :
    Rejects c m r num args := ⟨value, negative, shows.answers step shows'⟩

theorem Shows.suspends {waiting : Addr → Head} {n w q : Addr} {callNum : Int} (shows : Shows c m k)
    (inv : Coherent c k.store.running none k) (runs : k.store.running = some r)
    (step : Step c m (.syscall num args) m') (which : WaitsIn waiting callNum)
    (found : k.queue (int32 (args 0)) = some q) (ptr : (k.free .pcb_ptr).head? = some w)
    (ready : (k.seq .ready_list).head? = some n)
    (shows' : Shows c m' (((k.enter r num args).enqueue r w (waiting q)).dispatch n fun _ => .Running)) :
    Suspends c m r num args waiting := by
  have elsewhere : waiting q ≠ .ready_list ∧ waiting q ≠ .waiting_list := by cases which <;> simp
  obtain ⟨pool, -, fresh⟩ := inv.sound.top ptr
  have other : r ≠ n := by
    rintro rfl
    cases (inv.processes.not_waiting runs).symm.trans (inv.sound.first ready)
  obtain ⟨rest, first⟩ := List.head?_eq_some_iff.mp ready
  refine ⟨m', q, w, n, step, by rwa [shows.queue], ?_, ?_, ?_, ?_, ?_, ?_, fun h readies waits queue => ?_,
    fun alive => fresh ((shows.allocated w).mp alive), fun x => ?_⟩
  · rw [shows'.store]
    rfl
  · rw [shows'.list, shows.list]
    simp [Scene.dispatch, Scene.enqueue, Scene.block, first, Ne.symm elsewhere.1]
  · rw [shows'.list, shows.list]
    simp [Scene.dispatch, Scene.enqueue, Scene.block, Ne.symm elsewhere.2]
  · rw [shows'.store]
    simp [Scene.dispatch, Scene.enqueue, Scene.block, other]
  · rw [shows'.list, shows.list]
    simp [Scene.dispatch, Scene.enqueue, Scene.block, elsewhere]
  · rw [shows'.store]
    simp [Scene.dispatch, Scene.enqueue, Scene.block]
  · rw [shows'.list, shows.list]
    simp [Scene.dispatch, Scene.enqueue, Scene.block, readies, waits, queue]
  · rw [shows'.allocated, shows.allocated, ← Scene.live_alloc inv.sound ptr]
    rfl

end

end DisastrOS
