import DisastrOS.Conservation
import DisastrOS.Lineage

/-! The processes that wait on a queue, and the queue they wait on.

A waiting process is found again only through the lists of its queue. It is
stranded when the queue is destroyed, which `internal_destroyMessageQueue`
decides without looking at those lists.
-/

set_option autoImplicit false

namespace DisastrOS

open Refinement

/-- The process that waits in the call `num` has a wrapper in a list of a queue that exists. -/
def Scene.Attended (k : Scene) (waiting : Addr → Head) (num : Int) : Prop :=
  ∀ p, k.Blocked p num → ∃ w q, k.place w = .linked (waiting q) ∧ k.store.pcb_ptr w = some p ∧
    k.place q = .linked .mq_list

section
variable {c : Config} {tag : Tag} {P P' : Phase} {waiting : Addr → Head} {num : Int}

theorem Move.blocks (move : Move c tag P P') (inv : P.Coherent c) (which : WaitsIn waiting num) {p : Addr}
    (blocked : P'.scene.Blocked p num) : P.scene.Blocked p num ∨
      ∃ w q, P'.scene.place w = .linked (waiting q) ∧ P'.scene.store.pcb_ptr w = some p ∧
        P.scene.place q = .linked .mq_list ∧ tag = .plain := by
  rcases move.joins inv blocked.1 with before | joins
  · refine .inl ⟨before, ?_⟩
    rw [← (move.same_call inv before).1]
    exact blocked.2
  have runs : P.runner = some p := by
    cases joins with
    | waits runs => exact runs
    | blocks runs calls => exact runs
  have unlinked := inv.processes.not_waiting runs
  have asleep := blocked.1
  cases move with
  | @enqueue k go r w q waiting' num' which' ptr calls found reads writes =>
    cases runs
    have call : num' = num := by
      rw [← calls]
      simpa [Scene.enqueue, Scene.block] using blocked.2
    subst call
    refine .inr ⟨w, q, ?_, by simp [Scene.enqueue, Scene.block], (queue_listed inv found).1, rfl⟩
    cases which <;> cases which' <;> simp [Scene.enqueue]
  | @doze k go r t wake calls top =>
    cases runs
    have call := blocked.2
    simp [Scene.startTimer, Scene.block, calls] at call
    cases which <;> cases call
  | @block k go r calls =>
    cases runs
    have call := blocked.2
    simp [Scene.block, calls] at call
    cases which <;> cases call
  | _ =>
    -- the other moves put no process that is at work in `waiting_list`
    simp [Scene.enter, Scene.tick, Scene.dispatch, Scene.wakeSleeper, Scene.rotate, Scene.reparent, Scene.bury,
      Scene.destroy, Scene.newQueue, Scene.newChild, Scene.resumeParent, Scene.dropDescriptor, Scene.newResource,
      Scene.finishRead, Scene.finishWrite, Scene.post, Scene.openDescriptor, Scene.wakeWaiter, Scene.wakeWriter,
      Scene.reap, Scene.vanish, Scene.restart, Function.update_apply, Shape.place_reset] at asleep
    grind

theorem Move.attended (move : Move c tag P P') (inv : P.Coherent c) (which : WaitsIn waiting num)
    (destroyed : ∀ q, tag = .destroyed q → P.scene.seq (waiting q) = [])
    (attended : P.scene.Attended waiting num) : P'.scene.Attended waiting num := by
  intro p blocked
  rcases move.blocks inv which blocked with before | ⟨w, q, waits, names, listed, rfl⟩
  · obtain ⟨w, q, waits, names, listed⟩ := attended p before
    have occupied : P.scene.seq (waiting q) ≠ [] := List.ne_nil_of_mem (inv.sound.mem_seq.mpr waits)
    refine ⟨w, q, ?_, (move.pcb_ptr inv waits).trans names,
      move.queue_stays inv (fun gone => occupied (destroyed q gone)) listed⟩
    have kind : (waiting q).kind = .pcb_ptr := by cases which <;> rfl
    have owned : ∀ o, (waiting q).owner = some o → P.scene.Live c o := by
      intro o own
      have same : o = q := by cases which <;> cases own <;> rfl
      rw [same]
      exact inv.sound.live listed
    have asleep : P'.scene.place p ≠ .linked .ready_list := by
      rw [blocked.1]
      nofun
    -- a wrapper leaves the list only together with its process
    rcases move.wrapper_leaves inv kind owned waits with still | leaves
    · exact still
    · exfalso
      generalize head : waiting q = h at leaves
      cases leaves with
      | adopted | collected | resumes => cases which <;> cases head
      | reader names' ready | writer names' ready =>
        cases names.symm.trans names'
        exact asleep ready
  · exact ⟨w, q, waits, names, move.queue_stays inv nofun listed⟩

end

/-- No queue without descriptors is destroyed while a process waits on it. -/
def WaitersKeepQueue (m : Kernel) : Event → Prop
  | .syscall num args => num = DSOS_CALL_DESTROY_MQ → ∀ q ∈ m.queue (int32 (args 0)),
      m.list (.descriptors_ptrs q) = [] →
        m.list (.waiting_to_read q) = [] ∧ m.list (.waiting_to_write q) = []
  | _ => True

instance : ∀ m e, Decidable (WaitersKeepQueue m e)
  | m, .syscall num args => by
    unfold WaitersKeepQueue
    infer_instance
  | _, .user _ => inferInstanceAs (Decidable True)
  | _, .tick => inferInstanceAs (Decidable True)
  | _, .proceed => inferInstanceAs (Decidable True)

/-- Every process blocked in the call `num` is in the list of the queue that it named. -/
def NotStranded (m : Kernel) (waiting : Addr → Head) (num : Int) : Prop :=
  ∀ p ∈ m.list .waiting_list, (m.store.pcb p).syscall_num = num → ∃ q ∈ m.list .mq_list,
    (m.store.mq q).id = int32 ((m.store.pcb p).syscall_args 0) ∧
      ∃ w ∈ m.list (waiting q), m.store.pcb_ptr w = some p

section
variable {c : Config} {m : Kernel} {k k' : Scene} {e : Event} {waiting : Addr → Head} {num : Int}

theorem Does.destroys_unattended {j : Scene} {q : Addr} (shows : Shows c m k) (keep : WaitersKeepQueue m e)
    (which : WaitsIn waiting num) (does : Does c k e j (.destroyed q)) : j.seq (waiting q) = [] := by
  cases does with
  | destroys args runs found closed =>
    have none_waits := keep rfl q (by rw [shows.queue, found]; rfl) (by rw [shows.list, closed])
    rw [shows.list, shows.list] at none_waits
    cases which
    · exact none_waits.1
    · exact none_waits.2

theorem Reacts.attended (shows : Shows c m k) (inv : Coherent c k.store.running none k) (counted : Counted c k)
    (keep : WaitersKeepQueue m e) (which : WaitsIn waiting num) (attended : k.Attended waiting num)
    (reacts : Reacts c k e (.done () k')) : k'.Attended waiting num := by
  refine ((reacts.chain inv counted).keeps (J := fun P => P.scene.Attended waiting num) inv
    (fun does inv' move holds => move.attended inv' which ?_ holds) attended).2
  rintro q rfl
  exact does.destroys_unattended shows keep which

theorem Fresh.attended (fresh : Fresh c k) : k.Attended waiting num := by
  rintro p ⟨waits, -⟩
  rw [fresh.place] at waits
  cases waits

theorem Shows.not_stranded {runner gone : Pointer} (shows : Shows c m k) (inv : Coherent c runner gone k)
    (which : WaitsIn waiting num) (attended : k.Attended waiting num) : NotStranded m waiting num := by
  intro p there call
  rw [shows.store] at call
  obtain ⟨w, q, waits, names, listed⟩ := attended p ⟨shows.mem_list.mp there, call⟩
  refine ⟨q, shows.mem_list.mpr listed, ?_, w, shows.mem_list.mpr waits, by rw [shows.store, names]⟩
  rw [shows.store]
  obtain ⟨p', names', -, asked⟩ := which.waiter inv waits
  cases names.symm.trans names'
  exact asked.symm

end

/-- Nobody is stranded when no queue is destroyed under a waiting process. -/
theorem nobody_stranded (c : Constants) {m : Kernel} (reach : ReachableWith c.toConfig WaitersKeepQueue m) :
    NotStranded m .waiting_to_read DSOS_CALL_READ_MQ ∧ NotStranded m .waiting_to_write DSOS_CALL_WRITE_MQ := by
  obtain ⟨k, shows, inv, -, reads, writes⟩ := reach.shows
    (J := fun k => k.Attended .waiting_to_read DSOS_CALL_READ_MQ ∧ k.Attended .waiting_to_write DSOS_CALL_WRITE_MQ)
    (fun fresh => ⟨fresh.attended, fresh.attended⟩)
    fun shows inv counted keep holds reacts =>
      ⟨reacts.attended shows inv counted keep .read holds.1, reacts.attended shows inv counted keep .write holds.2⟩
  exact ⟨shows.not_stranded inv .read reads, shows.not_stranded inv .write writes⟩

/-- The first process waits for a message while its child runs. -/
def first_waits : Observed WaitersKeepQueue fun m => block .pcb 0 ∈ m.list .waiting_list ∧
    (m.store.pcb (block .pcb 0)).syscall_num = DSOS_CALL_READ_MQ :=
  observe WaitersKeepQueue
    [.syscall DSOS_CALL_OPEN_MQ (arguments [5, 1]), .syscall DSOS_CALL_SPAWN (arguments [1, 2]),
      .syscall DSOS_CALL_READ_MQ (arguments [5, 1000, 64])] (by decide +kernel)

theorem nobody_stranded_reader : ∃ m, ReachableWith constants.toConfig WaitersKeepQueue m ∧
    ∃ q ∈ m.list .mq_list, ∃ w ∈ m.list (.waiting_to_read q), m.store.pcb_ptr w = some (block .pcb 0) := by
  obtain ⟨m, reach, waits, call⟩ := first_waits
  obtain ⟨q, there, -, attended⟩ := (nobody_stranded constants reach).1 _ waits call
  exact ⟨m, reach, q, there, attended⟩

/-- The first process closes its queue and waits for a message; the child destroys the queue. -/
def queue_gone : Observed always fun m => block .pcb 0 ∈ m.list .waiting_list ∧
    (m.store.pcb (block .pcb 0)).syscall_num = DSOS_CALL_READ_MQ ∧ m.list .mq_list = [] :=
  observe always
    [.syscall DSOS_CALL_OPEN_MQ (arguments [5, 1]), .syscall DSOS_CALL_SPAWN (arguments [1, 2]),
      .syscall DSOS_CALL_CLOSE_MQ (arguments [0]), .syscall DSOS_CALL_READ_MQ (arguments [5, 1000, 64]),
      .syscall DSOS_CALL_DESTROY_MQ (arguments [5])] (by decide +kernel)

theorem reader_stranded : ¬ ∀ m, Reachable constants.toConfig m →
    NotStranded m .waiting_to_read DSOS_CALL_READ_MQ ∧ NotStranded m .waiting_to_write DSOS_CALL_WRITE_MQ := by
  intro every
  obtain ⟨m, reach, waits, call, gone⟩ := queue_gone
  obtain ⟨q, there, -⟩ := (every m reach.reachable).1 _ waits call
  rw [gone] at there
  cases there

end DisastrOS
