import DisastrOS.Tree
import DisastrOS.Timers
import DisastrOS.Descriptors

/-! Each move keeps the scene coherent. -/

set_option autoImplicit false

namespace DisastrOS

open Refinement

variable {c : Config} {k k' : Scene} {runner gone : Pointer}

namespace Coherent

theorem beside {touched : List Pool} (inv : Coherent c runner gone k) (frame : Scene.Frame touched k k')
    (sound' : k'.Sound c) (pcb : .pcb ∉ touched) (pcb_ptr : .pcb_ptr ∉ touched) (timer_item : .timer_item ∉ touched)
    (id : ∀ q, (k'.store.mq q).id = (k.store.mq q).id) (queues : Queues c k') (descriptors : Descriptors c k') :
    Coherent c runner gone k' := by
  have live {p : Addr} (kind : p.pool = .pcb) : k'.Live c p ↔ k.Live c p := frame.live (kind ▸ pcb)
  have blocked {p : Addr} {num : Int} : k'.Blocked p num ↔ k.Blocked p num := frame.blocked inv.sound sound' pcb
  constructor
  · exact sound'
  · exact inv.processes.frame frame inv.sound pcb
  · exact inv.pids.frame frame live
  · apply inv.tree.frame frame inv.sound sound' pcb_ptr live
    intro p _ there
    exact (frame.linked inv.sound sound' .zombie_list pcb).mp there
  · exact inv.waiters.frame frame inv.sound sound' pcb_ptr id fun _ => blocked.mpr
  · exact queues
  · exact inv.timers.frame frame inv.sound sound' timer_item blocked
  · exact descriptors

theorem among_processes {runner' : Pointer} (inv : Coherent c runner gone k) (frame : Scene.Frame [.pcb] k k')
    (sound' : k'.Sound c) (processes : Processes c runner' k')
    (live : ∀ {p}, p.pool = .pcb → (k'.Live c p ↔ k.Live c p))
    (zombie : ∀ {p}, p.pool = .pcb → k'.place p = .linked .zombie_list → k.place p = .linked .zombie_list)
    (waits : ∀ {waiting num p}, WaitsIn waiting num → k.Blocked p num → k'.Blocked p num)
    (sleeps : ∀ {p}, k'.Blocked p DSOS_CALL_SLEEP ↔ k.Blocked p DSOS_CALL_SLEEP)
    (last_fd : ∀ p, (k'.store.pcb p).last_fd = (k.store.pcb p).last_fd) : Coherent c runner' gone k' where
  sound := sound'
  processes := processes
  pids := inv.pids.frame frame live
  tree := inv.tree.frame frame inv.sound sound' (by simp) live zombie
  waiters := inv.waiters.frame frame inv.sound sound' (by simp) (by simp [frame.mq]) waits
  queues := inv.queues.frame frame inv.sound sound' (by simp) (by simp) (.inl (by simp))
  timers := inv.timers.frame frame inv.sound sound' (by simp) sleeps
  descriptors := inv.descriptors.frame frame inv.sound sound' (by simp) (by simp) (by simp) (by simp) last_fd

theorem quiet (inv : Coherent c runner gone k) (frame : Scene.Frame [] k k')
    (last_fd : ∀ p, (k'.store.pcb p).last_fd = (k.store.pcb p).last_fd) (sound' : k'.Sound c) :
    Coherent c runner gone k' := by
  have queues := inv.queues.frame frame inv.sound sound' (by simp) (by simp) (.inl (by simp))
  have descriptors := inv.descriptors.frame frame inv.sound sound' (by simp) (by simp) (by simp) (by simp) last_fd
  exact inv.beside frame sound' (by simp) (by simp) (by simp) (by simp [frame.mq]) queues descriptors

theorem answer {r : Addr} {value : Int} (inv : Coherent c runner gone k) :
    Coherent c runner gone (k.answer r value) :=
  inv.quiet .answer (by simp) inv.sound

theorem enter {r : Addr} {num : Int} {args : Nat → Int} (inv : Coherent c runner gone k)
    (runs : runner = some r) : Coherent c runner gone (k.enter r num args) := by
  have unlinked := (inv.processes.unlinked runs).1
  have other {p : Addr} (waiting : k.place p = .linked .waiting_list) : p ≠ r := by
    rintro rfl
    simp [unlinked] at waiting
  have blocked {p : Addr} {n : Int} : (k.enter r num args).Blocked p n ↔ k.Blocked p n := by
    apply and_congr_right
    intro waiting
    have same := other waiting
    simp [Scene.enter, same]
  constructor
  · exact inv.sound
  · refine inv.processes.congr (fun _ => rfl) (fun _ => Iff.rfl) (fun p => ?_) inv.sound.kind
    simp [Scene.status, Scene.enter]
  · refine inv.pids.congr (fun _ => Iff.rfl) (fun p => ?_) rfl
    simp [Scene.enter]
  · refine inv.tree.congr Iff.rfl (fun _ => rfl) (fun _ => Iff.rfl) (fun _ => id) (fun p => ?_) rfl
    simp [Scene.enter]
  · -- the arguments of a call change only for its caller, who does not wait
    refine inv.waiters.mono (fun _ there => ⟨there, rfl⟩) (fun _ => rfl) fun _ _ _ _ waits => ⟨blocked.mpr waits, ?_⟩
    have same := other waits.1
    simp [Scene.intArg, Scene.arg, Scene.enter, same]
  · exact inv.queues.congr (fun _ => id) Iff.rfl (fun _ there => there) id rfl rfl
  · refine inv.timers.congr (fun _ => id) Iff.rfl rfl rfl blocked (fun p => .inr ?_)
    simp [Scene.enter]
  · refine inv.descriptors.congr (fun _ => Iff.rfl) id (fun there => ⟨there, ?_⟩) (fun p => .inl ?_) id id rfl rfl
      fun alive _ => .inl alive
    · simp [Scene.enter]
    · simp [Scene.enter]

theorem block {r : Addr} (inv : Coherent c (some r) gone k) (sound' : (k.block r).Sound c)
    (awake : (k.store.pcb r).syscall_num ≠ DSOS_CALL_SLEEP) :
    Coherent c none gone (k.block r) := by
  obtain ⟨alive, pool⟩ := inv.processes.runs rfl
  have unlinked := (inv.processes.unlinked rfl).1
  have frame : Scene.Frame [.pcb] k (k.block r) := .block pool (by simp)
  have place {p : Addr} :
      (k.block r).place p = if p = r then .linked .waiting_list else k.place p := by
    simp [Scene.block, Function.update_apply]
  have blocked {p : Addr} {num : Int} : (k.block r).Blocked p num ↔
      (p = r ∨ k.place p = .linked .waiting_list) ∧ (k.store.pcb p).syscall_num = num := by
    rw [Scene.Blocked, place, frame.call]
    split <;> simp_all
  apply inv.among_processes frame sound' inv.processes.block (fun _ => Iff.rfl)
  · intro p _ there
    rw [place] at there
    split at there
    · cases there
    · exact there
  · intro waiting num p _ waits
    exact blocked.mpr ⟨.inr waits.1, waits.2⟩
  · -- the caller is in `wait`, so it is not among those that sleep
    intro p
    rw [blocked]
    by_cases same : p = r
    · simp [same, awake, Scene.Blocked]
    · simp [same, Scene.Blocked]
  · simp [Scene.block]

theorem dispatch {n : Addr} {status : ProcessStatus → ProcessStatus}
    (inv : Coherent c none gone k) (ready : k.place n = .linked .ready_list)
    (runs : status .Ready = .Running ∨ status .Ready = .Ready)
    (sound' : (k.dispatch n status).Sound c) : Coherent c (some n) gone (k.dispatch n status) := by
  have frame : Scene.Frame [.pcb] k (k.dispatch n status) :=
    .dispatch (inv.sound.kind ready) (by simp)
  have place {p : Addr} : (k.dispatch n status).place p = if p = n then .unlinked else k.place p := by
    simp [Scene.dispatch, Function.update_apply]
  have blocked {p : Addr} {num : Int} : (k.dispatch n status).Blocked p num ↔ k.Blocked p num := by
    rw [Scene.Blocked, place, frame.call]
    split <;> simp_all [Scene.Blocked]
  apply inv.among_processes frame sound' (inv.processes.dispatch inv.sound ready runs) (fun _ => Iff.rfl)
  · intro p _ there
    rw [place] at there
    split at there
    · cases there
    · exact there
  · exact fun _ => blocked.mpr
  · exact blocked
  · simp [Scene.dispatch]

theorem doze {r t : Addr} {wake : Int} (inv : Coherent c (some r) gone k)
    (calls : (k.store.pcb r).syscall_num = DSOS_CALL_SLEEP)
    (top : (k.free .timer_item).head? = some t)
    (sound' : ((k.startTimer (k.placeTimer wake) t r wake).block r).Sound c) :
    Coherent c none gone ((k.startTimer (k.placeTimer wake) t r wake).block r) := by
  obtain ⟨alive, pool⟩ := inv.processes.runs rfl
  have unlinked := (inv.processes.unlinked rfl).1
  have fresh := inv.sound.top top
  have started : Scene.Frame [.timer_item] k (k.startTimer (k.placeTimer wake) t r wake) :=
    .startTimer fresh.1 (by simp)
  have frame : Scene.Frame [.pcb, .timer_item] k
      ((k.startTimer (k.placeTimer wake) t r wake).block r) :=
    .trans (.startTimer fresh.1 (by simp)) (.block pool (by simp))
  have place {p : Addr} (kind : p.pool = .pcb) :
      ((k.startTimer (k.placeTimer wake) t r wake).block r).place p =
        if p = r then .linked .waiting_list else k.place p := by
    have other : p ≠ t := by
      rintro rfl
      simp [fresh.1] at kind
    simp [Scene.block, Scene.startTimer, Function.update_apply, other]
  have live {p : Addr} (kind : p.pool = .pcb) :
      ((k.startTimer (k.placeTimer wake) t r wake).block r).Live c p ↔ k.Live c p :=
    started.live (by simp [kind])
  have processes : Processes c none ((k.startTimer (k.placeTimer wake) t r wake).block r) :=
    Processes.block (inv.processes.congr (fun h => started.place (by simp [h]))
      (fun h => started.live (by simp [h])) (started.status (by simp)) inv.sound.kind)
  constructor
  · exact sound'
  · exact processes
  · exact inv.pids.frame frame live
  · apply inv.tree.frame frame inv.sound sound' (by simp) live
    intro p kind there
    rw [place kind] at there
    split at there
    · cases there
    · exact there
  · apply inv.waiters.frame frame inv.sound sound' (by simp) (fun _ => rfl)
    -- the caller waits for a timer, those that wait for a queue stay where they are
    intro waiting num p _ waits
    constructor
    · rw [place (inv.sound.kind waits.1)]
      split
      · rfl
      · exact waits.1
    · rw [frame.call, waits.2]
  · exact inv.queues.frame frame inv.sound sound' (by simp) (by simp) (.inl (by simp))
  · exact inv.timers.doze inv.sound unlinked pool calls top
  · exact inv.descriptors.frame frame inv.sound sound' (by simp) (by simp) (by simp) (by simp)
      (by simp [Scene.block, Scene.startTimer])

theorem run_none (inv : Coherent c none gone k) : Coherent c none gone (k.run none) :=
  inv.quiet .run (fun _ => rfl) inv.sound

theorem enqueue {r w q : Addr} {waiting : Addr → Head} {num : Int}
    (inv : Coherent c (some r) gone k) (which : WaitsIn waiting num)
    (ptr : (k.free .pcb_ptr).head? = some w) (calls : (k.store.pcb r).syscall_num = num)
    (asks : k.intArg r 0 = (k.store.mq q).id)
    (reads : num = DSOS_CALL_READ_MQ → (k.store.mq q).num_written = 0)
    (writes : num = DSOS_CALL_WRITE_MQ → (k.store.mq q).num_written = c.MAX_NUM_MESSAGES)
    (sound' : (k.enqueue r w (waiting q)).Sound c) :
    Coherent c none gone (k.enqueue r w (waiting q)) := by
  obtain ⟨alive, pool⟩ := inv.processes.runs rfl
  have unlinked := (inv.processes.unlinked rfl).1
  have fresh := inv.sound.top ptr
  have frame : Scene.Frame [.pcb, .pcb_ptr] k (k.enqueue r w (waiting q)) :=
    .enqueue pool fresh.1 (which.kind q) (by simp) (by simp)
  have place {x : Addr} : (k.enqueue r w (waiting q)).place x =
      if x = w then .linked (waiting q) else if x = r then .linked .waiting_list else k.place x := by
    simp [Scene.enqueue, Scene.block, Function.update_apply]
  have other {p : Addr} (kind : p.pool = .pcb) : p ≠ w := by
    rintro rfl
    simp [fresh.1] at kind
  have live {p : Addr} (kind : p.pool = .pcb) :
      (k.enqueue r w (waiting q)).Live c p ↔ k.Live c p :=
    Shape.live_alloc_of_ne (L := layout c) (by simp [kind])
  have awake : num ≠ DSOS_CALL_SLEEP := by cases which <;> decide
  have queued : waiting q ≠ .waiting_list := by cases which <;> simp
  have processes : Processes c none (k.enqueue r w (waiting q)) := by
    -- for the processes alone this is a call that blocks
    refine inv.processes.block.congr (fun {p} kind => ?_) (fun kind => live kind)
      (fun p => by simp [Scene.status, Scene.enqueue]) fun {p} there => ?_
    · rw [place, if_neg (other kind)]
      simp [Scene.block, Function.update_apply]
    · by_cases same : p = r
      · exact same ▸ pool
      · exact inv.sound.kind (by simpa [Scene.block, same] using there)
  constructor
  · exact sound'
  · exact processes
  · exact inv.pids.frame frame live
  · refine inv.tree.congr (fun {e u} => ?_) (fun {e u} linked => ?_) live (fun {p} kind there => ?_) frame.parent
      frame.init_pcb
    · rw [place]
      cases which <;> grind
    · have differs : e ≠ w := by
        rintro rfl
        simp [fresh.2.1] at linked
      simp [Scene.enqueue, Scene.block, differs]
    · rw [place, if_neg (other kind)] at there
      split at there
      · cases there
      · exact there
  · exact inv.waiters.enqueue inv.sound which unlinked pool ptr calls asks
  · exact inv.queues.enqueue inv.sound which pool ptr reads writes
  · apply inv.timers.frame frame inv.sound sound' (by simp)
    intro p
    -- who waits for a queue does not sleep
    rw [Scene.Blocked, place, frame.call, Scene.Blocked]
    cases which <;> grind
  · exact inv.descriptors.frame frame inv.sound sound' (by simp) (by simp) (by simp) (by simp)
      (by simp [Scene.enqueue, Scene.block])

theorem wakeSleeper {prev : Pointer} {t p : Addr} (inv : Coherent c runner gone k)
    (first : (k.seq .timer_list).head? = some t) (owns : (k.store.timer_item t).pcb = some p)
    (sound' : (k.wakeSleeper prev t p).Sound c) :
    Coherent c runner gone (k.wakeSleeper prev t p) := by
  have linked := inv.sound.first first
  have timer := inv.sound.kind linked
  obtain ⟨p', same, waits⟩ := inv.timers.owner linked
  cases owns.symm.trans same
  have pool := inv.sound.kind waits.1
  have frame : Scene.Frame [.pcb, .timer_item] k (k.wakeSleeper prev t p) :=
    .wakeSleeper pool timer (by simp) (by simp)
  have place {x : Addr} : (k.wakeSleeper prev t p).place x =
      if x = t then .unlinked else if x = p then .linked .ready_list else k.place x := by
    simp [Scene.wakeSleeper, Function.update_apply]
  have live {x : Addr} (kind : x.pool = .pcb) : (k.wakeSleeper prev t p).Live c x ↔ k.Live c x :=
    Shape.live_release_of_ne (L := layout c) (by simp [kind])
  constructor
  · exact sound'
  · exact inv.processes.wakeSleeper inv.sound timer waits.1
  · exact inv.pids.frame frame live
  · apply inv.tree.frame frame inv.sound sound' (by simp) live
    intro x kind there
    rw [place] at there
    split at there
    · cases there
    split at there
    · cases there
    · exact there
  · -- the process that is woken sleeps, so it is none of those that wait on a queue
    refine inv.waiters.frame frame inv.sound sound' (by simp) (fun _ => rfl) fun {_ _ x} which waits' =>
      ⟨?_, by rw [frame.call, waits'.2]⟩
    have kind := inv.sound.kind waits'.1
    have awake : x ≠ p := by
      rintro rfl
      have calls := waits.2.symm.trans waits'.2
      cases which <;> simp [DSOS_CALL_SLEEP, DSOS_CALL_READ_MQ, DSOS_CALL_WRITE_MQ] at calls
    rw [place, if_neg (by rintro rfl; simp [timer, Head.kind] at kind), if_neg awake, waits'.1]
  · exact inv.queues.frame frame inv.sound sound' (by simp) (by simp) (.inl (by simp))
  · exact inv.timers.wakeSleeper inv.sound linked owns
  · exact inv.descriptors.frame frame inv.sound sound' (by simp) (by simp) (by simp) (by simp)
      (by simp [Scene.wakeSleeper])

theorem rotate {r n : Addr} (inv : Coherent c (some r) gone k)
    (ready : k.place n = .linked .ready_list) (sound' : (k.rotate r n).Sound c) :
    Coherent c (some n) gone (k.rotate r n) := by
  obtain ⟨alive, pool⟩ := inv.processes.runs rfl
  have unlinked := (inv.processes.unlinked rfl).1
  have frame : Scene.Frame [.pcb] k (k.rotate r n) :=
    .rotate pool (inv.sound.kind ready) (by simp)
  have place {p : Addr} : (k.rotate r n).place p =
      if p = r then .linked .ready_list else if p = n then .unlinked else k.place p := by
    simp [Scene.rotate, Function.update_apply]
  have blocked {p : Addr} {num : Int} : (k.rotate r n).Blocked p num ↔ k.Blocked p num := by
    rw [Scene.Blocked, place, frame.call, Scene.Blocked]
    grind
  apply inv.among_processes frame sound' (inv.processes.rotate inv.sound ready) (fun _ => Iff.rfl)
  · intro p _ there
    rw [place] at there
    split at there
    · cases there
    split at there
    · cases there
    · exact there
  · exact fun _ => blocked.mpr
  · exact blocked
  · simp [Scene.rotate]

theorem newChild {r p e : Addr} (inv : Coherent c (some r) none k)
    (pcb : (k.free .pcb).head? = some p) (ptr : (k.free .pcb_ptr).head? = some e)
    (sound' : (k.newChild r p e).Sound c) : Coherent c (some r) none (k.newChild r p e) := by
  obtain ⟨alive, pool⟩ := inv.processes.runs rfl
  have unlinked := (inv.processes.unlinked rfl).1
  have fresh := inv.sound.top pcb
  have wrapper := inv.sound.top ptr
  have place {x : Addr} {h : Head} : (k.newChild r p e).place x = .linked h ↔
      x = p ∧ h = .ready_list ∨ x = e ∧ h = .children r ∨
        k.place x = .linked h ∧ h ≠ .descriptors p ∧ h ≠ .children p := by
    -- the two blocks are of two pools
    have differs : p ≠ e := fun same => by simp [same, wrapper.1] at fresh
    by_cases isPCB : x = p
    · simp [Scene.newChild, isPCB, fresh.2.1, differs, eq_comm]
    · by_cases isPtr : x = e
      · simp [Scene.newChild, isPtr, wrapper.2.1, eq_comm, differs]
      · simp [Scene.newChild, isPCB, isPtr]
        tauto
  have call {x : Addr} :
      ((k.newChild r p e).store.pcb x).syscall_num = (k.store.pcb x).syscall_num := by
    simp [Scene.newChild]
  have blocked {x : Addr} {num : Int} : (k.newChild r p e).Blocked x num ↔ k.Blocked x num := by
    rw [Scene.Blocked, place, call, Scene.Blocked]
    simp
  have live {x : Addr} (pcb : x.pool ≠ .pcb) (pcb_ptr : x.pool ≠ .pcb_ptr) :
      (k.newChild r p e).Live c x ↔ k.Live c x :=
    (Shape.live_alloc_of_ne (L := layout c) pcb_ptr).trans (Shape.live_alloc_of_ne (L := layout c) pcb)
  constructor
  · exact sound'
  · exact inv.processes.newChild inv.sound pcb ptr
  · exact inv.pids.newChild inv.sound ⟨alive, pool⟩ pcb
  · exact inv.tree.newChild inv.sound ⟨alive, pool, by simp [unlinked]⟩ pcb ptr
  · refine inv.waiters.mono (fun {_ _ w q} which linked => ⟨?_, rfl⟩) (fun {w} queued => ?_)
      fun {_ _ w x} _ _ _ _ waits => ⟨blocked.mpr waits, ?_⟩
    · cases which <;> simpa using place.mp linked
    · have other : w ≠ e := by
        rintro rfl
        obtain ⟨q, there | there⟩ := queued <;> simp [place, wrapper.2.1] at there
      simp [Scene.newChild, other]
    · simp [Scene.intArg, Scene.arg, Scene.newChild]
  · refine inv.queues.congr (fun {q} kind alive => ?_) (fun {q} => ?_) (fun {_ _ w q} which linked => ?_)
      (fun {m q} linked => ?_) rfl rfl
    · exact (live (by simp [kind]) (by simp [kind])).mp alive
    · simp [place]
    · cases which <;> simpa using place.mp linked
    · simpa using place.mp linked
  · refine inv.timers.congr (fun {t} kind alive => ?_) (fun {t} => ?_) ?_ rfl blocked (fun x => ?_)
    · exact (live (by simp [kind]) (by simp [kind])).mp alive
    · simp [place]
    · simp [Scene.newChild]
    · by_cases same : x = p
      · left
        simp [Scene.newChild, same]
      · right
        simp [Scene.newChild, same]
  · -- the child starts with no descriptors, and its block may have had some before
    refine inv.descriptors.congr (fun {x} kind => ?_) (fun {e' o} linked => ?_) (fun {d q} linked => ?_)
      (fun x => ?_) (fun {o} linked => ?_) (fun {o} linked => ?_) rfl rfl fun {x} alive kind => .inl ?_
    · rcases kind with kind | kind
      · exact live (by simp [kind]) (by simp [kind])
      · exact live (by simp [kind]) (by simp [kind])
    · simp [place, linked]
    · obtain ⟨before, other, -⟩ : k.place d = .linked (.descriptors q) ∧ ¬ q = p ∧ True := by
        simpa using place.mp linked
      exact ⟨before, by simp [Scene.newChild, other]⟩
    · by_cases same : x = p
      · right
        simp [Scene.newChild, same]
      · left
        simp [Scene.newChild, same]
    · simp [place, linked]
    · simp [place, linked]
    · exact (live (by simp [kind]) (by simp [kind])).mp alive

theorem restart {p : Addr} (inv : Coherent c none none k) (pcb : (k.free .pcb).head? = some p)
    (sound' : (k.restart p).Sound c) : Coherent c (some p) none (k.restart p) := by
  have fresh := inv.sound.top pcb
  -- `init` has a pid below `last_pid`
  have counter : 0 ≤ k.store.last_pid := by
    obtain ⟨i, -, alive, pool, -⟩ := inv.tree.init
    have range := inv.pids.range alive pool
    omega
  have place {x : Addr} {h : Head} : (k.restart p).place x = .linked h ↔
      k.place x = .linked h ∧ h ≠ .descriptors p ∧ h ≠ .children p := by
    simp [Scene.restart]
    tauto
  have call {x : Addr} : ((k.restart p).store.pcb x).syscall_num = (k.store.pcb x).syscall_num := by
    simp [Scene.restart]
  have blocked {x : Addr} {num : Int} : (k.restart p).Blocked x num ↔ k.Blocked x num := by
    rw [Scene.Blocked, place, call, Scene.Blocked]
    simp
  have live {x : Addr} (pool : x.pool ≠ .pcb) : (k.restart p).Live c x ↔ k.Live c x :=
    Shape.live_alloc_of_ne (L := layout c) pool
  constructor
  · exact sound'
  · exact inv.processes.restart inv.sound pcb
  · exact inv.pids.restart inv.sound counter pcb
  · exact inv.tree.restart inv.sound pcb
  · refine inv.waiters.mono (fun {_ _ w q} which linked => ⟨(place.mp linked).1, rfl⟩) (fun _ => rfl)
      fun {_ _ w x} _ _ _ _ waits => ⟨blocked.mpr waits, ?_⟩
    simp [Scene.intArg, Scene.arg, Scene.restart]
  · refine inv.queues.congr (fun {q} kind alive => ?_) (fun {q} => ?_)
      (fun {_ _ w q} which linked => (place.mp linked).1) (fun {m q} linked => (place.mp linked).1) rfl rfl
    · exact (live (by simp [kind])).mp alive
    · simp [place]
  · refine inv.timers.congr (fun {t} kind alive => ?_) (fun {t} => ?_) rfl rfl blocked (fun x => ?_)
    · exact (live (by simp [kind])).mp alive
    · simp [place]
    · by_cases same : x = p
      · left
        simp [Scene.restart, same]
      · right
        simp [Scene.restart, same]
  · -- the process starts with no descriptors, and its block may have had some before
    refine inv.descriptors.congr (fun {x} kind => ?_) (fun {e' o} linked => ?_) (fun {d q} linked => ?_)
      (fun x => ?_) (fun {o} linked => ?_) (fun {o} linked => ?_) rfl rfl fun {x} alive kind => .inl ?_
    · rcases kind with kind | kind <;>
        exact live (by simp [kind])
    · simp [place, linked]
    · obtain ⟨before, other, -⟩ := place.mp linked
      have other : q ≠ p := by simpa using other
      exact ⟨before, by simp [Scene.restart, other]⟩
    · by_cases same : x = p
      · right
        simp [Scene.restart, same]
      · left
        simp [Scene.restart, same]
    · simp [place, linked]
    · simp [place, linked]
    · exact (live (by simp [kind])).mp alive

theorem reap {r e z : Addr} {result : Int} (inv : Coherent c runner none k)
    (entry : k.place e = .linked (.children r)) (names : k.store.pcb_ptr e = some z)
    (zombie : k.place z = .linked .zombie_list) (sound' : (k.reap r e z result).Sound c) :
    Coherent c runner none (k.reap r e z result) := by
  have pool := inv.sound.kind zombie
  have wrapper := inv.sound.kind entry
  have frame : Scene.Frame [.pcb, .pcb_ptr] k (k.reap r e z result) :=
    .reap wrapper pool (by simp) (by simp)
  have place {x : Addr} : (k.reap r e z result).place x =
      if x = z then .unlinked else if x = e then .unlinked else k.place x := by
    simp [Scene.reap, Function.update_apply]
  have blocked {x : Addr} {num : Int} : (k.reap r e z result).Blocked x num ↔ k.Blocked x num := by
    rw [Scene.Blocked, place, frame.call, Scene.Blocked]
    grind
  have linked {x q : Addr} {waiting : Addr → Head} {num : Int} (which : WaitsIn waiting num)
      (there : (k.reap r e z result).place x = .linked (waiting q)) :
      k.place x = .linked (waiting q) := by
    rw [place] at there
    grind
  constructor
  · exact sound'
  · exact inv.processes.reap inv.sound entry zombie
  · exact inv.pids.shrink (fun kind live => ((Scene.live_reap pool kind).mp live).2) frame.pid frame.last_pid
  · exact inv.tree.reap inv.sound entry names zombie
  · refine inv.waiters.mono (fun which there => ⟨linked which there, ?_⟩) (fun _ => ?_)
      fun _ _ _ _ waits => ⟨blocked.mpr waits, frame.intArg _ 0⟩
    · rw [frame.mq (by simp)]
    · simp [Scene.reap]
  · exact inv.queues.frame frame inv.sound sound' (by simp) (by simp) (.inr linked)
  · exact inv.timers.frame frame inv.sound sound' (by simp) blocked
  · exact inv.descriptors.frame frame inv.sound sound' (by simp) (by simp) (by simp) (by simp) (by simp [Scene.reap])

theorem reparent {r i e p : Addr} (inv : Coherent c runner gone k)
    (entry : k.place e = .linked (.children r)) (init : k.store.init_pcb = some i)
    (sound' : (k.reparent r i e p).Sound c) : Coherent c runner gone (k.reparent r i e p) := by
  have wrapper := inv.sound.kind entry
  have frame : Scene.Frame [.pcb_ptr] k (k.reparent r i e p) := .reparent wrapper (by simp)
  have linked {x q : Addr} {waiting : Addr → Head} {num : Int} (which : WaitsIn waiting num)
      (there : (k.reparent r i e p).place x = .linked (waiting q)) :
      k.place x = .linked (waiting q) := by
    simp [Scene.reparent, Function.update_apply] at there
    cases which <;> grind
  have blocked {x : Addr} {num : Int} : (k.reparent r i e p).Blocked x num ↔ k.Blocked x num :=
    frame.blocked inv.sound sound' (by simp)
  constructor
  · exact sound'
  · exact inv.processes.frame frame inv.sound (by simp)
  · exact inv.pids.frame frame fun _ => Iff.rfl
  · exact inv.tree.reparent entry init
  · exact inv.waiters.mono (fun which there => ⟨linked which there, rfl⟩) (fun _ => rfl)
      fun _ _ _ _ waits => ⟨blocked.mpr waits, frame.intArg _ 0⟩
  · exact inv.queues.frame frame inv.sound sound' (by simp) (by simp) (.inr linked)
  · exact inv.timers.frame frame inv.sound sound' (by simp) blocked
  · exact inv.descriptors.frame frame inv.sound sound' (by simp) (by simp) (by simp) (by simp)
      (by simp [Scene.reparent])

theorem bury {r q : Addr} (inv : Coherent c (some r) gone k) (created : (k.store.pcb r).parent ≠ none)
    (childless : k.seq (.children r) = []) (sound' : (k.bury r q).Sound c) :
    Coherent c none gone (k.bury r q) := by
  obtain ⟨alive, pool⟩ := inv.processes.runs rfl
  have unlinked := (inv.processes.unlinked rfl).1
  have frame : Scene.Frame [.pcb] k (k.bury r q) := .bury pool (by simp)
  have place {p : Addr} : (k.bury r q).place p = if p = r then .linked .zombie_list else k.place p := by
    simp [Scene.bury, Function.update_apply]
  have blocked {p : Addr} {num : Int} : (k.bury r q).Blocked p num ↔ k.Blocked p num := by
    rw [Scene.Blocked, place, frame.call, Scene.Blocked]
    grind
  constructor
  · exact sound'
  · exact inv.processes.bury
  · exact inv.pids.frame frame fun _ => Iff.rfl
  · exact inv.tree.bury inv.sound unlinked created childless
  · exact inv.waiters.frame frame inv.sound sound' (by simp) (fun _ => rfl) fun _ => blocked.mpr
  · exact inv.queues.frame frame inv.sound sound' (by simp) (by simp) (.inl (by simp))
  · exact inv.timers.frame frame inv.sound sound' (by simp) blocked
  · exact inv.descriptors.frame frame inv.sound sound' (by simp) (by simp) (by simp) (by simp) (by simp [Scene.bury])

theorem resumeParent {r q e : Addr} (inv : Coherent c none none k)
    (entry : k.place e = .linked (.children q)) (names : k.store.pcb_ptr e = some r)
    (waits : k.Blocked q DSOS_CALL_WAIT) (sound' : (k.resumeParent r q e).Sound c) :
    Coherent c (some q) (some r) (k.resumeParent r q e) := by
  have pool := inv.sound.kind waits.1
  have wrapper := inv.sound.kind entry
  have frame : Scene.Frame [.pcb, .pcb_ptr] k (k.resumeParent r q e) :=
    .resumeParent pool wrapper (by simp) (by simp)
  have place {x : Addr} : (k.resumeParent r q e).place x =
      if x = e then .unlinked else if x = q then .unlinked else k.place x := by
    simp [Scene.resumeParent, Function.update_apply]
  have blocked {x : Addr} {num : Int} (other : num ≠ DSOS_CALL_WAIT) :
      (k.resumeParent r q e).Blocked x num ↔ k.Blocked x num := by
    have calls := waits.2
    rw [Scene.Blocked, place, frame.call, Scene.Blocked]
    grind
  have linked {x u : Addr} {waiting : Addr → Head} {num : Int} (which : WaitsIn waiting num)
      (there : (k.resumeParent r q e).place x = .linked (waiting u)) :
      k.place x = .linked (waiting u) := by
    rw [place] at there
    grind
  constructor
  · exact sound'
  · exact inv.processes.resumeParent inv.sound waits.1 entry
  · exact inv.pids.frame frame fun _ => Scene.live_resumeParent
  · exact inv.tree.resumeParent entry names waits.1
  · refine inv.waiters.mono (fun which there => ⟨linked which there, ?_⟩) (fun _ => ?_)
      fun which _ _ _ waits' => ⟨(blocked ?_).mpr waits', frame.intArg _ 0⟩
    · rw [frame.mq (by simp)]
    · simp [Scene.resumeParent]
    · cases which <;> decide
  · exact inv.queues.frame frame inv.sound sound' (by simp) (by simp) (.inr linked)
  · exact inv.timers.frame frame inv.sound sound' (by simp) (blocked (by decide))
  · exact inv.descriptors.frame frame inv.sound sound' (by simp) (by simp) (by simp) (by simp)
      (by simp [Scene.resumeParent])

theorem drop {r d o e : Addr} (inv : Coherent c runner gone k)
    (open_ : k.place d = .linked (.descriptors r)) (of : k.Of d o)
    (ptr : (k.store.descriptor d).ptr = some e) (sound' : (k.dropDescriptor r d o e).Sound c) :
    Coherent c runner gone (k.dropDescriptor r d o e) := by
  have pool := inv.sound.kind open_
  obtain ⟨e', o', names, -, there, -⟩ := inv.descriptors.des (inv.sound.live open_) pool
  obtain rfl : e' = e := Option.some.inj (names.symm.trans ptr)
  have frame : Scene.Frame [.descriptor, .descriptor_ptr] k (k.dropDescriptor r d o e') :=
    .dropDescriptor pool (inv.sound.kind there) (by simp) (by simp)
  have queues := inv.queues.frame frame inv.sound sound' (by simp) (by simp) (.inl (by simp))
  exact inv.beside frame sound' (by simp) (by simp) (by simp) (fun _ => rfl) queues
    (inv.descriptors.drop inv.sound open_ of ptr)

theorem vanish {r q : Addr} (inv : Coherent c (some q) (some r) k)
    (zombie : k.place r = .linked .zombie_list) (sound' : (k.vanish r q).Sound c) :
    Coherent c (some q) none (k.vanish r q) := by
  have pool := inv.sound.kind zombie
  have frame : Scene.Frame [.pcb] k (k.vanish r q) := .vanish pool (by simp)
  have place {x : Addr} : (k.vanish r q).place x = if x = r then .unlinked else k.place x := by
    simp [Scene.vanish, Function.update_apply]
  have blocked {x : Addr} {num : Int} : (k.vanish r q).Blocked x num ↔ k.Blocked x num := by
    rw [Scene.Blocked, place, frame.call, Scene.Blocked]
    grind
  constructor
  · exact sound'
  · exact inv.processes.vanish inv.sound zombie
  · exact inv.pids.shrink (fun _ live => ((Scene.live_vanish pool).mp live).2) frame.pid frame.last_pid
  · exact inv.tree.vanish inv.sound zombie
  · exact inv.waiters.frame frame inv.sound sound' (by simp) (fun _ => rfl) fun _ => blocked.mpr
  · exact inv.queues.frame frame inv.sound sound' (by simp) (by simp) (.inl (by simp))
  · exact inv.timers.frame frame inv.sound sound' (by simp) blocked
  · exact inv.descriptors.frame frame inv.sound sound' (by simp) (by simp) (by simp) (by simp) fun _ => rfl

theorem newResource {x : Addr} {id type : Int} (inv : Coherent c runner gone k)
    (top : (k.free .resource).head? = some x) (sound' : (k.newResource x id type).Sound c) :
    Coherent c runner gone (k.newResource x id type) := by
  have frame : Scene.Frame [.resource, .descriptor_ptr] k (k.newResource x id type) :=
    .newResource inv.sound (inv.sound.top top).1 (by simp) (by simp)
  have queues := inv.queues.frame frame inv.sound sound' (by simp) (by simp) (.inl (by simp))
  exact inv.beside frame sound' (by simp) (by simp) (by simp) (fun _ => rfl) queues
    (inv.descriptors.newResource inv.sound top)

theorem newQueue {q : Addr} {id : Int} (inv : Coherent c runner gone k)
    (top : (k.free .message_queue).head? = some q) (absent : k.queue id = none)
    (sound' : (k.newQueue q id).Sound c) : Coherent c runner gone (k.newQueue q id) := by
  have fresh := inv.sound.top top
  have frame : Scene.Frame [.message_queue, .descriptor_ptr, .message, .pcb_ptr] k
      (k.newQueue q id) :=
    .newQueue inv.sound fresh.1 (by simp) (by simp) (by simp) (by simp)
  have live {p : Addr} (kind : p.pool = .pcb) : (k.newQueue q id).Live c p ↔ k.Live c p :=
    frame.live (by simp [kind])
  -- whoever waits now waited before, and for another queue
  have waiting {w u : Addr} {list : Addr → Head} {num : Int} (which : WaitsIn list num)
      (there : (k.newQueue q id).place w = .linked (list u)) :
      k.place w = .linked (list u) ∧ u ≠ q := by
    rcases Queues.place_newQueue.mp there with ⟨-, same⟩ | ⟨-, before, -, -, read, write⟩
    · cases which <;> cases same
    · refine ⟨before, ?_⟩
      rintro rfl
      cases which
      · exact read rfl
      · exact write rfl
  have blocked {x : Addr} {num : Int} : (k.newQueue q id).Blocked x num ↔ k.Blocked x num :=
    frame.blocked inv.sound sound' (by simp)
  constructor
  · exact sound'
  · exact inv.processes.frame frame inv.sound (by simp)
  · exact inv.pids.frame frame live
  · refine inv.tree.congr (fun {e u} => ?_) (fun _ => rfl) live (fun _ there => ?_) frame.parent frame.init_pcb
    · rw [Queues.place_newQueue]
      constructor
      · simp
      · intro there
        have other : e ≠ q := by
          rintro rfl
          simp [fresh.2.1] at there
        exact .inr ⟨other, there, by simp⟩
    · exact (frame.linked inv.sound sound' .zombie_list (by simp [Head.kind])).mp there
  · -- nobody waits on the new queue, whatever its block was used for before
    refine inv.waiters.mono (fun which there => ⟨(waiting which there).1, ?_⟩) (fun _ => rfl)
      fun _ _ _ _ waits => ⟨blocked.mpr waits, frame.intArg _ 0⟩
    simp [Scene.newQueue, (waiting which there).2]
  · exact inv.queues.newQueue inv.sound top absent
  · exact inv.timers.frame frame inv.sound sound' (by simp) blocked
  · exact inv.descriptors.newQueue inv.sound top

theorem openDescriptor {r o d e : Addr} {resource mq : Pointer} (inv : Coherent c runner gone k)
    (top : (k.free .descriptor).head? = some d) (topPtr : (k.free .descriptor_ptr).head? = some e)
    (of : mq = some o ∧ resource = none ∧ k.place o = .linked .mq_list ∨
      mq = none ∧ resource = some o ∧ k.place o = .linked .resources_list)
    (sound' : (k.openDescriptor r o d e resource mq).Sound c) :
    Coherent c runner gone (k.openDescriptor r o d e resource mq) := by
  have frame : Scene.Frame [.descriptor, .descriptor_ptr] k
      (k.openDescriptor r o d e resource mq) :=
    .openDescriptor (inv.sound.top top).1 (inv.sound.top topPtr).1 (by simp) (by simp)
  have queues := inv.queues.frame frame inv.sound sound' (by simp) (by simp) (.inl (by simp))
  exact inv.beside frame sound' (by simp) (by simp) (by simp) (fun _ => rfl) queues
    (inv.descriptors.open_ inv.sound top topPtr of)

theorem destroyResource {r x : Addr} (inv : Coherent c runner gone k)
    (linked : k.place x = .linked .resources_list) (unused : k.seq (.descriptors_ptrs x) = [])
    (sound' : (k.destroy r .resources_list x).Sound c) :
    Coherent c runner gone (k.destroy r .resources_list x) := by
  have frame : Scene.Frame [.resource] k (k.destroy r .resources_list x) :=
    .destroy (inv.sound.kind linked) (by simp [Head.kind])
  have queues := inv.queues.frame frame inv.sound sound' (by simp) (by simp) (.inl (by simp))
  exact inv.beside frame sound' (by simp) (by simp) (by simp) (fun _ => rfl) queues
    (inv.descriptors.destroy inv.sound (.inr rfl) linked unused)

theorem destroyQueue {r q : Addr} (inv : Coherent c runner gone k)
    (linked : k.place q = .linked .mq_list) (unused : k.seq (.descriptors_ptrs q) = [])
    (sound' : (k.destroy r .mq_list q).Sound c) :
    Coherent c runner gone (k.destroy r .mq_list q) := by
  have frame : Scene.Frame [.message_queue] k (k.destroy r .mq_list q) :=
    .destroy (inv.sound.kind linked) (by simp [Head.kind])
  exact inv.beside frame sound' (by simp) (by simp) (by simp) (fun _ => rfl)
    (inv.queues.destroy inv.sound linked) (inv.descriptors.destroy inv.sound (.inl rfl) linked unused)

theorem wakeWaiter {w q p : Addr} {waiting : Addr → Head} {num : Int}
    (inv : Coherent c runner gone k) (which : WaitsIn waiting num)
    (linked : k.place w = .linked (waiting q)) (names : k.store.pcb_ptr w = some p)
    (sound' : (k.wakeWaiter (waiting q) w p).Sound c) :
    Coherent c runner gone (k.wakeWaiter (waiting q) w p) := by
  obtain ⟨p', same, waits, -⟩ := inv.waiters.waiter which linked
  cases names.symm.trans same
  have pool := inv.sound.kind waits.1
  have wrapper := (inv.sound.kind linked).trans (which.kind q)
  have frame : Scene.Frame [.pcb, .pcb_ptr] k (k.wakeWaiter (waiting q) w p) :=
    .wakeWaiter pool wrapper (which.kind q) (by simp) (by simp)
  have place {x : Addr} : (k.wakeWaiter (waiting q) w p).place x =
      if x = p then .linked .ready_list else if x = w then .unlinked else k.place x := by
    simp [Scene.wakeWaiter, Function.update_apply]
    grind
  -- a reader or a writer, none that a timer wakes
  have asleep : num ≠ DSOS_CALL_SLEEP := by cases which <;> decide
  constructor
  · exact sound'
  · exact inv.processes.wakeWaiter inv.sound wrapper waits.1
  · exact inv.pids.frame frame fun _ => Iff.rfl
  · refine inv.tree.congr (fun {e u} => ?_) (fun _ => ?_) (fun _ => Iff.rfl) (fun {x} _ there => ?_) frame.parent
      frame.init_pcb
    · rw [place]
      cases which <;> grind [Scene.Blocked]
    · simp [Scene.wakeWaiter]
    · rw [place] at there
      grind
  · exact inv.waiters.wakeWaiter inv.sound which linked names
  · refine inv.queues.frame frame inv.sound sound' (by simp) (by simp) (.inr fun which' there => ?_)
    rw [place] at there
    cases which' <;> grind
  · -- the process that is woken waits on a queue, so its wait is none that a timer ends
    apply inv.timers.frame frame inv.sound sound' (by simp)
    intro x
    rw [Scene.Blocked, place, frame.call, Scene.Blocked]
    have calls := waits.2
    have kind (there : k.place x = .linked .waiting_list) := inv.sound.kind there
    simp only [Head.kind] at kind
    cases which <;> grind
  · exact inv.descriptors.frame frame inv.sound sound' (by simp) (by simp) (by simp) (by simp)
      (by simp [Scene.wakeWaiter])

theorem release_ptr {w : Addr} (inv : Coherent c runner gone k)
    (sound' : (k.release .pcb_ptr w).Sound c) : Coherent c runner gone (k.release .pcb_ptr w) := by
  have live {x : Addr} (other : x.pool ≠ .pcb_ptr) :
      (k.release .pcb_ptr w).Live c x ↔ k.Live c x :=
    Shape.live_release_of_ne (L := layout c) other
  constructor
  · exact sound'
  · exact inv.processes.congr (fun _ => rfl) (fun kind => live (by simp [kind])) (fun _ => rfl) inv.sound.kind
  · exact inv.pids.congr (fun kind => live (by simp [kind])) (fun _ => rfl) rfl
  · exact inv.tree.congr Iff.rfl (fun _ => rfl) (fun kind => live (by simp [kind])) (fun _ => id) (fun _ => rfl) rfl
  · exact inv.waiters.mono (fun _ there => ⟨there, rfl⟩) (fun _ => rfl) fun _ _ _ _ waits => ⟨waits, rfl⟩
  · exact inv.queues.congr (fun kind => (live (by simp [kind])).mp) Iff.rfl (fun _ there => there) id rfl rfl
  · exact inv.timers.congr (fun kind => (live (by simp [kind])).mp) Iff.rfl rfl rfl Iff.rfl fun _ => .inr rfl
  · refine inv.descriptors.congr (fun kind => live ?_) id (fun there => ⟨there, rfl⟩) (fun _ => .inl rfl) id id rfl rfl
      fun alive kind => .inl ((live (by simp [kind])).mp alive)
    rcases kind with kind | kind <;> simp [kind]

theorem take {q m : Addr} (inv : Coherent c runner gone k)
    (linked : k.place m = .linked (.messages q)) (sound' : (k.detach (.messages q) m).Sound c) :
    Coherent c runner gone (k.detach (.messages q) m) := by
  have kind : m.pool = .message := inv.sound.kind linked
  have frame : Scene.Frame [.message] k (k.detach (.messages q) m) := .detach kind (by simp) (by rfl)
  have place {x : Addr} :
      (k.detach (.messages q) m).place x = if x = m then .unlinked else k.place x := by
    simp [Function.update_apply]
  have queues : Queues c (k.detach (.messages q) m) := by
    refine inv.queues.congr (fun _ => id) (frame.linked inv.sound sound' .mq_list (by simp [Head.kind]))
      (fun which there => (frame.linked inv.sound sound' _ (by simp [which.kind])).mp there)
      (fun {x u} there => ?_) rfl rfl
    rw [place] at there
    split at there
    · cases there
    · exact there
  have descriptors := inv.descriptors.frame frame inv.sound sound' (by simp) (by simp) (by simp) (by simp) fun _ => rfl
  exact inv.beside frame sound' (by simp) (by simp) (by simp) (fun _ => rfl) queues descriptors

theorem post {q m : Addr} {write_buffer length : Int} (inv : Coherent c runner gone k)
    (block : (k.free .message).head? = some m) (fits : length ≤ c.MAX_LEN_MESSAGE)
    (sound' : (k.post q m write_buffer length).Sound c) :
    Coherent c runner gone (k.post q m write_buffer length) := by
  have frame : Scene.Frame [.message] k (k.post q m write_buffer length) :=
    .post (inv.sound.top block).1 (by simp)
  have descriptors := inv.descriptors.frame frame inv.sound sound' (by simp) (by simp) (by simp) (by simp)
    (by simp [Scene.post])
  exact inv.beside frame sound' (by simp) (by simp) (by simp) (fun _ => rfl) (inv.queues.post inv.sound block fits)
    descriptors

theorem recount {q : Addr} (inv : Coherent c runner gone k)
    (frame : Scene.Frame [.message_queue] k k') (shape : k'.toShape = k.toShape)
    (count : ∀ {u}, u ≠ q → (k'.store.mq u).num_written = (k.store.mq u).num_written)
    (id : ∀ u, (k'.store.mq u).id = (k.store.mq u).id)
    (last_fd : ∀ p, (k'.store.pcb p).last_fd = (k.store.pcb p).last_fd)
    (unwaited : ∀ {waiting num w}, WaitsIn waiting num → k.place w ≠ .linked (waiting q)) :
    Coherent c runner gone k' := by
  have sound' : k'.Sound c := by
    rw [Scene.Sound, shape]
    exact inv.sound
  have live {x : Addr} : k'.Live c x ↔ k.Live c x := by rw [Scene.Live, shape]; rfl
  have place {x : Addr} {h : Head} : k'.place x = .linked h ↔ k.place x = .linked h := by rw [shape]
  have queues := inv.queues.recount shape count id (frame.message (by simp)) unwaited
  have descriptors : Descriptors c k' :=
    inv.descriptors.congr (fun _ => live) place.mpr (fun there => ⟨place.mp there, last_fd _⟩)
      (fun p => .inl (last_fd p)) place.mpr place.mpr (frame.descriptor (by simp))
      (frame.descriptor_ptr (by simp)) fun alive _ => .inl (live.mp alive)
  exact inv.beside frame sound' (by simp) (by simp) (by simp) id queues descriptors

theorem finishRead {r q m : Addr} {buf_des : Int} (inv : Coherent c runner gone k)
    (unwaited : ∀ {waiting num w}, WaitsIn waiting num → k.place w ≠ .linked (waiting q)) :
    Coherent c runner gone (k.finishRead r q m buf_des) := by
  refine inv.recount (q := q) (.finishRead (by simp)) rfl (fun {u} other => ?_) (fun u => ?_)
    (fun p => ?_) unwaited
  · simp [Scene.finishRead, other]
  · by_cases same : u = q <;> simp [Scene.finishRead, same]
  · simp [Scene.finishRead]

theorem finishWrite {r q : Addr} {length : Int} (inv : Coherent c runner gone k)
    (unwaited : ∀ {waiting num w}, WaitsIn waiting num → k.place w ≠ .linked (waiting q)) :
    Coherent c runner gone (k.finishWrite r q length) := by
  refine inv.recount (q := q) (.finishWrite (by simp)) rfl (fun {u} other => ?_) (fun u => ?_)
    (fun p => ?_) unwaited
  · simp [Scene.finishWrite, other]
  · by_cases same : u = q <;> simp [Scene.finishWrite, same]
  · simp [Scene.finishWrite]

end Coherent

end DisastrOS
