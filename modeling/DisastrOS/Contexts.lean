import DisastrOS.Trials

/-! The contexts and the status of the processes that may run. -/

set_option autoImplicit false

namespace DisastrOS

open Refinement

/-! ## Contexts -/

/-- The context was saved for the process `pid`. Identifiers are given to a block
when it is allocated and never reused, so a context that bears the identifier of
its process was filled in since then. -/
def Context.SavedFor (pid : Int) : Context → Prop
  | .unset => False
  | .made owner _ _ => owner = pid
  | .swapped owner => owner = pid

def Saved (c : Config) (k : Scene) : Prop :=
  ∀ p, k.Live c p → p.pool = .pcb → (k.store.pcb p).cpu_state.SavedFor (k.store.pcb p).pid

section
variable {c : Config} {k : Scene}

theorem Move.saved {tag : Tag} {P P' : Phase} (move : Move c tag P P') (noFork : tag ≠ .forked)
    (inv : P.Coherent c) (saved : Saved c P.scene) : Saved c P'.scene := by
  intro p live pool
  cases move with
  | fork pcb ptr => exact absurd rfl noFork
  | @spawn k r q e function argument pcb ptr =>
    -- the trampoline of a new process is made with its own pid
    by_cases new : p = q
    · simp [Scene.newChild, new, Context.SavedFor]
    · simp [Scene.newChild, Scene.live_alloc_of_ne, Scene.live_alloc inv.sound pcb, new, pool] at live ⊢
      exact saved p live pool
  | reap result entry names zombie =>
    obtain ⟨⟨q, names', -, kind, -⟩, -⟩ := inv.tree.entry entry
    cases names.symm.trans names'
    simp [Scene.reap, Scene.live_release kind, Scene.live_release_of_ne, pool] at live ⊢
    exact saved p live.2 pool
  | vanish zombie =>
    have kind : _ = Pool.pcb := inv.sound.kind zombie
    simp [Scene.vanish, Scene.live_release kind] at live ⊢
    exact saved p live.2 pool
  | enter num args runs =>
    have old := saved p live pool
    simp [Scene.enter]
    split
    · simp [Context.SavedFor, *]
    · exact old
  | tick runs =>
    have old := saved p live pool
    simp [Scene.tick]
    split
    · simp [Context.SavedFor, *]
    · exact old
  | @restart k q pcb =>
    by_cases new : p = q
    · simp [Scene.restart, new, Context.SavedFor]
    · simp [Scene.restart, Scene.live_alloc inv.sound pcb, new] at live ⊢
      exact saved p live pool
  | _ =>
    simp [Scene.block, Scene.startTimer, Scene.dispatch, Scene.enqueue,
        Scene.wakeSleeper, Scene.rotate, Scene.reparent, Scene.bury, Scene.destroy, Scene.newQueue,
        Scene.resumeParent, Scene.dropDescriptor, Scene.newResource, Scene.finishRead, Scene.finishWrite, Scene.post,
        Scene.openDescriptor, Scene.wakeWaiter, Scene.wakeWriter, Scene.live_alloc_of_ne, Scene.live_release_of_ne, pool, Head.kind] at live ⊢
    exact saved p live pool

end

/-- The event is not a fork, which leaves the context of the child as it finds it in the block. -/
def NoFork (_ : Kernel) : Event → Prop
  | .syscall num _ => num ≠ DSOS_CALL_FORK
  | _ => True

instance : ∀ k e, Decidable (NoFork k e)
  | _, .syscall .. => inferInstanceAs (Decidable (_ ≠ _))
  | _, .user _ => inferInstanceAs (Decidable True)
  | _, .tick => inferInstanceAs (Decidable True)
  | _, .proceed => inferInstanceAs (Decidable True)

theorem Fresh.saved {c : Config} {k : Scene} (fresh : Fresh c k) : Saved c k := by
  obtain ⟨function, argument, pcb⟩ := fresh.first
  intro p live pool
  rw [(fresh.live p).mp live, pcb]
  rfl

theorem Does.forked {c : Config} {k j : Scene} {e : Event} (does : Does c k e j .forked) :
    ∃ args, e = .syscall DSOS_CALL_FORK args := by
  cases does
  exact ⟨_, rfl⟩

theorem Reacts.saved {c : Config} {m : Kernel} {k k' : Scene} {e : Event}
    (inv : Coherent c k.store.running none k) (counted : Counted c k) (noFork : NoFork m e)
    (saved : Saved c k) (reacts : Reacts c k e (.done () k')) : Saved c k' := by
  refine ((reacts.chain inv counted).keeps (J := fun P => Saved c P.scene) inv
    (fun does inv' move saved => move.saved ?_ inv' saved) saved).2
  rintro rfl
  obtain ⟨args, rfl⟩ := does.forked
  exact noFork rfl

/-- Without a fork, whatever `setcontext` may resume was saved since the block of
the process was allocated. -/
theorem context_saved (c : Constants) {m : Kernel} (reach : ReachableWith c.toConfig NoFork m) (p : Addr)
    (schedulable : m.store.running = some p ∨ p ∈ m.list .ready_list) :
    (m.store.pcb p).cpu_state.SavedFor (m.store.pcb p).pid := by
  obtain ⟨k, shows, inv, -, saved⟩ := reach.shows (J := Saved c.toConfig) Fresh.saved
    fun _ inv counted noFork saved reacts => reacts.saved inv counted noFork saved
  rw [shows.store] at schedulable ⊢
  rcases schedulable with runs | ready
  · have alive := inv.processes.runs runs
    exact saved p alive.1 alive.2
  · have linked := shows.mem_list.mp ready
    exact saved p (inv.sound.live linked) (inv.sound.kind linked)

/-- The first child runs after a tick. -/
def spawned_child_runs : Observed NoFork fun m => m.store.running = some (block .pcb 1) :=
  observe NoFork [.syscall DSOS_CALL_SPAWN (arguments [1, 2]), .tick] (by decide +kernel)

theorem context_saved_run : ∃ m, ReachableWith constants.toConfig NoFork m ∧
    m.store.running = some (block .pcb 1) ∧ (m.store.pcb (block .pcb 1)).cpu_state.SavedFor
      (m.store.pcb (block .pcb 1)).pid := by
  obtain ⟨m, reach, runs⟩ := spawned_child_runs
  exact ⟨m, reach, runs, context_saved constants reach _ (.inl runs)⟩

/-- A forked child has the context of nobody. -/
def forked_child_ready : Observed always fun m =>
    block .pcb 1 ∈ m.list .ready_list ∧ (m.store.pcb (block .pcb 1)).cpu_state = .unset :=
  observe always [.syscall DSOS_CALL_FORK (arguments [])] (by decide +kernel)

theorem context_unset : ¬ ∀ m, Reachable constants.toConfig m →
    ∀ p, m.store.running = some p ∨ p ∈ m.list .ready_list →
      (m.store.pcb p).cpu_state.SavedFor (m.store.pcb p).pid := by
  intro every
  obtain ⟨m, reach, ready, unset⟩ := forked_child_ready
  have saved := every m reach.reachable _ (.inr ready)
  rw [unset] at saved
  exact saved

/-! ## Status -/

/-- The process at work has status `Running`. -/
def RunnerRuns (P : Phase) : Prop := ∀ r, P.runner = some r → P.scene.status r = .Running

section
variable {c : Config} {k : Scene} {runner gone : Pointer} {r : Addr}

theorem Coherent.runner_ne (inv : Coherent c runner gone k) (runs : runner = some r) {p : Addr}
    {num : Int} (blocked : k.Blocked p num) : r ≠ p := by
  rintro rfl
  cases (inv.processes.not_waiting runs).symm.trans blocked.1

theorem Scene.status_newChild (sound : k.Sound c) {p e : Addr} (pcb : (k.free .pcb).head? = some p)
    (alive : k.Live c r) : (k.newChild r p e).status r = k.status r := by
  have other : r ≠ p := by
    rintro rfl
    exact (sound.top pcb).2.2 alive
  simp [Scene.newChild, Scene.status, other]

theorem Move.runner_runs {tag : Tag} {P P' : Phase} (move : Move c tag P P') (kept : tag ≠ .handed)
    (inv : P.Coherent c) (runs : RunnerRuns P) : RunnerRuns P' := by
  intro r runner
  cases move with
  | handOver ready => exact absurd rfl kept
  | idle | block | doze | enqueue | bury => cases runner
  | vanish zombie =>
    cases runner
    exact runs _ rfl
  | dispatch ready =>
    cases runner
    simp [Scene.dispatch, Scene.status]
  | restart pcb =>
    cases runner
    simp [Scene.restart, Scene.status]
  | rotate ready =>
    cases runner
    simp [Scene.rotate, Scene.status]
  | @resume k r' q e zombie entry awaits =>
    cases runner
    simp [Scene.resumeParent, Scene.status]
  | fork pcb ptr =>
    cases runner
    rw [Scene.status_newChild inv.sound pcb (inv.processes.runs rfl).1]
    exact runs r rfl
  | @spawn k r' p e function argument pcb ptr =>
    cases runner
    have child := Scene.status_newChild (e := e) inv.sound pcb (inv.processes.runs rfl).1
    simp [Scene.status] at child ⊢
    exact child.trans (runs r rfl)
  | wakeSleeper first due owner after =>
    obtain ⟨p, names, blocked⟩ := inv.timers.owner (inv.sound.first first)
    cases owner.symm.trans names
    simpa [Scene.wakeSleeper, Scene.status, inv.runner_ne runner blocked] using runs r runner
  | wakeReader first names =>
    have blocked := (WaitsIn.read.waiter_blocked inv first names).2
    simpa [Scene.wakeWaiter, Scene.status, inv.runner_ne runner blocked] using runs r runner
  | wakeWriter first names =>
    have blocked := (WaitsIn.write.waiter_blocked inv first names).2
    simpa [Scene.wakeWriter, Scene.wakeWaiter, Scene.status, inv.runner_ne runner blocked] using runs r runner
  | _ =>
    -- the status of the process at work is left alone, or nobody is at work
    simp [Scene.status, Scene.enter, Scene.tick, Scene.reparent, Scene.destroy, Scene.newQueue,
        Scene.dropDescriptor, Scene.newResource, Scene.finishRead, Scene.finishWrite, Scene.post,
        Scene.openDescriptor, Scene.reap] at runner ⊢
    exact runs r runner

end

/-- When a call of `sleep` or `wait` is sure not to put another process to run. -/
def NoHandOver (m : Kernel) : Event → Prop
  | .syscall num args =>
      (num = DSOS_CALL_SLEEP → m.list .ready_list = []) ∧
        (num = DSOS_CALL_WAIT → ∀ p ∈ m.awaitedProcess args,
          (m.store.pcb p).status = .Zombie ∨ m.list .ready_list = [])
  | _ => True

instance : ∀ m e, Decidable (NoHandOver m e)
  | m, .syscall num args => by
    unfold NoHandOver
    infer_instance
  | _, .user _ => inferInstanceAs (Decidable True)
  | _, .tick => inferInstanceAs (Decidable True)
  | _, .proceed => inferInstanceAs (Decidable True)

theorem Does.handed {k j : Scene} {c : Config} {m : Kernel} {e : Event} (shows : Shows c m k)
    (keeps : NoHandOver m e) (does : Does c k e j .handed) : False := by
  cases does with
  | dozes args j runs left ready =>
    exact ready ((shows.list _).symm.trans (keeps.1 rfl))
  | @hands r f z args j runs found child alive ready =>
    have asked : m.awaitedProcess args = some z := by
      simp [Kernel.awaitedProcess, shows.store, shows.awaited, runs, found, child]
    rcases keeps.2 rfl z asked with zombie | idle
    · rw [shows.store] at zombie
      exact alive zombie
    · exact ready ((shows.list _).symm.trans idle)

theorem Fresh.runner_runs {c : Config} {k : Scene} (fresh : Fresh c k) :
    RunnerRuns ⟨k, k.store.running, none⟩ := by
  obtain ⟨function, argument, pcb⟩ := fresh.first
  intro r runs
  cases fresh.running.symm.trans runs
  simp [Scene.status, pcb]

theorem Reacts.runner_runs {c : Config} {m : Kernel} {k k' : Scene} {e : Event} (shows : Shows c m k)
    (inv : Coherent c k.store.running none k) (counted : Counted c k) (keeps : NoHandOver m e)
    (runs : RunnerRuns ⟨k, k.store.running, none⟩) (reacts : Reacts c k e (.done () k')) :
    RunnerRuns ⟨k', k'.store.running, none⟩ := by
  refine ((reacts.chain inv counted).keeps inv (fun does inv' move runs => ?_) runs).2
  refine move.runner_runs ?_ inv' runs
  rintro rfl
  exact does.handed shows keeps

/-- The status of a process says where it is. -/
def StatusPlaced (m : Kernel) : Prop :=
  ∀ p, (m.store.running = some p → (m.store.pcb p).status = .Running) ∧
    (p ∈ m.list .ready_list → (m.store.pcb p).status = .Ready) ∧
    (p ∈ m.list .waiting_list → (m.store.pcb p).status = .Waiting) ∧
    (p ∈ m.list .zombie_list → (m.store.pcb p).status = .Zombie)

/-- Unless `sleep` or `wait` puts a process to run, status and placement agree. -/
theorem status_placed (c : Constants) {m : Kernel} (reach : ReachableWith c.toConfig NoHandOver m) :
    StatusPlaced m := by
  obtain ⟨k, shows, inv, -, runs⟩ := reach.shows (J := fun k => RunnerRuns ⟨k, k.store.running, none⟩)
    Fresh.runner_runs fun shows inv counted keeps runs reacts => reacts.runner_runs shows inv counted keeps runs
  intro p
  rw [shows.store]
  refine ⟨runs p, fun ready => ?_, fun waits => ?_, fun dead => ?_⟩
  · simpa [Scene.status] using inv.listed_status (shows.mem_list.mp ready) rfl
  · simpa [Scene.status] using inv.listed_status (shows.mem_list.mp waits) rfl
  · simpa [Scene.status] using inv.listed_status (shows.mem_list.mp dead) rfl

/-- A child runs after a tick, and dies. -/
def spawned_child_dies : Observed NoHandOver fun m => block .pcb 1 ∈ m.list .zombie_list :=
  observe NoHandOver
    [.syscall DSOS_CALL_SPAWN (arguments [1, 2]), .tick, .syscall DSOS_CALL_EXIT (arguments [3])]
    (by decide +kernel)

theorem status_placed_dead : ∃ m, ReachableWith constants.toConfig NoHandOver m ∧
    block .pcb 1 ∈ m.list .zombie_list ∧ StatusPlaced m := by
  obtain ⟨m, reach, dead⟩ := spawned_child_dies
  exact ⟨m, reach, dead, status_placed constants reach⟩

/-- The process that runs when another one goes to sleep is still `Ready`. -/
def runs_while_ready : Observed always fun m =>
    m.store.running = some (block .pcb 1) ∧ (m.store.pcb (block .pcb 1)).status = .Ready :=
  observe always
    [.syscall DSOS_CALL_SPAWN (arguments [1, 2]), .syscall DSOS_CALL_SLEEP (arguments [1])]
    (by decide +kernel)

theorem status_misplaced : ¬ ∀ m, Reachable constants.toConfig m → StatusPlaced m := by
  intro every
  obtain ⟨m, reach, runs, status⟩ := runs_while_ready
  have running := (every m reach.reachable _).1 runs
  rw [status] at running
  cases running

end DisastrOS
