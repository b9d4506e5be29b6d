import DisastrOS.Placement

/-! Only a process that nobody created has children older than itself, and a pid
is never given out twice.
-/

set_option autoImplicit false

namespace DisastrOS

open Refinement

/-- A child has a larger pid than the process it is a child of, except that `init` gets the
children of others. Its pid is not 0. -/
structure Scene.Lineage (k : Scene) : Prop where
  positive : ∀ {e q p}, k.place e = .linked (.children q) → k.store.pcb_ptr e = some p →
    0 < (k.store.pcb p).pid
  younger : ∀ {e q p}, k.place e = .linked (.children q) → k.store.pcb_ptr e = some p →
    (k.store.pcb q).parent = none ∨ (k.store.pcb q).pid < (k.store.pcb p).pid

/-- The pid was given out, and only `owner` may still have it. -/
structure Scene.PidOf (c : Config) (k : Scene) (pid : Int) (owner : Pointer) : Prop where
  given : pid < k.store.last_pid
  alone : ∀ {p}, k.Live c p → p.pool = .pcb → (k.store.pcb p).pid = pid → owner = some p

inductive Enters (c : Config) (P P' : Phase) (e q p : Addr) : Tag → Prop where
  | stays {tag : Tag} (there : P.scene.place e = .linked (.children q))
      (names : P.scene.store.pcb_ptr e = some p) : Enters c P P' e q p tag
  | born {tag : Tag} (runs : P.runner = some q) (fresh : ¬ P.scene.Live c p)
      (pid : (P'.scene.store.pcb p).pid = P.scene.store.last_pid)
      (parent : (P'.scene.store.pcb p).parent = some q) : Enters c P P' e q p tag
  | adopted {r : Addr} (there : P.scene.place e = .linked (.children r))
      (names : P.scene.store.pcb_ptr e = some p) (init : P.scene.store.init_pcb = some q) :
      Enters c P P' e q p .adopted

section
variable {c : Config} {tag : Tag} {P P' : Phase}

theorem Move.entry (move : Move c tag P P') (inv : P.Coherent c) {e q p : Addr}
    (linked : P'.scene.place e = .linked (.children q)) (names : P'.scene.store.pcb_ptr e = some p) :
    Enters c P P' e q p tag := by
  cases move with
  | @fork k r p' e' pcb ptr | @spawn k r p' e' function argument pcb ptr =>
    have fresh := inv.sound.top pcb
    have wrapper := inv.sound.top ptr
    have other : p' ≠ e' := fun same => by simp [same, wrapper.1] at fresh
    -- the two new blocks differ, and only `e'` becomes an entry
    by_cases same : e = e'
    · subst same
      simp [Scene.newChild, Ne.symm other] at linked names
      subst linked names
      exact .born rfl fresh.2.2 (by simp [Scene.newChild]) (by simp [Scene.newChild])
    by_cases process : e = p'
    · simp [Scene.newChild, process] at linked
    · simp [Scene.newChild, same, process] at linked names
      exact .stays linked.2 names
  | @adopt k ru go r i e' p' first there init =>
    have before := inv.sound.first first
    by_cases same : e = e'
    · subst same
      simp [Scene.reparent] at linked names
      subst linked
      exact .adopted before names init
    · simp [Scene.reparent, same] at linked names
      exact .stays linked names
  | @enqueue k go r w u waiting num which ptr calls found reads writes =>
    have wrapper := inv.sound.top ptr
    by_cases same : e = w
    · subst same
      cases which <;> simp [Scene.enqueue] at linked
    by_cases process : e = r
    · simp [Scene.enqueue, Scene.block, process] at linked
      grind
    · simp [Scene.enqueue, Scene.block, same, process] at linked names
      exact .stays linked names
  | @newResource k ru go x id type top =>
    by_cases same : e = x
    · simp [Scene.newResource, same] at linked
    · simp [Scene.newResource, same] at linked
      exact .stays linked names
  | @newQueue k ru go u id absent top =>
    by_cases same : e = u
    · simp [Scene.newQueue, same] at linked
    · simp [Scene.newQueue, same] at linked
      exact .stays linked names
  | _ =>
    refine .stays ?_ (by simpa [Scene.reap, Scene.bury, Scene.resumeParent, Scene.vanish, Scene.restart, Scene.startTimer,
      Scene.wakeWriter, Scene.wakeWaiter, Scene.finishRead, Scene.finishWrite, Scene.post, Scene.destroy,
      Scene.openDescriptor, Scene.dropDescriptor, Scene.block, Scene.dispatch,
      Scene.wakeSleeper, Scene.rotate, Scene.tick, Scene.enter] using names)
    simp [Scene.reap, Scene.bury, Scene.resumeParent, Scene.vanish, Scene.restart, Scene.startTimer,
      Scene.wakeWriter, Scene.wakeWaiter, Scene.finishRead, Scene.finishWrite, Scene.post, Scene.destroy,
      Scene.openDescriptor, Scene.dropDescriptor, Scene.block, Scene.dispatch,
      Scene.wakeSleeper, Scene.rotate, Scene.tick, Scene.enter, Function.update_apply] at linked
    grind

theorem Move.pcb_ptr (move : Move c tag P P') (inv : P.Coherent c) {w : Addr} {h : Head}
    (linked : P.scene.place w = .linked h) : P'.scene.store.pcb_ptr w = P.scene.store.pcb_ptr w := by
  cases move with
  | fork pcb ptr | spawn function argument pcb ptr | enqueue which ptr =>
    have other : w ≠ _ := fun same => by
      rw [same, (inv.sound.top ptr).2.1] at linked
      cases linked
    simp [Scene.newChild, Scene.enqueue, Scene.block, other]
  | _ =>
    simp [Scene.enter, Scene.tick, Scene.block, Scene.startTimer, Scene.dispatch, Scene.wakeSleeper,
      Scene.rotate, Scene.reparent, Scene.bury, Scene.destroy, Scene.newQueue,
      Scene.resumeParent, Scene.dropDescriptor, Scene.newResource, Scene.finishRead, Scene.finishWrite,
      Scene.post, Scene.openDescriptor, Scene.wakeWaiter, Scene.wakeWriter, Scene.reap, Scene.vanish, Scene.restart]

theorem Move.identity (move : Move c tag P P') (inv : P.Coherent c) {p : Addr} (alive : P.scene.Live c p) :
    (P'.scene.store.pcb p).pid = (P.scene.store.pcb p).pid ∧
      (P'.scene.store.pcb p).parent = (P.scene.store.pcb p).parent := by
  cases move with
  | @fork k r p' e pcb ptr | @spawn k r p' e function argument pcb ptr =>
    have other : p ≠ p' := by
      rintro rfl
      exact (inv.sound.top pcb).2.2 alive
    simp [Scene.newChild, other]
  | @restart k p' pcb =>
    have other : p ≠ p' := by
      rintro rfl
      exact (inv.sound.top pcb).2.2 alive
    simp [Scene.restart, other]
  | _ =>
    simp [Scene.tick, Scene.enter, Scene.block, Scene.startTimer, Scene.dispatch, Scene.enqueue, Scene.wakeSleeper,
      Scene.rotate, Scene.reparent, Scene.bury, Scene.destroy, Scene.newQueue, Scene.resumeParent,
      Scene.dropDescriptor, Scene.newResource, Scene.finishRead, Scene.finishWrite, Scene.post,
      Scene.openDescriptor, Scene.wakeWaiter, Scene.wakeWriter, Scene.reap, Scene.vanish]

theorem Move.pid (move : Move c tag P P') (inv : P.Coherent c) {p : Addr} (alive : P.scene.Live c p) :
    (P'.scene.store.pcb p).pid = (P.scene.store.pcb p).pid :=
  (move.identity inv alive).1

theorem Move.parent (move : Move c tag P P') (inv : P.Coherent c) {p : Addr} (alive : P.scene.Live c p) :
    (P'.scene.store.pcb p).parent = (P.scene.store.pcb p).parent :=
  (move.identity inv alive).2

theorem Move.lineage (move : Move c tag P P') (inv : P.Coherent c) (lineage : P.scene.Lineage) :
    P'.scene.Lineage := by
  constructor
  case positive =>
    intro e q p linked names
    cases move.entry inv linked names with
    | stays there before | adopted there before =>
      obtain ⟨⟨p', names', alive, -⟩, -⟩ := inv.tree.entry there
      cases before.symm.trans names'
      rw [move.pid inv alive]
      exact lineage.positive there before
    | born runs fresh pid parent =>
      obtain ⟨alive, pool⟩ := inv.processes.runs runs
      have range := inv.pids.range alive pool
      omega
  case younger =>
    intro e q p linked names
    cases move.entry inv linked names with
    | stays there before =>
      obtain ⟨⟨p', names', alive, -⟩, owner, -⟩ := inv.tree.entry there
      cases before.symm.trans names'
      rw [move.pid inv alive, move.pid inv owner, move.parent inv owner]
      exact lineage.younger there before
    | born runs fresh pid parent =>
      obtain ⟨alive, pool⟩ := inv.processes.runs runs
      rw [pid, move.pid inv alive]
      exact .inr (inv.pids.range alive pool).2
    | adopted there before init =>
      -- the children of `init` may be older than `init`, which was not created by a process
      obtain ⟨i, init', root, -, orphan⟩ := inv.tree.init
      cases init.symm.trans init'
      rw [move.parent inv root]
      exact .inl orphan

theorem Scene.Lineage.apart {k : Scene} {runner gone : Pointer} {e q p : Addr} (lineage : k.Lineage)
    (inv : Coherent c runner gone k) (linked : k.place e = .linked (.children q))
    (names : k.store.pcb_ptr e = some p) : q ≠ p := by
  rintro rfl
  obtain ⟨⟨p', names', -, -, created, -⟩, -⟩ := inv.tree.entry linked
  cases names.symm.trans names'
  exact (lineage.younger linked names).elim created (lt_irrefl _)

/-- A new process gets the next pid, and the process at work is its parent unless the kernel
starts again. -/
theorem Move.born (move : Move c tag P P') (inv : P.Coherent c) {p : Addr} (pool : p.pool = .pcb)
    (alive : P'.scene.Live c p) :
    P.scene.Live c p ∨ (P'.scene.store.pcb p).pid = P.scene.store.last_pid ∧
      (tag = .restarted p ∨ P.runner ≠ none ∧ (P'.scene.store.pcb p).parent = P.runner) := by
  cases move with
  | @fork k r p' e pcb ptr | @spawn k r p' e function argument pcb ptr =>
    have born := (Scene.live_newChild (r := r) (e := e) inv.sound pcb pool).mp alive
    rcases born with rfl | before
    · right
      simp [Scene.newChild]
    · exact .inl before
  | @restart k p' pcb =>
    have born := (Scene.live_alloc inv.sound pcb).mp (by simpa [Scene.restart] using alive)
    rcases born with rfl | before
    · right
      simp [Scene.restart]
    · exact .inl before
  | reap result entry names zombie =>
    obtain ⟨⟨z', names', -, kind, -⟩, -⟩ := inv.tree.entry entry
    cases names.symm.trans names'
    exact .inl ((Scene.live_reap kind pool).mp alive).2
  | vanish zombie => exact .inl ((Scene.live_release (inv.sound.kind zombie)).mp alive).2
  | _ =>
    left
    simpa [Scene.tick, Scene.enter, Scene.block, Scene.startTimer, Scene.dispatch, Scene.enqueue, Scene.wakeSleeper,
      Scene.rotate, Scene.reparent, Scene.bury, Scene.destroy, Scene.newQueue, Scene.resumeParent, Head.kind,
      Scene.dropDescriptor, Scene.newResource, Scene.finishRead, Scene.finishWrite, Scene.post,
      Scene.openDescriptor, Scene.wakeWaiter, Scene.wakeWriter, Scene.live_release_of_ne,
      Scene.live_alloc_of_ne, pool] using alive

theorem Move.init_pcb (move : Move c tag P P') (kept : ∀ p, tag ≠ .restarted p) :
    P'.scene.store.init_pcb = P.scene.store.init_pcb := by
  cases move with
  | restart pcb => exact absurd rfl (kept _)
  | _ =>
    simp [Scene.tick, Scene.enter, Scene.block, Scene.startTimer, Scene.dispatch, Scene.enqueue, Scene.wakeSleeper,
      Scene.rotate, Scene.reparent, Scene.bury, Scene.destroy, Scene.newQueue, Scene.resumeParent,
      Scene.dropDescriptor, Scene.newResource, Scene.finishRead, Scene.finishWrite, Scene.post,
      Scene.openDescriptor, Scene.wakeWaiter, Scene.wakeWriter, Scene.reap, Scene.vanish, Scene.newChild]

theorem Move.last_pid (move : Move c tag P P') :
    P.scene.store.last_pid ≤ P'.scene.store.last_pid := by
  cases move <;>
    simp [Scene.tick, Scene.enter, Scene.block, Scene.startTimer, Scene.dispatch, Scene.enqueue, Scene.wakeSleeper,
      Scene.rotate, Scene.reparent, Scene.bury, Scene.destroy, Scene.newQueue, Scene.resumeParent,
      Scene.dropDescriptor, Scene.newResource, Scene.finishRead, Scene.finishWrite, Scene.post,
      Scene.openDescriptor, Scene.wakeWaiter, Scene.wakeWriter, Scene.reap, Scene.vanish, Scene.restart, Scene.newChild]

theorem Move.pidOf {pid : Int} {owner : Pointer} (move : Move c tag P P') (inv : P.Coherent c)
    (holds : P.scene.PidOf c pid owner) : P'.scene.PidOf c pid owner := by
  refine ⟨holds.given.trans_le move.last_pid, fun alive pool same => ?_⟩
  rcases move.born inv pool alive with before | ⟨next, -⟩
  · rw [move.pid inv before] at same
    exact holds.alone before pool same
  · rw [next] at same
    exact absurd holds.given (by rw [same]; exact lt_irrefl pid)

end

section
variable {c : Config} {k k' : Scene} {e : Event}

theorem Reacts.lineage (inv : Coherent c k.store.running none k) (counted : Counted c k)
    (lineage : k.Lineage) (reacts : Reacts c k e (.done () k')) : k'.Lineage :=
  ((reacts.chain inv counted).keeps (J := fun P => P.scene.Lineage) inv
    (fun _ inv' move holds => move.lineage inv' holds) lineage).2

theorem Reacts.pidOf {pid : Int} {owner : Pointer} (inv : Coherent c k.store.running none k)
    (counted : Counted c k) (holds : k.PidOf c pid owner) (reacts : Reacts c k e (.done () k')) :
    k'.PidOf c pid owner :=
  ((reacts.chain inv counted).keeps (J := fun P => P.scene.PidOf c pid owner) inv
    (fun _ inv' move holds => move.pidOf inv' holds) holds).2

theorem Fresh.lineage (fresh : Fresh c k) : k.Lineage :=
  ⟨fun linked => by simp [fresh.place] at linked, fun linked => by simp [fresh.place] at linked⟩

end

theorem Reachable.lineage {c : Constants} {m : Kernel} (reach : Reachable c.toConfig m) :
    ∃ k, Shows c.toConfig m k ∧ Coherent c.toConfig k.store.running none k ∧ Counted c.toConfig k ∧ k.Lineage :=
  reach.with.shows (J := Scene.Lineage) (fun fresh => fresh.lineage)
    fun _ inv counted _ lineage reacts => reacts.lineage inv counted lineage

end DisastrOS
