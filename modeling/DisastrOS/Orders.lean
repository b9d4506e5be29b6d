import DisastrOS.Trials
import DisastrOS.Watching

/-! The two orders of `exit` and `wait`.

A process that has exited is reaped in `internal_wait`, or in `internal_exit`
when its parent waits already. Only the first gives the entry of the children
list back to its pool.
-/

set_option autoImplicit false

namespace DisastrOS

open Refinement
open Relation (ReflTransGen)

/-- The scheduler runs, on a timer tick or a call of `preempt`. -/
def Reschedules (c : Config) (m m' : Kernel) : Prop := ∃ e : Event, e.Schedules ∧ Step c m e m'

/-- The scheduler runs until `p` does. -/
def Turns (c : Config) (p : Addr) (m m' : Kernel) : Prop :=
  ReflTransGen (Reschedules c) m m' ∧ m'.store.running = some p

section
variable (c : Config) (p z : Addr) (pid v result : Int) (m m' : Kernel)

/-- `p` waits for its child `z` of this pid, then `z` exits. -/
def WaitThenExit : Prop :=
  ∃ m₁ m₂ m₃, ∃ args args' : Nat → Int, Turns c p m m₁ ∧
    int32 (args 0) = pid ∧ args 1 = result ∧ Step c m₁ (.syscall DSOS_CALL_WAIT args) m₂ ∧
    (m₂.store.pcb p).status = .Waiting ∧ Turns c z m₂ m₃ ∧
    args' 0 = v ∧ Step c m₃ (.syscall DSOS_CALL_EXIT args') m'

/-- `z` exits, then its parent `p` waits for it. -/
def ExitThenWait : Prop :=
  ∃ m₁ m₂ m₃, ∃ args args' : Nat → Int, Turns c z m m₁ ∧
    args' 0 = v ∧ Step c m₁ (.syscall DSOS_CALL_EXIT args') m₂ ∧ Turns c p m₂ m₃ ∧
    int32 (args 0) = pid ∧ args 1 = result ∧ Step c m₃ (.syscall DSOS_CALL_WAIT args) m'

end

/-- The states `m` and `m'` agree on what is allocated and on the death of a child of `p`
with this pid, for which `p` got the exit value `v` at the address `result`. -/
structure Agree (c : Config) (p : Addr) (pid v result : Int) (m m' : Kernel) : Prop where
  allocated : ∀ x, x.pool ∈ [.pcb, .pcb_ptr, .descriptor, .descriptor_ptr, .timer_item] →
    (m.Allocated c x ↔ m'.Allocated c x)
  children : m.list (.children p) = m'.list (.children p)
  zombies : m.list .zombie_list = m'.list .zombie_list
  timers : m.list .timer_list = m'.list .timer_list
  pointers : ∀ q, m.list (.descriptors_ptrs q) = m'.list (.descriptors_ptrs q)
  answer : (m.store.pcb p).syscall_retvalue = pid ∧ (m'.store.pcb p).syscall_retvalue = pid
  memory : result ≠ 0 → m.store.memory = storeInt m.store.memory result (int32 v) ∧
    m'.store.memory = storeInt m'.store.memory result (int32 v)

structure Scene.HasChild (k : Scene) (p e z : Addr) (pid : Int) : Prop where
  entry : k.place e = .linked (.children p)
  names : k.store.pcb_ptr e = some z
  called : (k.store.pcb z).pid = pid

section
variable {c : Config} {m m' : Kernel} {k k' : Scene} {e p r z : Addr} {pid : Int} {args : Nat → Int}

theorem Schedule.place {x : Addr} {h : Head} (inv : Coherent c (some r) none k)
    (schedules : Schedule r k (.done () k')) (linked : k.place x = .linked h)
    (rests : h ≠ .ready_list ∧ h ≠ .waiting_list ∧ h ≠ .timer_list) : k'.place x = .linked h := by
  have rounds {j : Scene} {prev : Pointer} (rounds : ReflTransGen WakeRound (k, none) (j, prev)) :
      Coherent c (some r) none j ∧ j.place x = .linked h := by
    refine ((WakeRound.chain (A := fun _ tag => tag = .elapsed) (fun _ => rfl) inv (by simp) rounds).1).keeps
      (J := fun P => P.scene.place x = .linked h) inv (fun ok inv' move there => ?_) linked
    subst ok
    cases move with
    | wakeSleeper first due names after =>
      obtain ⟨p, names', blocked⟩ := inv'.timers.owner (inv'.sound.first first)
      cases names.symm.trans names'
      have timer : x ≠ _ := fun same => rests.2.2 (Place.linked.inj
        (there.symm.trans (same ▸ inv'.sound.first first)))
      have sleeper : x ≠ _ := fun same => rests.2.1 (Place.linked.inj (there.symm.trans (same ▸ blocked.1)))
      simpa [Scene.wakeSleeper, timer, sleeper] using there
  cases schedules with
  | alone wakes idle =>
    obtain ⟨prev, all⟩ := wakes.1
    exact (rounds all).2
  | rotates wakes ready =>
    obtain ⟨prev, all⟩ := wakes.1
    obtain ⟨inv', there⟩ := rounds all
    have next : x ≠ _ := fun same => rests.1 (Place.linked.inj
      (there.symm.trans (same ▸ inv'.sound.first ready)))
    have idle : x ≠ r := by
      rintro rfl
      cases (inv'.processes.not_waiting rfl).symm.trans there
    simpa [Scene.rotate, next, idle] using there

theorem Schedule.same (schedules : Schedule r k (.done () k')) :
    k'.store.pcb_ptr = k.store.pcb_ptr ∧ ∀ x, (k'.store.pcb x).pid = (k.store.pcb x).pid := by
  have rounds {s : Scene × Pointer} (rounds : ReflTransGen WakeRound (k, none) s) :
      s.1.store.pcb_ptr = k.store.pcb_ptr ∧ ∀ x, (s.1.store.pcb x).pid = (k.store.pcb x).pid := by
    induction rounds with
    | refl => exact ⟨rfl, fun _ => rfl⟩
    | tail _ round ih =>
      cases round
      refine ⟨ih.1, fun x => ?_⟩
      rw [← ih.2 x]
      simp [Scene.wakeSleeper]
  cases schedules with
  | alone wakes idle =>
    obtain ⟨prev, all⟩ := wakes.1
    exact rounds all
  | rotates wakes ready =>
    obtain ⟨prev, all⟩ := wakes.1
    obtain ⟨names, pids⟩ := rounds all
    refine ⟨names, fun x => ?_⟩
    rw [← pids x]
    simp [Scene.rotate]

theorem Reacts.reschedules {event : Event} (inv : Coherent c k.store.running none k)
    (reacts : Reacts c k event (.done () k')) (schedules : event.Schedules) :
    ∃ r j, Coherent c (some r) none j ∧ (∀ x, j.place x = k.place x) ∧ j.store.pcb_ptr = k.store.pcb_ptr ∧
      (∀ x, (j.store.pcb x).pid = (k.store.pcb x).pid) ∧ Schedule r j (.done () k') := by
  cases event with
  | user memory | proceed => exact absurd schedules id
  | syscall num args =>
    cases schedules
    obtain ⟨r, runs⟩ := reacts.runs
    rw [runs] at inv
    have entered : Coherent c (some r) none (k.enter r DSOS_CALL_PREEMPT args) := inv.moved (.enter _ args rfl)
    exact ⟨r, _, entered, fun _ => rfl, rfl, fun x => by simp [Scene.enter], reacts.handler_ends rfl runs⟩
  | tick =>
    cases reacts with
    | @tick r _ runs ends =>
      rw [runs] at inv
      exact ⟨r, k.tick r, inv.moved (.tick rfl), fun _ => rfl, rfl, fun x => by simp [Scene.tick], ends⟩

theorem Does.waits {event : Event} {j : Scene} (does : Does c k event j (.waits p)) :
    ∃ args, event = .syscall DSOS_CALL_WAIT args := by
  cases does with
  | blocks args => exact ⟨args, rfl⟩

theorem Reacts.turns {event : Event} (inv : Coherent c k.store.running none k)
    (reacts : Reacts c k event (.done () k')) (schedules : event.Schedules) :
    (k.HasChild p e z pid → k'.HasChild p e z pid) ∧
      (k.place z = .linked .zombie_list → k'.place z = .linked .zombie_list) := by
  obtain ⟨r, j, inv', place, names, pids, ends⟩ := reacts.reschedules inv schedules
  obtain ⟨names', pids'⟩ := ends.same
  refine ⟨fun child => ⟨?_, ?_, ?_⟩, fun dead => ?_⟩
  · exact ends.place inv' ((place e).trans child.entry) (by simp)
  · rw [names', names, child.names]
  · rw [pids', pids, child.called]
  · exact ends.place inv' ((place z).trans dead) (by simp)

theorem Reacts.turns_blocked {event : Event} (inv : Coherent c k.store.running none k) (counted : Counted c k)
    (reacts : Reacts c k event (.done () k')) (schedules : event.Schedules) :
    k'.Blocked p DSOS_CALL_WAIT ↔ k.Blocked p DSOS_CALL_WAIT := by
  constructor
  · intro blocked
    by_contra free
    refine ((reacts.chain inv counted).keeps (J := fun P => ¬ P.scene.Blocked p DSOS_CALL_WAIT) inv
      (fun does inv' move holds blocked => ?_) free).2 blocked
    rcases move.begins_wait inv' blocked with ⟨before, -⟩ | rfl
    · exact holds before
    · obtain ⟨args, rfl⟩ := does.waits
      cases schedules
  · intro blocked
    refine ((reacts.chain inv counted).keeps (J := fun P => P.scene.Blocked p DSOS_CALL_WAIT) inv
      (fun does inv' move holds => ?_) blocked).2
    rcases move.waits inv' holds.1 with wakeup | ⟨still, call, -⟩
    · obtain ⟨r', rfl⟩ := wakeup.by_child inv' holds
      obtain ⟨-, args, rfl⟩ := does.resumed
      cases schedules
    · exact ⟨still, call.trans holds.2⟩

theorem Exit.free_wrappers (ends : Exit r k (.done () k')) : k'.free .pcb_ptr = k.free .pcb_ptr := by
  have given {i : Addr} {j : Scene} (reparents : Reparents r i k j) : j.free .pcb_ptr = k.free .pcb_ptr := by
    obtain ⟨rounds, -⟩ := reparents
    induction rounds with
    | refl => rfl
    | tail _ round ih =>
      cases round
      simpa [Scene.reparent] using ih
  cases ends with
  | buried init reparents parent unawaited ready => simpa [Scene.dispatch, Scene.bury] using given reparents
  | @resumes i q e j j' init reparents parent awaited entry drops closed =>
    have dropped : j'.free .pcb_ptr = ((j.bury r q).resumeParent r q e).free .pcb_ptr := by
      clear closed
      induction drops with
      | refl => rfl
      | tail _ round ih =>
        cases round
        simpa [Scene.dropDescriptor] using ih
    simpa [Scene.vanish, dropped, Scene.resumeParent, Scene.bury] using given reparents

theorem Exit.buries (inv : Coherent c k.store.running none k) (lineage : k.Lineage) (runs : k.store.running = some z)
    (child : k.HasChild p e z pid) (free : ¬ k.Blocked p DSOS_CALL_WAIT)
    (ends : Exit z (k.enter z DSOS_CALL_EXIT args) (.done () k')) :
    k'.HasChild p e z pid ∧ k'.place z = .linked .zombie_list := by
  have entered := inv.entered runs DSOS_CALL_EXIT args
  have stored := entered.moved (.leave rfl)
  have apart : p ≠ z := lineage.apart inv child.entry child.names
  have entry : (k.enter z DSOS_CALL_EXIT args).place e = .linked (.children p) := child.entry
  have process : e.pool = .pcb_ptr := inv.sound.kind child.entry
  cases ends with
  | @buried i q n j init reparents parent unawaited ready =>
    obtain ⟨inv', frame⟩ := reparents.coherent entered init
    have still := ReparentRound.keeps stored init reparents.1 apart entry
    have names := (ReparentRound.same reparents.1).2.1
    have idle := inv'.processes.not_waiting rfl
    have next : n.pool = .pcb := inv'.sound.kind (inv'.sound.first ready)
    have elsewhere : e ≠ z ∧ e ≠ n := by
      constructor
      · rintro rfl
        cases still.symm.trans idle
      · rintro rfl
        cases next.symm.trans process
    have other : z ≠ n := by
      rintro rfl
      cases (inv'.sound.first ready).symm.trans idle
    refine ⟨⟨?_, ?_, ?_⟩, ?_⟩
    · simpa [Scene.dispatch, Scene.bury, elsewhere] using still
    · simpa [Scene.dispatch, Scene.bury] using names.symm ▸ child.names
    · simpa [Scene.dispatch, Scene.bury, Scene.enter, child.called] using frame.pid z
    · simp [Scene.dispatch, Scene.bury, other]
  | @resumes i q e' j j' init reparents parent awaited entry' drops closed =>
    exfalso
    obtain ⟨inv', frame⟩ := reparents.coherent entered init
    have resumption := reparents.resumption entered init parent awaited entry'
    have still := ReparentRound.keeps stored init reparents.1 apart entry
    have names := (ReparentRound.same reparents.1).2.1
    have elsewhere : e ≠ z := by
      rintro rfl
      cases still.symm.trans (inv'.processes.not_waiting rfl)
    have still' : (j.bury z q).place e = .linked (.children p) := by simpa [Scene.bury, elsewhere] using still
    have names' : (j.bury z q).store.pcb_ptr e = some z := by
      simpa [Scene.bury] using names.symm ▸ child.names
    -- the entry that the parent lets go is the only one of the child
    obtain rfl : e' = e :=
      resumption.buried.tree.unique resumption.entry still' (resumption.names.trans names'.symm)
    obtain rfl : q = p := by simpa using resumption.entry.symm.trans still'
    have asked := AwaitsDeath.blocked entered (AwaitsDeath.before frame (by simp) awaited)
    refine free ⟨asked.1, ?_⟩
    simpa [Scene.enter, apart] using asked.2

theorem Wait.keeps (inv : Coherent c k.store.running none k) (runs : k.store.running = some p)
    (child : k.HasChild r e z pid) (ends : Wait p (k.enter p DSOS_CALL_WAIT args) (.done () k'))
    (waits : k'.place p = .linked .waiting_list) : k'.HasChild r e z pid := by
  have unlinked : k.place p = .unlinked := inv.processes.not_waiting runs
  have idle : (k.enter p DSOS_CALL_WAIT args).place p = .unlinked := unlinked
  cases ends with
  | childless none => cases idle.symm.trans waits
  | reaps found names zombie =>
    simp [Scene.reap, Function.update_apply] at waits
    grind
  | @blocks e' z' n found names alive ready =>
    have next := inv.sound.first (show (k.seq .ready_list).head? = some n from ready)
    have elsewhere : e ≠ p ∧ e ≠ n := by
      constructor
      · rintro rfl
        cases child.entry.symm.trans unlinked
      · rintro rfl
        cases child.entry.symm.trans next
    refine ⟨?_, ?_, ?_⟩
    · simpa [Scene.dispatch, Scene.block, Scene.enter, elsewhere] using child.entry
    · simpa [Scene.dispatch, Scene.block, Scene.enter] using child.names
    · simpa [Scene.dispatch, Scene.block, Scene.enter] using child.called

theorem Wait.frees (inv : Coherent c k.store.running none k) (lineage : k.Lineage) (runs : k.store.running = some p)
    (child : k.HasChild p e z pid) (dead : k.place z = .linked .zombie_list) (asked : int32 (args 0) = pid)
    (ends : Wait p (k.enter p DSOS_CALL_WAIT args) (.done () k')) : ¬ k'.Live c e := by
  have entered := inv.entered runs DSOS_CALL_WAIT args
  have arg : (k.enter p DSOS_CALL_WAIT args).intArg p 0 = int32 (args 0) := intArg_enter (by decide)
  have entry : (k.enter p DSOS_CALL_WAIT args).place e = .linked (.children p) := child.entry
  have zombie : (k.enter p DSOS_CALL_WAIT args).status z = .Zombie := by
    simpa using entered.listed_status (show (k.enter p DSOS_CALL_WAIT args).place z = .linked .zombie_list from dead) rfl
  -- every other child has a pid of its own
  have only {e' : Addr} (found : (k.enter p DSOS_CALL_WAIT args).awaited p
      ((k.enter p DSOS_CALL_WAIT args).intArg p 0) = some e') : e' = e := by
    have positive : pid ≠ 0 := by
      rw [← child.called]
      exact (lineage.positive child.entry child.names).ne'
    rw [arg, asked, awaited_enter] at found
    obtain ⟨e'', scan⟩ := target_some (inv.sound.mem_seq.mpr child.entry) child.names
      (.inr ⟨positive, child.called⟩)
    have linked := inv.sound.mem_seq.mp (List.mem_of_find?_eq_some scan)
    obtain ⟨⟨z', names, alive, kind, -⟩, -⟩ := inv.tree.entry linked
    obtain ⟨⟨z'', names', alive', kind', -⟩, -⟩ := inv.tree.entry child.entry
    cases child.names.symm.trans names'
    have called : (k.store.pcb z').pid = pid := by
      rcases (Scene.answers_iff names).mp (List.find?_some scan) with ⟨zero, -⟩ | ⟨-, same⟩
      · exact absurd zero positive
      · exact same
    obtain rfl : z' = z := inv.pids.distinct alive kind alive' kind' (called.trans child.called.symm)
    obtain rfl : e'' = e := inv.tree.unique linked child.entry (names.trans child.names.symm)
    rw [Scene.awaited, scan, Option.some_or] at found
    exact (Option.some.inj found).symm
  cases ends with
  | childless none => exact absurd none (List.ne_nil_of_mem (entered.sound.mem_seq.mpr entry))
  | @reaps e' z' found names zombie' =>
    obtain rfl := only found
    intro alive
    have kind := inv.sound.kind child.entry
    have freed : (((k.enter p DSOS_CALL_WAIT args).detach (.children p) e').release .pcb_ptr e').Live c e' := by
      simpa [Scene.reap, Scene.live_release_of_ne, show e'.pool = .pcb_ptr from kind] using alive
    exact ((Scene.live_release kind).mp freed).1 rfl
  | blocks found names alive ready =>
    obtain rfl := only found
    cases child.names.symm.trans names
    exact absurd zombie alive

theorem Turns.keeps {J : Scene → Prop} (turns : Turns c p m m') (shows : Shows c m k)
    (inv : Coherent c k.store.running none k) (counted : Counted c k)
    (step : ∀ {j j' : Scene} {event : Event}, Coherent c j.store.running none j → Counted c j →
      event.Schedules → Reacts c j event (.done () j') → J j → J j') (start : J k) :
    ∃ k', Shows c m' k' ∧ Coherent c k'.store.running none k' ∧ Counted c k' ∧ J k' ∧ k'.store.running = some p := by
  obtain ⟨run, runs⟩ := turns
  suffices reached : ∃ k', Shows c m' k' ∧ Coherent c k'.store.running none k' ∧ Counted c k' ∧ J k' by
    obtain ⟨k', shows', inv', counted', holds⟩ := reached
    exact ⟨k', shows', inv', counted', holds, shows'.store ▸ runs⟩
  clear runs
  induction run with
  | refl => exact ⟨k, shows, inv, counted, start⟩
  | tail _ last ih =>
    obtain ⟨j, shows', inv', counted', holds⟩ := ih
    obtain ⟨event, schedules, steps⟩ := last
    obtain ⟨j', shows'', reacts⟩ := steps.reacts shows' inv'
    exact ⟨j', shows'', (reacts.chain inv' counted').coherent inv', reacts.counted inv' counted',
      step inv' counted' schedules reacts holds⟩

theorem Turns.not_blocked (turns : Turns c p m m') (shows : Shows c m k) (inv : Coherent c k.store.running none k)
    (counted : Counted c k) : ¬ k.Blocked p DSOS_CALL_WAIT := by
  intro blocked
  obtain ⟨k', -, inv', -, waits, runs⟩ := turns.keeps (J := fun j => j.Blocked p DSOS_CALL_WAIT) shows inv counted
    (fun inv counted schedules reacts => (reacts.turns_blocked inv counted schedules).mpr) blocked
  cases (inv'.processes.not_waiting runs).symm.trans waits.1

end

/-- After the first order the entry is allocated. -/
theorem WaitThenExit.keeps {c : Config} {m m' : Kernel} {k : Scene} {e p z : Addr} {pid v result : Int}
    (order : WaitThenExit c p z pid v result m m') (shows : Shows c m k)
    (inv : Coherent c k.store.running none k) (counted : Counted c k) (child : k.HasChild p e z pid) :
    m'.Allocated c e := by
  obtain ⟨m₁, m₂, m₃, args, args', turns, -, -, waits, blocked, turns', -, exits⟩ := order
  obtain ⟨k₁, shows₁, inv₁, counted₁, child₁, runs₁⟩ := turns.keeps shows inv counted
    (fun inv _ schedules reacts => (reacts.turns inv schedules).1) child
  obtain ⟨k₂, shows₂, reacts⟩ := waits.reacts shows₁ inv₁
  have inv₂ := (reacts.chain inv₁ counted₁).coherent inv₁
  rw [shows₂.store] at blocked
  have asleep := inv₂.processes.waits blocked
  have child₂ := Wait.keeps inv₁ runs₁ child₁ (reacts.handler_ends rfl runs₁) asleep
  obtain ⟨k₃, shows₃, inv₃, counted₃, child₃, runs₃⟩ := turns'.keeps shows₂ inv₂ (reacts.counted inv₁ counted₁)
    (fun inv _ schedules reacts => (reacts.turns inv schedules).1) child₂
  obtain ⟨k', shows', reacts'⟩ := exits.reacts shows₃ inv₃
  have ends : Exit z (k₃.enter z DSOS_CALL_EXIT args') (.done () k') := reacts'.handler_ends rfl runs₃
  have alive : k₃.Live c e := inv₃.sound.live child₃.entry
  have same : k'.free .pcb_ptr = k₃.free .pcb_ptr := ends.free_wrappers
  rw [shows'.allocated]
  have kind : e.pool = .pcb_ptr := inv₃.sound.kind child₃.entry
  simpa [Scene.Live, Shape.Live, kind, same] using alive

/-- After the second order it is free. -/
theorem ExitThenWait.frees {c : Config} {m m' : Kernel} {k : Scene} {e p z : Addr} {pid v result : Int}
    (order : ExitThenWait c p z pid v result m m') (shows : Shows c m k)
    (inv : Coherent c k.store.running none k) (counted : Counted c k) (lineage : k.Lineage)
    (child : k.HasChild p e z pid) (free : ¬ k.Blocked p DSOS_CALL_WAIT) : ¬ m'.Allocated c e := by
  obtain ⟨m₁, m₂, m₃, args, args', turns, -, exits, turns', asked, -, waits⟩ := order
  obtain ⟨k₁, shows₁, inv₁, counted₁, ⟨child₁, free₁, lineage₁⟩, runs₁⟩ := turns.keeps
    (J := fun j => j.HasChild p e z pid ∧ ¬ j.Blocked p DSOS_CALL_WAIT ∧ j.Lineage) shows inv counted
    (fun inv counted schedules reacts holds => by
      have blocked := reacts.turns_blocked (p := p) inv counted schedules
      exact ⟨(reacts.turns inv schedules).1 holds.1, fun waits => holds.2.1 (blocked.mp waits),
        reacts.lineage inv counted holds.2.2⟩)
    ⟨child, free, lineage⟩
  obtain ⟨k₂, shows₂, reacts⟩ := exits.reacts shows₁ inv₁
  have inv₂ := (reacts.chain inv₁ counted₁).coherent inv₁
  obtain ⟨child₂, dead₂⟩ := Exit.buries inv₁ lineage₁ runs₁ child₁ free₁ (reacts.handler_ends rfl runs₁)
  obtain ⟨k₃, shows₃, inv₃, counted₃, ⟨child₃, dead₃, lineage₃⟩, runs₃⟩ := turns'.keeps
    (J := fun j => j.HasChild p e z pid ∧ j.place z = .linked .zombie_list ∧ j.Lineage) shows₂ inv₂
    (reacts.counted inv₁ counted₁)
    (fun inv counted schedules reacts holds => by
      obtain ⟨entry, dead⟩ := reacts.turns inv schedules
      exact ⟨entry holds.1, dead holds.2.1, reacts.lineage inv counted holds.2.2⟩)
    ⟨child₂, dead₂, reacts.lineage inv₁ counted₁ lineage₁⟩
  obtain ⟨k', shows', reacts'⟩ := waits.reacts shows₃ inv₃
  rw [shows'.allocated]
  exact Wait.frees inv₃ lineage₃ runs₃ child₃ dead₃ asked (reacts'.handler_ends rfl runs₃)

/-- Whatever the child and its exit value, the two orders leave different blocks allocated. -/
theorem orders_disagree (c : Constants) {m m' m'' : Kernel} {e p z : Addr} {v result : Int}
    (reach : Reachable c.toConfig m) (child : e ∈ m.list (.children p)) (names : m.store.pcb_ptr e = some z)
    (first : WaitThenExit c.toConfig p z (m.store.pcb z).pid v result m m')
    (second : ExitThenWait c.toConfig p z (m.store.pcb z).pid v result m m'') :
    ¬ Agree c.toConfig p (m.store.pcb z).pid v result m' m'' := by
  intro agree
  obtain ⟨k, shows, inv, counted, lineage⟩ := reach.lineage
  have has : k.HasChild p e z (m.store.pcb z).pid :=
    ⟨shows.mem_list.mp child, shows.store ▸ names, by rw [shows.store]⟩
  have free : ¬ k.Blocked p DSOS_CALL_WAIT := by
    obtain ⟨m₁, m₂, m₃, args, args', turns, -⟩ := first
    exact turns.not_blocked shows inv counted
  have kind : e.pool = .pcb_ptr := inv.sound.kind has.entry
  exact second.frees shows inv counted lineage has free
    ((agree.allocated e (by simp [kind])).mp (first.keeps shows inv counted has))

/-- `init` and its child of pid 1, in both orders. -/
def both_orders : Observed always fun m =>
    (block .pcb_ptr 0 ∈ m.list (.children (block .pcb 0)) ∧
      m.store.pcb_ptr (block .pcb_ptr 0) = some (block .pcb 1) ∧ (m.store.pcb (block .pcb 1)).pid = 1 ∧
      m.store.running = some (block .pcb 0)) ∧
    ((trial_from constants.toConfig always [.syscall DSOS_CALL_WAIT (arguments [1, 5000])] m).any fun m₂ =>
      (m₂.store.pcb (block .pcb 0)).status = .Waiting ∧ m₂.store.running = some (block .pcb 1) ∧
      ((trial_from constants.toConfig always [.syscall DSOS_CALL_EXIT (arguments [7])] m₂).any fun m' =>
        (m'.data.pools .pcb_ptr).free_list 0 = DetachedIdx) = true) = true ∧
    ((trial_from constants.toConfig always [.tick] m).any fun m₁ =>
      m₁.store.running = some (block .pcb 1) ∧
      ((trial_from constants.toConfig always [.syscall DSOS_CALL_EXIT (arguments [7])] m₁).any fun m₂ =>
        ((trial_from constants.toConfig always [.tick] m₂).any fun m₃ =>
          m₃.store.running = some (block .pcb 0) ∧
          ((trial_from constants.toConfig always [.syscall DSOS_CALL_WAIT (arguments [1, 5000])] m₃).any fun m' =>
            (m'.data.pools .pcb_ptr).free_list 0 ≠ DetachedIdx) = true) = true) = true) = true :=
  observe always [.syscall DSOS_CALL_SPAWN (arguments [1, 2]), .syscall DSOS_CALL_SPAWN (arguments [1, 2])]
    (by decide +kernel)

theorem both_orders_run : ∃ m m' m'', Reachable constants.toConfig m ∧
    block .pcb_ptr 0 ∈ m.list (.children (block .pcb 0)) ∧ m.store.pcb_ptr (block .pcb_ptr 0) = some (block .pcb 1) ∧
    WaitThenExit constants.toConfig (block .pcb 0) (block .pcb 1) (m.store.pcb (block .pcb 1)).pid 7 5000 m m' ∧
    ExitThenWait constants.toConfig (block .pcb 0) (block .pcb 1) (m.store.pcb (block .pcb 1)).pid 7 5000 m m'' ∧
    (m'.data.pools .pcb_ptr).free_list 0 = DetachedIdx ∧ (m''.data.pools .pcb_ptr).free_list 0 ≠ DetachedIdx := by
  obtain ⟨m, reach, ⟨child, names, pid, runs⟩, first, second⟩ := both_orders
  obtain ⟨m₂, waits, asleep, next, rest⟩ := trial_step first
  obtain ⟨m', exits, kept⟩ := trial_step rest
  obtain ⟨n₁, tick₁, turn₁, rest⟩ := trial_step second
  obtain ⟨n₂, exits', rest⟩ := trial_step rest
  obtain ⟨n₃, tick₃, turn₃, rest⟩ := trial_step rest
  obtain ⟨m'', waits', freed⟩ := trial_step rest
  have number : int32 (arguments [1, 5000] 0) = (m.store.pcb (block .pcb 1)).pid := by
    rw [pid]
    decide
  refine ⟨m, m', m'', reach.reachable, child, names, ?_, ?_, kept, freed⟩
  · exact ⟨m, m₂, m₂, _, _, ⟨.refl, runs⟩, number, rfl, waits, asleep, ⟨.refl, next⟩, rfl, exits⟩
  · exact ⟨n₁, n₂, n₃, _, _, ⟨.single ⟨.tick, trivial, tick₁⟩, turn₁⟩, rfl, exits', ⟨.single ⟨.tick, trivial, tick₃⟩, turn₃⟩,
      number, rfl, waits'⟩

theorem orders_disagree_first : ∃ m m' m'', Reachable constants.toConfig m ∧
    WaitThenExit constants.toConfig (block .pcb 0) (block .pcb 1) (m.store.pcb (block .pcb 1)).pid 7 5000 m m' ∧
    ExitThenWait constants.toConfig (block .pcb 0) (block .pcb 1) (m.store.pcb (block .pcb 1)).pid 7 5000 m m'' ∧
    ¬ Agree constants.toConfig (block .pcb 0) (m.store.pcb (block .pcb 1)).pid 7 5000 m' m'' := by
  obtain ⟨m, m', m'', reach, child, names, first, second, -⟩ := both_orders_run
  exact ⟨m, m', m'', reach, first, second, orders_disagree constants reach child names first second⟩

/-- The entry of the child is allocated after one order, and free after the other. -/
theorem orders_differ : ¬ ∀ (m m' m'' : Kernel) (e p z : Addr) (v result : Int), Reachable constants.toConfig m →
    e ∈ m.list (.children p) → m.store.pcb_ptr e = some z →
    WaitThenExit constants.toConfig p z (m.store.pcb z).pid v result m m' →
    ExitThenWait constants.toConfig p z (m.store.pcb z).pid v result m m'' →
    Agree constants.toConfig p (m.store.pcb z).pid v result m' m'' := by
  intro every
  obtain ⟨m, m', m'', reach, child, names, first, second, kept, freed⟩ := both_orders_run
  have agree := every m m' m'' _ _ _ _ _ reach child names first second
  have small : 0 < constants.num_items .pcb_ptr := by decide
  have alive : m'.Allocated constants.toConfig (block .pcb_ptr 0) := ⟨0, small, rfl, kept⟩
  obtain ⟨i, -, same, detached⟩ := (agree.allocated _ (by simp [block])).mp alive
  obtain rfl : 0 = i := block_injective .pcb_ptr same
  exact freed detached

end DisastrOS
