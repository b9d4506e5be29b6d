import DisastrOS.Delivery
import DisastrOS.Leases
import DisastrOS.Refusals

/-! A pid names one process, for ever.

Pids are the numbers of the events that create a process, in their order. After
its exit a process never runs again, and no other process gets its pid.
-/

set_option autoImplicit false

namespace DisastrOS

open Refinement
open Relation (ReflTransGen)

/-- The pid of a new process: what a call of `fork` or `spawn` answers, or the pid of the first process that
starts when nobody is left to run. -/
def Transition.newPid (t : Transition) : Option Int :=
  match t.event with
  | .syscall num _ =>
    if num = DSOS_CALL_FORK ∨ num = DSOS_CALL_SPAWN then
      t.before.store.running.map fun r => (t.after.store.pcb r).syscall_retvalue
    else none
  | .proceed =>
    if t.before.store.running = none then t.after.store.running.map fun r => (t.after.store.pcb r).pid else none
  | _ => none

/-- The pids after a run, and what the run shows of them. -/
structure PidsUsedOnce (past : List Transition) (m : Kernel) : Prop where
  given : ∃ n : Nat, m.store.last_pid = n + 1 ∧
    (past.filterMap Transition.newPid).reverse = (List.range n).map fun i : Nat => (i : Int) + 1
  named : ∀ p, m.Lives p → (m.store.pcb p).pid = 0 ∨ (m.store.pcb p).pid ∈ past.filterMap Transition.newPid
  distinct : ∀ p p', m.Lives p → m.Lives p' → (m.store.pcb p).pid = (m.store.pcb p').pid → p = p'
  final : ∀ t ∈ past, ∀ z pid v, t.Exits z pid v → ∀ p, m.Lives p → (m.store.pcb p).pid ≠ pid
  once : past.Pairwise fun t t' => ∀ z z' pid v v', t.Exits z pid v → ¬ t'.Exits z' pid v'

/-- The pid was given out, and the process that had it has exited. -/
structure Scene.Spent (c : Config) (k : Scene) (pid : Int) : Prop where
  given : pid < k.store.last_pid
  nobody : ∀ p, k.Alive c p → (k.store.pcb p).pid ≠ pid

section
variable {c : Config} {tag : Tag} {P P' : Phase} {k k' : Scene} {e : Event} {p r : Addr}

theorem Wakeup.waits (wakeup : Wakeup P.scene p tag) (inv : P.Coherent c) : P.scene.place p = .linked .waiting_list := by
  cases wakeup with
  | timer first due owner =>
    obtain ⟨p', names, sleeps⟩ := inv.timers.owner (inv.sound.first first)
    cases owner.symm.trans names
    exact sleeps.1
  | message first names => exact (WaitsIn.read.waiter_blocked inv first names).2.1
  | room first names => exact (WaitsIn.write.waiter_blocked inv first names).2.1
  | child zombie entry awaits => exact (AwaitsDeath.blocked inv awaits).1

theorem Move.put_to_work (move : Move c tag P P') (inv : P.Coherent c) (runs : P'.runner = some p) :
    P.runner = some p ∨ P.scene.place p = .linked .ready_list ∨ P.scene.place p = .linked .waiting_list ∨
      ¬ P.scene.Live c p := by
  cases move with
  | dispatch ready | handOver ready | rotate ready =>
    cases runs
    exact .inr (.inl (inv.sound.first ready))
  | resume zombie entry awaits =>
    cases runs
    exact .inr (.inr (.inl (AwaitsDeath.blocked inv awaits).1))
  | restart pcb =>
    cases runs
    exact .inr (.inr (.inr (inv.sound.top pcb).2.2))
  | idle | block | doze | enqueue | bury => cases runs
  | _ => exact .inl runs

/-- A process that lives did so before, or is new. -/
theorem Move.lived (move : Move c tag P P') (inv : P.Coherent c) (alive : P'.scene.Alive c p) :
    P.scene.Alive c p ∨ (P'.scene.store.pcb p).pid = P.scene.store.last_pid := by
  have inv' := move.coherent inv
  rcases move.born inv alive.pool alive.allocated with before | next
  · refine .inl ⟨before, alive.pool, fun dead => ?_⟩
    -- it is in none of the places that a zombie can get to
    rcases inv'.processes.stands alive.allocated alive.pool with ⟨runs, -⟩ | ⟨-, ready | waits | zombie⟩
    · rcases move.put_to_work inv runs with working | ready | waits | fresh
      · cases (inv.processes.not_waiting working).symm.trans dead
      · cases ready.symm.trans dead
      · cases waits.symm.trans dead
      · exact fresh before
    · rcases move.joins inv ready.1 with was_ready | joins
      · cases was_ready.symm.trans dead
      · cases joins with
        | rests runs => cases (inv.processes.not_waiting runs).symm.trans dead
        | wakes wakeup => cases (wakeup.waits inv).symm.trans dead
        | born top => exact (inv.sound.top top).2.2 before
    · rcases move.joins inv waits.1 with waited | joins
      · cases waited.symm.trans dead
      · cases joins with
        | waits runs | blocks runs => cases (inv.processes.not_waiting runs).symm.trans dead
    · exact alive.lives zombie.1
  · exact .inr next.1

theorem Move.spent {pid : Int} (move : Move c tag P P') (inv : P.Coherent c) (spent : P.scene.Spent c pid) :
    P'.scene.Spent c pid := by
  refine ⟨spent.given.trans_le move.last_pid, fun p alive => ?_⟩
  rcases move.lived inv alive with before | next
  · rw [move.pid inv before.allocated]
    exact spent.nobody p before
  · rw [next]
    exact spent.given.ne'

theorem Reacts.spent {pid : Int} (inv : Coherent c k.store.running none k) (counted : Counted c k)
    (spent : k.Spent c pid) (reacts : Reacts c k e (.done () k')) : k'.Spent c pid :=
  ((reacts.chain inv counted).keeps (J := fun P => P.scene.Spent c pid) inv
    (fun _ inv' move holds => move.spent inv' holds) spent).2

theorem Exit.dead (inv : Coherent c (some r) none k) (ends : Exit r k (.done () k')) : ¬ k'.Alive c r := by
  intro alive
  cases ends with
  | @buried i q n j init reparents parent unawaited ready =>
    have other := (reparents.coherent inv init).1.next_other ready
    exact alive.lives (by simp [Scene.dispatch, Scene.bury, Ne.symm other])
  | resumes init reparents parent awaited entry drops closed =>
    exact ((Scene.live_release alive.pool).mp alive.allocated).1 rfl

end

/-! ## The counter -/

section
variable {c : Config} {k k' : Scene} {r : Addr}

theorem Schedule.last_pid (ends : Schedule r k (.done () k')) : k'.store.last_pid = k.store.last_pid := by
  have woken {j : Scene} (wakes : Wakes k j) : j.store.last_pid = k.store.last_pid := by
    obtain ⟨⟨prev, rounds⟩, -⟩ := wakes
    suffices same : ∀ s : Scene × Pointer, ReflTransGen WakeRound (k, none) s → s.1.store.last_pid = k.store.last_pid from
      same _ rounds
    intro s rounds
    induction rounds with
    | refl => rfl
    | tail _ round ih =>
      cases round
      exact ih
  cases ends with
  | alone wakes idle => exact woken wakes
  | rotates wakes ready =>
    have same := woken wakes
    exact same

theorem Exit.last_pid (inv : Coherent c (some r) none k) (ends : Exit r k (.done () k')) :
    k'.store.last_pid = k.store.last_pid := by
  cases ends with
  | buried init reparents parent unawaited ready => exact (reparents.coherent inv init).2.last_pid
  | @resumes i q e j j' init reparents parent awaited entry drops closed =>
    have resumption := reparents.resumption inv init parent awaited entry
    have kept : j'.store = ((j.bury r q).resumeParent r q e).store := (drops_frame resumption.resumed drops).2.1
    have frame := (reparents.coherent inv init).2.last_pid
    simpa [Scene.vanish, kept, Scene.resumeParent, Scene.bury] using frame

theorem OpenDescriptor.last_pid {o : Addr} {resource mq : Pointer} (ends : OpenDescriptor r o resource mq k (.done () k')) :
    k'.store.last_pid = k.store.last_pid := by
  cases ends <;> rfl

theorem Suspend.last_pid {mq : Pointer} {waiting : Addr → Head} (ends : Suspend r mq waiting k (.done () k')) :
    k'.store.last_pid = k.store.last_pid := by
  cases ends
  rfl

theorem handler_last_pid {H : Addr → Scene → Ending → Prop} {num : Int} (handler : Handles c num = some H)
    (inv : Coherent c (some r) none k) (other : num ≠ DSOS_CALL_FORK ∧ num ≠ DSOS_CALL_SPAWN)
    (ends : H r k (.done () k')) : k'.store.last_pid = k.store.last_pid := by
  cases handler_entry handler with
  | preempt => exact Schedule.last_pid ends
  | fork => exact absurd rfl other.1
  | spawn => exact absurd rfl other.2
  | wait =>
    cases ends with
    | childless | blocks => rfl
    | reaps => simp [Scene.reap]
  | exit => exact Exit.last_pid inv ends
  | sleep => cases ends <;> rfl
  | openResource =>
    cases ends with
    | taken | unknown | mistyped | shared => rfl
    | creates _ _ _ opens | opens _ _ _ _ opens => exact opens.last_pid
  | closeResource | closeMessageQueue | destroyResource | destroyMessageQueue => cases ends <;> rfl
  | shutdown => cases ends
  | openMessageQueue =>
    cases ends with
    | taken | unknown | shared => rfl
    | creates _ _ _ opens | opens _ _ _ opens => exact opens.last_pid
  | write =>
    cases ends with
    | tooLong | unknown => rfl
    | waits _ _ _ suspends => exact suspends.last_pid
    | @writes q x j fits found room top user wakes =>
      -- waking a process counts nothing
      have woken := wakes.woken (inv.moved (.post (k.arg r 1) top fits))
      obtain ⟨pcb, store, -⟩ := woken.store
      simp [Scene.finishWrite, store, Scene.post]
  | read =>
    cases ends with
    | waits _ suspends => exact suspends.last_pid
    | short => rfl
    | @takes q x j found first fits wakes user =>
      have woken := wakes.woken (inv.moved (.take (inv.sound.first first)))
      obtain ⟨pcb, store, -⟩ := woken.store
      simp [Scene.finishRead, store]

theorem NewChild.counts {finish : Addr → Scene → Scene}
    (same : ∀ p j, (finish p j).store.last_pid = j.store.last_pid ∧
      ((finish p j).store.pcb r).syscall_retvalue = (j.store.pcb r).syscall_retvalue)
    (ends : NewChild finish r k (.done () k')) :
    k'.store.last_pid = k.store.last_pid + 1 ∧ (k'.store.pcb r).syscall_retvalue = k.store.last_pid := by
  cases ends with
  | child pcb unspent ptr =>
    rw [(same _ _).1, (same _ _).2]
    simp [Scene.newChild]

end

section
variable {c : Config} {m m' : Kernel} {k k' : Scene} {e : Event}

theorem Reacts.counts (shows : Shows c m k) (shows' : Shows c m' k') (inv : Coherent c k.store.running none k)
    (reacts : Reacts c k e (.done () k')) :
    Transition.newPid ⟨m, e, m'⟩ = some k.store.last_pid ∧ k'.store.last_pid = k.store.last_pid + 1 ∨
      Transition.newPid ⟨m, e, m'⟩ = none ∧ k'.store.last_pid = k.store.last_pid := by
  have childless {num : Int} {args : Nat → Int} (other : ¬ (num = DSOS_CALL_FORK ∨ num = DSOS_CALL_SPAWN)) :
      Transition.newPid ⟨m, .syscall num args, m'⟩ = none := if_neg other
  cases reacts with
  | user memory => exact .inr ⟨rfl, rfl⟩
  | outOfRange running range =>
    refine .inr ⟨childless ?_, rfl⟩
    simp only [DSOS_CALL_FORK, DSOS_CALL_SPAWN, DSOS_MAX_SYSCALLS] at range ⊢
    omega
  | unknown running range absent =>
    refine .inr ⟨childless ?_, rfl⟩
    rintro (rfl | rfl) <;> cases absent
  | @handled num args r _ H running handler ends logged =>
    have entered := inv.entered running num args
    by_cases creates : num = DSOS_CALL_FORK ∨ num = DSOS_CALL_SPAWN
    · have counted : k'.store.last_pid = (k.enter r num args).store.last_pid + 1 ∧
          (k'.store.pcb r).syscall_retvalue = (k.enter r num args).store.last_pid := by
        rcases creates with rfl | rfl
        · cases handler
          exact NewChild.counts (fun _ _ => ⟨rfl, rfl⟩) ends
        · cases handler
          refine NewChild.counts ?_ ends
          intro p j
          by_cases same : r = p <;> simp [same]
      have child : Transition.newPid ⟨m, .syscall num args, m'⟩ =
          m.store.running.map fun r => (m'.store.pcb r).syscall_retvalue := if_pos creates
      refine .inl ⟨?_, counted.1⟩
      rw [child, shows.store, running, Option.map_some, shows'.store, counted.2]
      rfl
    · refine .inr ⟨childless creates, ?_⟩
      rw [not_or] at creates
      have same : k'.store.last_pid = (k.enter r num args).store.last_pid :=
        handler_last_pid handler entered creates ends
      exact same
  | tick running schedules => exact .inr ⟨rfl, schedules.last_pid⟩
  | proceeds leaves =>
    cases leaves with
    | resumes running set =>
      refine .inr ⟨if_neg ?_, rfl⟩
      simp [shows.store, running]
    | restarts idle pcb unspent =>
      -- the pid of a first process that is started over
      have given : Transition.newPid ⟨m, .proceed, m'⟩ = m'.store.running.map fun r => (m'.store.pcb r).pid :=
        if_pos (by rw [shows.store, idle])
      refine .inl ⟨?_, rfl⟩
      rw [given, shows'.store]
      simp [Scene.restart]

theorem Reacts.exit_spends {z : Addr} {args : Nat → Int} (inv : Coherent c k.store.running none k) (counted : Counted c k)
    (runs : k.store.running = some z) (reacts : Reacts c k (.syscall DSOS_CALL_EXIT args) (.done () k')) :
    k'.Spent c (k.store.pcb z).pid := by
  obtain ⟨alive, pool⟩ := inv.processes.runs runs
  have before : k.PidOf c (k.store.pcb z).pid (some z) :=
    ⟨(inv.pids.range alive pool).2, fun live kind same =>
      congrArg some (inv.pids.distinct alive pool live kind same.symm)⟩
  have after := reacts.pidOf inv counted before
  refine ⟨after.given, fun p lives same => ?_⟩
  cases after.alone lives.allocated lives.pool same
  have ends : Exit z (k.enter z DSOS_CALL_EXIT args) (.done () k') := reacts.handler_ends rfl runs
  exact ends.dead (inv.entered runs DSOS_CALL_EXIT args) lives

end

/-- What a scene shows of the pids of the run that leads to it. -/
structure PidsShown (c : Config) (past : List Transition) (k : Scene) : Prop where
  given : ∃ n : Nat, k.store.last_pid = n + 1 ∧
    (past.filterMap Transition.newPid).reverse = (List.range n).map fun i : Nat => (i : Int) + 1
  spent : ∀ t ∈ past, ∀ z pid v, t.Exits z pid v → k.Spent c pid

theorem History.pids {c : Constants} {past : List Transition} {m : Kernel} (run : History c.toConfig past m) :
    (∃ k, Shows c.toConfig m k ∧ Coherent c.toConfig k.store.running none k ∧ Counted c.toConfig k ∧
      PidsShown c.toConfig past k) ∧
    past.Pairwise fun t t' => ∀ z z' pid v v', t.Exits z pid v → ¬ t'.Exits z' pid v' := by
  induction run with
  | start started =>
    obtain ⟨k, shows, fresh⟩ := started.shows
    refine ⟨⟨k, shows, fresh.running ▸ fresh.coherent, fresh.counted, ⟨0, ?_, rfl⟩, by simp⟩, List.Pairwise.nil⟩
    rw [fresh.last_pid]
    rfl
  | @step m m' e past run step ih =>
    obtain ⟨⟨k, shows, inv, counted, pids⟩, once⟩ := ih
    obtain ⟨k', shows', reacts⟩ := step.reacts shows inv
    refine ⟨⟨k', shows', (reacts.chain inv counted).coherent inv, reacts.counted inv counted, ?_, ?_⟩, ?_⟩
    · obtain ⟨n, last, given⟩ := pids.given
      rcases reacts.counts shows shows' inv with ⟨child, more⟩ | ⟨childless, same⟩
      · refine ⟨n + 1, by push_cast; omega, ?_⟩
        rw [List.filterMap_cons_some child, List.reverse_cons, given, List.range_succ, List.map_append, last]
        rfl
      · refine ⟨n, same.trans last, ?_⟩
        rw [List.filterMap_cons_none childless]
        exact given
    · intro t there z pid v exits
      rcases List.mem_cons.mp there with rfl | earlier
      · obtain ⟨runs, same, args, rfl, -⟩ := exits
        rw [shows.store] at runs same
        rw [← same]
        exact reacts.exit_spends inv counted runs
      · exact reacts.spent inv counted (pids.spent t earlier z pid v exits)
    · refine List.pairwise_cons.mpr ⟨fun t earlier z z' pid v v' exits exited => ?_, once⟩
      -- who exits lives, and after an exit nobody with this pid does
      obtain ⟨runs, same, -⟩ := exits
      rw [shows.store] at runs same
      have lives : m.Lives z := .inl (shows.store ▸ runs)
      exact (pids.spent t earlier z' pid v' exited).nobody z ((shows.lives inv).mp lives) same

/-- Pids are given out in their order, and a pid that has exited is never used again. -/
theorem pids_used_once (c : Constants) {past : List Transition} {m : Kernel} (run : History c.toConfig past m) :
    PidsUsedOnce past m := by
  obtain ⟨⟨k, shows, inv, counted, pids⟩, once⟩ := run.pids
  obtain ⟨n, last, given⟩ := pids.given
  refine ⟨⟨n, shows.store ▸ last, given⟩, fun p lives => ?_, fun p p' lives lives' same => ?_,
    fun t there z pid v exits p lives => ?_, once⟩
  · have alive := (shows.lives inv).mp lives
    obtain ⟨low, high⟩ := inv.pids.range alive.allocated alive.pool
    rw [shows.store, ← List.mem_reverse, given, List.mem_map]
    by_cases zero : (k.store.pcb p).pid = 0
    · exact .inl zero
    · refine .inr ⟨((k.store.pcb p).pid - 1).toNat, ?_, by omega⟩
      rw [List.mem_range]
      omega
  · have alive := (shows.lives inv).mp lives
    have alive' := (shows.lives inv).mp lives'
    rw [shows.store] at same
    exact inv.pids.distinct alive.allocated alive.pool alive'.allocated alive'.pool same
  · rw [shows.store]
    exact (pids.spent t there z pid v exits).nobody p ((shows.lives inv).mp lives)

/-- The first process has collected its child, and has another one. -/
def child_replaced : Observed always fun m => (m.store.pcb (block .pcb 1)).pid = 2 ∧
    block .pcb 1 ∈ m.list .ready_list ∧ m.store.last_pid = 3 :=
  observe always [.syscall DSOS_CALL_SPAWN (arguments [1, 2]), .tick, .syscall DSOS_CALL_EXIT (arguments [7]),
    .syscall DSOS_CALL_WAIT (arguments [0, 0]), .syscall DSOS_CALL_SPAWN (arguments [1, 2])] (by decide +kernel)

theorem pids_used_once_two : ∃ past m, History constants.toConfig past m ∧ block .pcb 1 ∈ m.list .ready_list ∧
    (past.filterMap Transition.newPid).reverse = [1, 2] := by
  obtain ⟨m, reached, pid, ready, last⟩ := child_replaced
  obtain ⟨past, run⟩ := reached.reachable.history
  obtain ⟨n, counter, given⟩ := (pids_used_once constants run).given
  have two : n = 2 := by omega
  subst two
  exact ⟨past, m, run, ready, given⟩

end DisastrOS
