import DisastrOS.Replies

/-! The life cycle of a process.

A block of the pool of processes is free, or holds a process that runs, is ready,
waits, or is dead and not yet collected. What it is after an event is decided by
the state before it.
-/

set_option autoImplicit false

namespace DisastrOS

open Refinement
open Relation (ReflTransGen)

inductive Stage where
  | free
  | ready
  | running
  | waiting
  | zombie
  deriving DecidableEq

namespace Kernel
variable (c : Config) (m : Kernel) (p : Addr)

def stage : Stage :=
  if m.store.running = some p then .running
  else if p ∈ m.list .ready_list then .ready
  else if p ∈ m.list .waiting_list then .waiting
  else if p ∈ m.list .zombie_list then .zombie
  else .free

def clocked (time : Int) : Kernel := { m with store := { m.store with disastrOS_time := time } }

/-- Who runs after a schedule: the first that wakes, or else the first that is ready, or else nobody new. -/
def following : Pointer := (m.awakened ++ m.list .ready_list).head?.or m.store.running

/-- The block that the next new process gets. -/
def nextBlock : Addr := block .pcb (m.data.pools .pcb).first_idx.toNat

/-- Who runs after the event. -/
def next : Event → Pointer
  | .user _ => m.store.running
  | .proceed => m.store.running.or (some m.nextBlock)
  | .tick => (m.clocked (int32 (m.store.disastrOS_time + 1))).following
  | .syscall num args =>
    if num = DSOS_CALL_PREEMPT then m.following
    else m.store.running.bind fun r =>
      if num < 0 ∨ num > DSOS_MAX_SYSCALLS then some r
      else match m.reply c r args num with
        | .returns _ => some r
        | .waits n => n
        | .dies n => some n
        | .startsOver _ | .stops _ | .loops => none

/-- The event takes the block for a new process. -/
def Bears : Event → Prop
  | .syscall num _ => (num = DSOS_CALL_FORK ∨ num = DSOS_CALL_SPAWN) ∧ p = m.nextBlock
  | _ => False

/-- The event takes the block for a first process, since nobody is left to run. -/
def Starts : Event → Prop
  | .proceed => m.store.running = none ∧ p = m.nextBlock
  | _ => False

/-- The event collects the dead process. -/
def Reaps : Event → Prop
  | .syscall num args => num = DSOS_CALL_WAIT ∧ m.awaitedProcess args = some p
  | _ => False

/-- How the stage of `p` changes with an event. -/
inductive Turns (e : Event) : Stage → Stage → Prop where
  | goesOn (next : m.next c e = some p) : Turns e .running .running
  | preempted (other : m.next c e ≠ some p) (turn : e.Schedules) : Turns e .running .ready
  | suspended {num : Int} {args : Nat → Int} (other : m.next c e ≠ some p) (call : e = .syscall num args)
      (plain : num ≠ DSOS_CALL_PREEMPT ∧ num ≠ DSOS_CALL_EXIT) : Turns e .running .waiting
  | buried {args : Nat → Int} (other : m.next c e ≠ some p) (exits : e = .syscall DSOS_CALL_EXIT args)
      (unawaited : ∀ q, ¬ WaitingParent m p q) : Turns e .running .zombie
  | vanishes {args : Nat → Int} {q : Addr} (other : m.next c e ≠ some p) (exits : e = .syscall DSOS_CALL_EXIT args)
      (awaited : WaitingParent m p q) : Turns e .running .free
  | dispatched (next : m.next c e = some p) : Turns e .ready .running
  | queued (other : m.next c e ≠ some p) : Turns e .ready .ready
  | resumed (serves : m.Serves c p e) (next : m.next c e = some p) : Turns e .waiting .running
  | woken (serves : m.Serves c p e) (other : m.next c e ≠ some p) : Turns e .waiting .ready
  | sleeps (unserved : ¬ m.Serves c p e) : Turns e .waiting .waiting
  | reaped (reaps : m.Reaps p e) : Turns e .zombie .free
  | unclaimed (left : ¬ m.Reaps p e) : Turns e .zombie .zombie
  | born (bears : m.Bears p e) : Turns e .free .ready
  | started (starts : m.Starts p e) : Turns e .free .running
  | unborn (left : ¬ m.Bears p e) (idle : ¬ m.Starts p e) : Turns e .free .free

end Kernel

inductive Scene.In (c : Config) (k : Scene) (p : Addr) : Stage → Prop where
  | free (dead : ¬ k.Live c p) : In c k p .free
  | ready (linked : k.place p = .linked .ready_list) : In c k p .ready
  | running (runs : k.store.running = some p) : In c k p .running
  | waiting (linked : k.place p = .linked .waiting_list) : In c k p .waiting
  | zombie (linked : k.place p = .linked .zombie_list) : In c k p .zombie

section
variable {c : Config} {m m' : Kernel} {k k' j : Scene} {e : Event} {r p : Addr} {num : Int} {args : Nat → Int}

theorem Shows.first_idx (shows : Shows c m k) {pool : Pool} {x : Addr} (top : (k.free pool).head? = some x) :
    x = block pool (m.data.pools pool).first_idx.toNat := by
  obtain ⟨a, rep, same⟩ := shows.represented
  obtain ⟨free, manages, frees⟩ := rep.pools pool
  have frees : k.free pool = free.map (block pool) := by rw [← same, frees]
  have threads := manages.threads
  cases free with
  | nil =>
    rw [frees] at top
    cases top
  | cons i rest =>
    rw [frees] at top
    rw [threads.1]
    exact (Option.some.inj top).symm

theorem Coherent.in_stage (inv : Coherent c k.store.running none k) (pool : p.pool = .pcb) : ∃ s, k.In c p s := by
  by_cases alive : k.Live c p
  · rcases inv.processes.stands alive pool with ⟨runs, -⟩ | ⟨-, ready | waits | dead⟩
    · exact ⟨_, .running runs⟩
    · exact ⟨_, .ready ready.1⟩
    · exact ⟨_, .waiting waits.1⟩
    · exact ⟨_, .zombie dead.1⟩
  · exact ⟨_, .free alive⟩

theorem Shows.stage (shows : Shows c m k) (inv : Coherent c k.store.running none k) {s : Stage} (stands : k.In c p s) :
    m.stage p = s := by
  have idle {h : Head} (linked : k.place p = .linked h) : k.store.running ≠ some p := by
    intro runs
    cases (inv.processes.not_waiting runs).symm.trans linked
  unfold Kernel.stage
  rw [shows.store]
  simp only [shows.mem_list]
  cases stands with
  | free dead =>
    have unlinked {h : Head} : k.place p ≠ .linked h := fun linked => dead (inv.sound.live linked)
    have halted : k.store.running ≠ some p := fun runs => dead (inv.processes.runs runs).1
    simp [unlinked, halted]
  | ready linked => simp [idle linked, linked]
  | running runs => simp [runs]
  | waiting linked => simp [idle linked, linked]
  | zombie linked => simp [idle linked, linked]

/-! ## Who runs next -/

theorem Schedule.follows {m₁ : Kernel} (inv : Coherent c (some r) none k) (runs : k.store.running = some r)
    (timers : m₁.list .timer_list = k.seq .timer_list) (ready : m₁.list .ready_list = k.seq .ready_list)
    (running : m₁.store.running = some r) (items : m₁.store.timer_item = k.store.timer_item)
    (time : m₁.store.disastrOS_time = k.store.disastrOS_time)
    (schedules : Schedule r k (.done () k')) : k'.store.running = m₁.following := by
  have line {j : Scene} (wakes : Wakes k j) : m₁.awakened ++ m₁.list .ready_list = j.seq .ready_list ∧
      j.store.running = some r := by
    obtain ⟨ts, roused, sound⟩ := wakes.roused inv
    obtain ⟨pcb, store, -⟩ := roused.store
    have later : ∀ t, (j.seq .timer_list).head? = some t →
        k.store.disastrOS_time < (k.store.timer_item t).awakening_time := by
      intro t first
      have left := wakes.2 t first
      rwa [store] at left
    have awakens := roused.awakens sound inv.timers.sorted later
    have elapsed : m₁.elapsed = ts := by rw [Kernel.elapsed, timers, items, time, awakens.elapsed]
    refine ⟨?_, by rw [store]; exact runs⟩
    rw [Kernel.awakened, elapsed, items, ready, roused.ready, Scene.sleepers]
  unfold Kernel.following
  rw [running]
  cases schedules with
  | alone wakes idle =>
    rw [(line wakes).1, idle]
    exact (line wakes).2
  | rotates wakes first =>
    rw [(line wakes).1, first]
    rfl

theorem Reacts.next (shows : Shows c m k) (inv : Coherent c k.store.running none k) (lineage : k.Lineage)
    (items : c.num_items .descriptor = c.num_items .descriptor_ptr) (reacts : Reacts c k e (.done () k')) :
    k'.store.running = m.next c e := by
  cases e with
  | user memory =>
    cases reacts
    exact (congrArg Store.running shows.store).symm
  | tick =>
    cases reacts with
    | @tick r _ runs schedules =>
      have ticked : Coherent c (some r) none (k.tick r) := (runs ▸ inv).moved (.tick rfl)
      refine schedules.follows ticked runs (shows.list _) (shows.list _) ?_ ?_ ?_
      · rw [← runs, ← shows.store]
        rfl
      · rw [Kernel.clocked, shows.store]
        rfl
      · rw [Kernel.clocked, shows.store]
        rfl
  | proceed =>
    cases reacts with
    | proceeds leaves =>
      rw [Kernel.next, shows.store]
      cases leaves with
      | resumes running set =>
        rw [running]
        rfl
      | restarts idle pcb unspent =>
        rw [idle, Option.none_or, Kernel.nextBlock, ← shows.first_idx pcb]
        rfl
  | syscall num args =>
    obtain ⟨r, runs⟩ := reacts.runs
    simp only [Kernel.next]
    by_cases yields : num = DSOS_CALL_PREEMPT
    · subst yields
      have schedules : Schedule r (k.enter r DSOS_CALL_PREEMPT args) (.done () k') := reacts.handler_ends rfl runs
      rw [if_pos rfl]
      refine schedules.follows (inv.entered runs _ args) runs (shows.list _) (shows.list _) ?_ ?_ ?_ <;> rw [shows.store]
      · exact runs
      · rfl
      · rfl
    · have running : m.store.running = some r := shows.store ▸ runs
      simp only [if_neg yields, running, Option.bind_some]
      by_cases outside : num < 0 ∨ num > DSOS_MAX_SYSCALLS
      · rw [if_pos outside]
        cases reacts with
        | outOfRange => exact runs
        | unknown _ range => omega
        | handled _ handler =>
          have range := handler_range handler
          omega
      · rw [if_neg outside]
        -- who runs is part of the reply
        have gives := reacts.gives shows inv lineage items runs (by omega) yields
        generalize m.reply c r args num = reply at gives
        cases gives with
        | returns runs' => exact runs'
        | waits asleep => rfl
        | dies next dead => exact next

/-! ## The stages one by one -/

theorem Coherent.idle {h : Head} (inv : Coherent c k.store.running none k) (linked : k.place p = .linked h) :
    k.store.running ≠ some p := by
  intro runs
  cases (inv.processes.not_waiting runs).symm.trans linked

theorem Schedule.rotated (inv : Coherent c (some r) none k) (runs : k.store.running = some r)
    (other : k'.store.running ≠ some r) (schedules : Schedule r k (.done () k')) : k'.place r = .linked .ready_list := by
  cases schedules with
  | alone wakes idle =>
    obtain ⟨ts, roused, -⟩ := wakes.roused inv
    obtain ⟨pcb, store, -⟩ := roused.store
    rw [store] at other
    exact absurd runs other
  | rotates wakes ready => simp [Scene.rotate]

theorem Reacts.runner_turns (shows : Shows c m k) (inv : Coherent c k.store.running none k) (counted : Counted c k)
    (lineage : k.Lineage) (items : c.num_items .descriptor = c.num_items .descriptor_ptr)
    (runs : k.store.running = some p) (reacts : Reacts c k e (.done () k')) :
    ∃ s, k'.In c p s ∧ m.Turns c p e .running s := by
  have next := reacts.next shows inv lineage items
  by_cases chosen : m.next c e = some p
  · exact ⟨_, .running (next.trans chosen), .goesOn chosen⟩
  -- from here on somebody else runs
  have other : k'.store.running ≠ some p := by rwa [next]
  cases e with
  | user memory =>
    cases reacts
    exact absurd runs other
  | tick =>
    cases reacts with
    | @tick r _ running schedules =>
      cases runs.symm.trans running
      have ticked : Coherent c (some p) none (k.tick p) := (runs ▸ inv).moved (.tick rfl)
      exact ⟨_, .ready (schedules.rotated ticked runs other), .preempted chosen trivial⟩
  | proceed =>
    cases reacts with
    | proceeds leaves =>
      cases leaves with
      | resumes => exact absurd runs other
      | restarts idle => cases runs.symm.trans idle
  | syscall num args =>
    have entered := inv.entered runs num args
    by_cases yields : num = DSOS_CALL_PREEMPT
    · subst yields
      have schedules : Schedule p (k.enter p DSOS_CALL_PREEMPT args) (.done () k') := reacts.handler_ends rfl runs
      exact ⟨_, .ready (schedules.rotated entered runs other), .preempted chosen rfl⟩
    by_cases exits : num = DSOS_CALL_EXIT
    · subst exits
      have named {q : Addr} (parent : ((k.enter p DSOS_CALL_EXIT args).store.pcb p).parent = some q) :
          (m.store.pcb p).parent = some q := by
        rw [shows.store]
        simpa [Scene.enter] using parent
      have ends : Exit p (k.enter p DSOS_CALL_EXIT args) (.done () k') := reacts.handler_ends rfl runs
      cases ends with
      | @buried i q n j init reparents parent unawaited ready =>
        have differs : p ≠ n := fun same => other (congrArg some same.symm)
        refine ⟨_, .zombie (by simp [Scene.dispatch, Scene.bury, differs]), .buried chosen rfl fun q' asks => ?_⟩
        cases (named parent).symm.trans asks.1
        exact unawaited ((reparents.awaits_iff shows inv runs init (named parent)).mpr asks)
      | @resumes i q e j j' init reparents parent awaited entry drops closed =>
        obtain ⟨-, pool⟩ := inv.processes.runs runs
        refine ⟨_, .free ?_, .vanishes chosen rfl ((reparents.awaits_iff shows inv runs init (named parent)).mp awaited)⟩
        exact fun alive => ((Scene.live_vanish pool).mp alive).1 rfl
    -- only an exit ends a process, so it is alive and can only wait
    · have alive : k'.Alive c p := by
        refine reacts.alive inv counted (inv.runner_alive runs) ?_
        rintro ⟨-, args', same⟩
        cases same
        exact exits rfl
      by_cases outside : num < 0 ∨ num > DSOS_MAX_SYSCALLS
      · cases reacts with
        | outOfRange => exact absurd runs other
        | unknown _ range => omega
        | handled _ handler =>
          have range := handler_range handler
          omega
      · have gives := reacts.gives shows inv lineage items runs (by omega) yields
        generalize m.reply c p args num = reply at gives
        cases gives with
        | returns runs' => exact absurd runs' other
        | waits asleep =>
          have inv' := (reacts.chain inv counted).coherent inv
          exact ⟨_, .waiting (inv'.sound.mem_seq.mp asleep), .suspended chosen rfl ⟨yields, exits⟩⟩
        | dies _ dead => exact absurd alive dead

theorem Reacts.ready_turns (shows : Shows c m k) (inv : Coherent c k.store.running none k) (counted : Counted c k)
    (lineage : k.Lineage) (items : c.num_items .descriptor = c.num_items .descriptor_ptr)
    (linked : k.place p = .linked .ready_list) (reacts : Reacts c k e (.done () k')) :
    ∃ s, k'.In c p s ∧ m.Turns c p e .ready s := by
  have next := reacts.next shows inv lineage items
  have inv' := (reacts.chain inv counted).coherent inv
  obtain ⟨ahead, served, advances⟩ := reacts.advances inv
  by_cases chosen : served = some p
  · have runs := advances.runs p chosen
    exact ⟨_, .running runs, .dispatched (next.symm.trans runs)⟩
  · have there := inv'.sound.mem_seq.mp (advances.line.waits (inv.sound.mem_seq.mpr linked) chosen)
    refine ⟨_, .ready there, .queued ?_⟩
    rw [← next]
    exact inv'.idle there

theorem Reacts.sleeper_turns (shows : Shows c m k) (shows' : Shows c m' k') (inv : Coherent c k.store.running none k)
    (counted : Counted c k) (lineage : k.Lineage) (items : c.num_items .descriptor = c.num_items .descriptor_ptr)
    (linked : k.place p = .linked .waiting_list) (reacts : Reacts c k e (.done () k')) :
    ∃ s, k'.In c p s ∧ m.Turns c p e .waiting s := by
  have next := reacts.next shows inv lineage items
  have inv' := (reacts.chain inv counted).coherent inv
  have woken := reacts.wakes_in_time shows shows' inv (shows.mem_list.mpr linked)
  by_cases serves : m.Serves c p e
  · rcases woken.goes serves with ready | runs
    · have there := shows'.mem_list.mp ready
      refine ⟨_, .ready there, .woken serves ?_⟩
      rw [← next]
      exact inv'.idle there
    · rw [shows'.store] at runs
      exact ⟨_, .running runs, .resumed serves (next.symm.trans runs)⟩
  · have still : p ∈ m'.list .waiting_list := by
      by_contra gone
      exact serves (woken.exact.mp gone)
    exact ⟨_, .waiting (shows'.mem_list.mp still), .sleeps serves⟩

theorem Schedule.quiet (schedules : Schedule r k (.done () k')) :
    k'.seq .zombie_list = k.seq .zombie_list ∧ k'.free .pcb = k.free .pcb := by
  have within := Schedule.within schedules
  exact ⟨within.lists .zombie_list (by simp), within.pools .pcb (by simp)⟩

theorem Wait.collects (inv : Coherent c k.store.running none k) (runs : k.store.running = some r) (shows : Shows c m k)
    (linked : k.place p = .linked .zombie_list) (ends : Wait r (k.enter r DSOS_CALL_WAIT args) (.done () k')) :
    ∃ s, k'.In c p s ∧ m.Turns c p (.syscall DSOS_CALL_WAIT args) .zombie s := by
  have pid : (k.enter r DSOS_CALL_WAIT args).intArg r 0 = int32 (args 0) := intArg_enter (by decide)
  have asked : m.awaitedProcess args = (k.awaited r (int32 (args 0))).bind k.store.pcb_ptr := by
    simp [Kernel.awaitedProcess, shows.store, shows.awaited, runs]
  cases ends with
  | childless nobody =>
    have nobody : k.seq (.children r) = [] := nobody
    refine ⟨_, .zombie linked, .unclaimed ?_⟩
    rintro ⟨-, reaps⟩
    rw [asked, Scene.awaited, nobody] at reaps
    cases reaps
  | @reaps e z found child zombie =>
    rw [pid, awaited_enter] at found
    have child : k.store.pcb_ptr e = some z := child
    have named : m.awaitedProcess args = some z := by rw [asked, found, Option.bind_some, child]
    have entry := awaited_linked inv.sound found
    obtain ⟨⟨z', names, -, kind, -⟩, -⟩ := inv.tree.entry entry
    cases child.symm.trans names
    have pool : p.pool = .pcb := inv.sound.kind linked
    -- the scan decides which of the zombies goes
    by_cases same : p = z
    · subst same
      refine ⟨_, .free fun alive => ?_, .reaped ⟨rfl, named⟩⟩
      exact ((Scene.live_reap kind pool).mp alive).1 rfl
    · have elsewhere : p ≠ e := by
        rintro rfl
        cases linked.symm.trans entry
      refine ⟨_, .zombie ?_, .unclaimed ?_⟩
      · simpa [Scene.reap, same, elsewhere] using linked
      · rintro ⟨-, reaps⟩
        exact same (Option.some.inj (reaps.symm.trans named))
  | @blocks e z n found child alive ready =>
    rw [pid, awaited_enter] at found
    rw [status_enter] at alive
    have child : k.store.pcb_ptr e = some z := child
    have first := inv.sound.first (show (k.seq .ready_list).head? = some n from ready)
    have elsewhere : p ≠ n ∧ p ≠ r := by
      constructor
      · rintro rfl
        cases linked.symm.trans first
      · rintro rfl
        exact inv.idle linked runs
    refine ⟨_, .zombie ?_, .unclaimed ?_⟩
    · simpa [Scene.dispatch, Scene.block, elsewhere] using linked
    · rintro ⟨-, reaps⟩
      rw [asked, found, Option.bind_some, child] at reaps
      cases reaps
      have dead : k.status p = .Zombie := by simpa using inv.listed_status linked rfl
      exact alive dead

theorem Exit.keeps_dead (inv : Coherent c (some r) none k) (linked : k.place p = .linked .zombie_list)
    (ends : Exit r k (.done () k')) : k'.place p = .linked .zombie_list := by
  have unlinked := inv.processes.not_waiting rfl
  have differs : p ≠ r := by
    rintro rfl
    cases unlinked.symm.trans linked
  have pool : p.pool = .pcb := inv.sound.kind linked
  cases ends with
  | @buried i q n j init reparents parent unawaited ready =>
    obtain ⟨inv', frame⟩ := reparents.coherent inv init
    have still : j.place p = .linked .zombie_list := (frame.place (by simp [pool])).trans linked
    have elsewhere : p ≠ n := by
      rintro rfl
      cases still.symm.trans (inv'.sound.first ready)
    simpa [Scene.dispatch, Scene.bury, differs, elsewhere] using still
  | @resumes i q e j j' init reparents parent awaited entry drops closed =>
    obtain ⟨inv', frame⟩ := reparents.coherent inv init
    have still : j.place p = .linked .zombie_list := (frame.place (by simp [pool])).trans linked
    have resumption := reparents.resumption inv init parent awaited entry
    obtain ⟨drop, -⟩ := drops_frame resumption.resumed drops
    have buried : (j.bury r q).place p = .linked .zombie_list := by simpa [Scene.bury, differs] using still
    -- the parent that is resumed was blocked, and its entry is no process
    have elsewhere : p ≠ q ∧ p ≠ e := by
      constructor
      · rintro rfl
        cases buried.symm.trans resumption.blocked.1
      · rintro rfl
        cases buried.symm.trans resumption.entry
    have left : j'.place p = .linked .zombie_list := by
      rw [drop.place (by simp [pool])]
      simpa [Scene.resumeParent, elsewhere] using buried
    simpa [Scene.vanish, differs] using left

theorem Reacts.zombie_turns (shows : Shows c m k) (shows' : Shows c m' k') (inv : Coherent c k.store.running none k)
    (counted : Counted c k) (linked : k.place p = .linked .zombie_list) (reacts : Reacts c k e (.done () k')) :
    ∃ s, k'.In c p s ∧ m.Turns c p e .zombie s := by
  have sound := ((reacts.chain inv counted).coherent inv).sound
  have stays (left : ¬ m.Reaps p e) (same : k'.seq .zombie_list = k.seq .zombie_list) :
      ∃ s, k'.In c p s ∧ m.Turns c p e .zombie s := by
    refine ⟨_, .zombie (sound.mem_seq.mp ?_), .unclaimed left⟩
    rw [same]
    exact inv.sound.mem_seq.mpr linked
  cases e with
  | user memory =>
    cases reacts
    exact stays id rfl
  | tick =>
    cases reacts with
    | tick runs schedules => exact stays id schedules.quiet.1
  | proceed =>
    cases reacts with
    | proceeds leaves => exact stays id (by cases leaves <;> simp [Scene.restart])
  | syscall num args =>
    obtain ⟨r, runs⟩ := reacts.runs
    -- only these two calls touch `zombie_list`
    by_cases waits : num = DSOS_CALL_WAIT
    · subst waits
      exact Wait.collects inv runs shows linked (reacts.handler_ends rfl runs)
    by_cases exits : num = DSOS_CALL_EXIT
    · subst exits
      have ends : Exit r (k.enter r DSOS_CALL_EXIT args) (.done () k') := reacts.handler_ends rfl runs
      refine ⟨_, .zombie (ends.keeps_dead (inv.entered runs _ args) linked), .unclaimed ?_⟩
      rintro ⟨call, -⟩
      exact absurd call (by decide)
    · refine stays (fun reaps => waits reaps.1) ?_
      rw [← shows'.list, ← shows.list]
      refine (reacts.stays shows shows' inv runs).lists .zombie_list (fun here => ?_) (by rintro o ⟨⟩)
      simp only [CallLists, List.mem_cons, List.not_mem_nil, or_false] at here
      rcases here with call | call
      · exact waits call
      · exact exits call

theorem Exit.unborn (inv : Coherent c (some r) none k) (pool : p.pool = .pcb) (dead : ¬ k.Live c p)
    (ends : Exit r k (.done () k')) : ¬ k'.Live c p := by
  cases ends with
  | @buried i q n j init reparents parent unawaited ready =>
    have frame := (reparents.coherent inv init).2
    simpa [Scene.dispatch, Scene.bury, frame.live (c := c) (x := p) (by simp [pool])] using dead
  | @resumes i q e j j' init reparents parent awaited entry drops closed =>
    have frame := (reparents.coherent inv init).2
    have resumption := reparents.resumption inv init parent awaited entry
    obtain ⟨drop, -⟩ := drops_frame resumption.resumed drops
    intro alive
    have left := ((Scene.live_vanish (inv.processes.runs rfl).2).mp alive).2
    rw [drop.live (by simp [pool]), Scene.live_resumeParent] at left
    exact dead ((frame.live (by simp [pool])).mp left)

theorem NewChild.bears {finish : Addr → Scene → Scene} (ends : NewChild finish r (k.enter r num args) (.done () k'))
    (shows : Shows c m k) (inv : Coherent c k.store.running none k) (pool : p.pool = .pcb) (dead : ¬ k.Live c p)
    (calls : num = DSOS_CALL_FORK ∨ num = DSOS_CALL_SPAWN) (same : ∀ p j, (finish p j).toShape = j.toShape) :
    ∃ s, k'.In c p s ∧ m.Turns c p (.syscall num args) .free s := by
  cases ends with
  | @child p' e pcb unspent ptr =>
    have top : (k.free .pcb).head? = some p' := pcb
    have named := shows.first_idx top
    have shape := same p' ((k.enter r num args).newChild r p' e)
    by_cases taken : p = p'
    · refine ⟨_, .ready ?_, .born ⟨calls, taken.trans named⟩⟩
      rw [shape, taken]
      simp [Scene.newChild]
    · have sound : (k.enter r num args).Sound c := inv.sound
      refine ⟨_, .free ?_, .unborn (fun bears => taken (bears.2.trans named.symm)) id⟩
      rw [Scene.Live, shape, ← Scene.Live, Scene.live_newChild sound pcb pool]
      exact not_or.mpr ⟨taken, dead⟩

theorem Reacts.free_turns (shows : Shows c m k) (shows' : Shows c m' k') (inv : Coherent c k.store.running none k)
    (pool : p.pool = .pcb) (dead : ¬ k.Live c p) (reacts : Reacts c k e (.done () k')) :
    ∃ s, k'.In c p s ∧ m.Turns c p e .free s := by
  have stays (left : ¬ m.Bears p e) (idle : ¬ m.Starts p e) (same : k'.Live c p ↔ k.Live c p) :
      ∃ s, k'.In c p s ∧ m.Turns c p e .free s :=
    ⟨_, .free (fun alive => dead (same.mp alive)), .unborn left idle⟩
  cases e with
  | user memory =>
    cases reacts
    exact stays id id Iff.rfl
  | tick =>
    cases reacts with
    | @tick r _ runs schedules =>
      refine stays id id ?_
      have same : k'.free .pcb = k.free .pcb := schedules.quiet.2
      simp only [Scene.Live, Shape.Live, layout_poolOf, pool, same]
  | proceed =>
    cases reacts with
    | proceeds leaves =>
      cases leaves with
      | resumes running set =>
        refine stays id (fun starts => ?_) Iff.rfl
        rw [← shows.store] at running
        cases running.symm.trans starts.1
      | @restarts p' idle pcb unspent =>
        have named := shows.first_idx pcb
        -- the first block of the pool becomes the first process
        by_cases taken : p = p'
        · refine ⟨_, .running ?_, .started ⟨shows.store ▸ idle, taken.trans named⟩⟩
          rw [taken]
          rfl
        · refine stays id (fun starts => taken (starts.2.trans named.symm)) ?_
          exact (Scene.live_restart inv.sound pcb).trans (or_iff_right taken)
  | syscall num args =>
    obtain ⟨r, runs⟩ := reacts.runs
    by_cases calls : num = DSOS_CALL_FORK ∨ num = DSOS_CALL_SPAWN
    · obtain ⟨finish, handler, finishes⟩ := child_handler (c := c) calls
      have ends := reacts.handler_ends handler runs
      refine NewChild.bears ends shows inv pool dead calls fun p j => ?_
      rcases finishes r p j with same | ⟨f, same⟩ <;> rw [same]
      rfl
    have unborn : ¬ m.Bears p (.syscall num args) := fun bears => calls bears.1
    by_cases waits : num = DSOS_CALL_WAIT
    · subst waits
      have ends : Wait r (k.enter r DSOS_CALL_WAIT args) (.done () k') := reacts.handler_ends rfl runs
      refine ⟨_, .free ?_, .unborn unborn id⟩
      cases ends with
      | childless nobody => exact dead
      | reaps found child zombie =>
        rw [intArg_enter (by decide), awaited_enter] at found
        obtain ⟨⟨z', names, -, kind, -⟩, -⟩ := inv.tree.entry (awaited_linked inv.sound found)
        cases child.symm.trans names
        exact fun alive => dead ((Scene.live_reap kind pool).mp alive).2
      | blocks found child alive ready => exact dead
    by_cases exits : num = DSOS_CALL_EXIT
    · subst exits
      have ends : Exit r (k.enter r DSOS_CALL_EXIT args) (.done () k') := reacts.handler_ends rfl runs
      exact ⟨_, .free (ends.unborn (inv.entered runs _ args) pool dead), .unborn unborn id⟩
    · refine stays unborn id ?_
      rw [← shows'.allocated, ← shows.allocated]
      refine (reacts.stays shows shows' inv runs).pools p fun here => ?_
      rw [pool] at here
      simp only [CallPools, List.mem_cons, List.not_mem_nil, or_false] at here
      tauto

/-! ## The cycle -/

theorem Reacts.cycles (shows : Shows c m k) (shows' : Shows c m' k') (inv : Coherent c k.store.running none k)
    (counted : Counted c k) (lineage : k.Lineage) (items : c.num_items .descriptor = c.num_items .descriptor_ptr)
    (pool : p.pool = .pcb) (reacts : Reacts c k e (.done () k')) : m.Turns c p e (m.stage p) (m'.stage p) := by
  have inv' := (reacts.chain inv counted).coherent inv
  obtain ⟨s, stands⟩ := inv.in_stage pool
  suffices turns : ∃ s', k'.In c p s' ∧ m.Turns c p e s s' by
    obtain ⟨s', there, turns⟩ := turns
    rwa [shows.stage inv stands, shows'.stage inv' there]
  cases stands with
  | free dead => exact reacts.free_turns shows shows' inv pool dead
  | ready linked => exact reacts.ready_turns shows inv counted lineage items linked
  | running runs => exact reacts.runner_turns shows inv counted lineage items runs
  | waiting linked => exact reacts.sleeper_turns shows shows' inv counted lineage items linked
  | zombie linked => exact reacts.zombie_turns shows shows' inv counted linked

end

/-- From one stage an event leads to one stage. -/
theorem Kernel.Turns.unique {c : Config} {m : Kernel} {p : Addr} {e : Event} {s t t' : Stage}
    (first : m.Turns c p e s t) (second : m.Turns c p e s t') : t = t' := by
  -- three facts keep the causes apart: no schedule is an exit or a blocking call,
  -- no exit is another call, and no event both bears and starts a process
  have plain {num : Int} {args : Nat → Int} (call : e = .syscall num args)
      (other : num ≠ DSOS_CALL_PREEMPT ∧ num ≠ DSOS_CALL_EXIT) : ¬ e.Schedules := by
    subst call
    exact other.1
  have exit {args : Nat → Int} (call : e = .syscall DSOS_CALL_EXIT args) : ¬ e.Schedules := by
    subst call
    change DSOS_CALL_EXIT ≠ DSOS_CALL_PREEMPT
    decide
  have apart {num : Int} {args args' : Nat → Int} (call : e = .syscall num args)
      (call' : e = .syscall DSOS_CALL_EXIT args') : num = DSOS_CALL_EXIT := by
    cases call.symm.trans call'
    rfl
  have distinct (bears : m.Bears p e) (starts : m.Starts p e) : False := by
    cases e with
    | proceed => exact bears
    | user | syscall | tick => exact starts
  cases first with
  | goesOn next =>
    cases second with
    | goesOn => rfl
    | preempted other | suspended other | buried other | vanishes other => exact absurd next other
  | preempted other turn =>
    cases second with
    | goesOn next => exact absurd next other
    | preempted => rfl
    | suspended _ call differs => exact absurd turn (plain call differs)
    | buried _ exits | vanishes _ exits => exact absurd turn (exit exits)
  | suspended other call differs =>
    cases second with
    | goesOn next => exact absurd next other
    | preempted _ turn => exact absurd turn (plain call differs)
    | suspended => rfl
    | buried _ exits | vanishes _ exits => exact absurd (apart call exits) differs.2
  | buried other exits unawaited =>
    cases second with
    | goesOn next => exact absurd next other
    | preempted _ turn => exact absurd turn (exit exits)
    | suspended _ call differs => exact absurd (apart call exits) differs.2
    | buried => rfl
    | vanishes _ _ awaited => exact absurd awaited (unawaited _)
  | vanishes other exits awaited =>
    cases second with
    | goesOn next => exact absurd next other
    | preempted _ turn => exact absurd turn (exit exits)
    | suspended _ call differs => exact absurd (apart call exits) differs.2
    | buried _ _ unawaited => exact absurd awaited (unawaited _)
    | vanishes => rfl
  | dispatched next =>
    cases second with
    | dispatched => rfl
    | queued other => exact absurd next other
  | queued other =>
    cases second with
    | dispatched next => exact absurd next other
    | queued => rfl
  | resumed serves next =>
    cases second with
    | resumed => rfl
    | woken _ other => exact absurd next other
    | sleeps unserved => exact absurd serves unserved
  | woken serves other =>
    cases second with
    | resumed _ next => exact absurd next other
    | woken => rfl
    | sleeps unserved => exact absurd serves unserved
  | sleeps unserved =>
    cases second with
    | resumed serves | woken serves => exact absurd serves unserved
    | sleeps => rfl
  | reaped reaps =>
    cases second with
    | reaped => rfl
    | unclaimed left => exact absurd reaps left
  | unclaimed left =>
    cases second with
    | reaped reaps => exact absurd reaps left
    | unclaimed => rfl
  | born bears =>
    cases second with
    | born => rfl
    | started starts => exact (distinct bears starts).elim
    | unborn left => exact absurd bears left
  | started starts =>
    cases second with
    | born bears => exact (distinct bears starts).elim
    | started => rfl
    | unborn _ idle => exact absurd starts idle
  | unborn left idle =>
    cases second with
    | born bears => exact absurd bears left
    | started starts => exact absurd starts idle
    | unborn => rfl

/-- Every process goes through its life cycle, and no event moves it otherwise. -/
theorem life_cycle (c : Constants) {m m' : Kernel} {e : Event} {p : Addr} (reach : Reachable c.toConfig m)
    (pool : p.pool = .pcb) (step : Step c.toConfig m e m') (s : Stage) :
    m.Turns c.toConfig p e (m.stage p) s ↔ m'.stage p = s := by
  obtain ⟨k, shows, inv, counted, lineage⟩ := reach.lineage
  obtain ⟨k', shows', reacts⟩ := step.reacts shows inv
  have turns := reacts.cycles shows shows' inv counted lineage rfl pool
  constructor
  · exact fun turns' => turns.unique turns'
  · rintro rfl
    exact turns

/-- The first process has a child, which runs, and waits for it. -/
def child_awaited : Observed always fun m => m.store.running = some (block .pcb 1) ∧
    block .pcb 0 ∈ m.list .waiting_list ∧ WaitingParent m (block .pcb 1) (block .pcb 0) ∧
    ((trial_from constants.toConfig always [.syscall DSOS_CALL_EXIT (arguments [7])] m).any fun m' =>
      m'.store.running = some (block .pcb 0)) = true :=
  observe always [.syscall DSOS_CALL_SPAWN (arguments [1, 2]), .syscall DSOS_CALL_WAIT (arguments [0, 0])]
    (by decide +kernel)

theorem life_cycle_child : ∃ m m', Reachable constants.toConfig m ∧
    Step constants.toConfig m (.syscall DSOS_CALL_EXIT (arguments [7])) m' ∧ m'.stage (block .pcb 1) = .free := by
  obtain ⟨m, reached, runs, waits, parent, exits⟩ := child_awaited
  obtain ⟨m', step, resumed⟩ := trial_step exits
  have turns := (life_cycle constants reached.reachable (p := block .pcb 1) rfl step _).mpr rfl
  have before : m.stage (block .pcb 1) = .running := by simp [Kernel.stage, runs]
  have away : m'.stage (block .pcb 1) ≠ .running := by
    rw [Kernel.stage, resumed, if_neg (by decide)]
    split_ifs <;> decide
  refine ⟨m, m', reached.reachable, step, ?_⟩
  rw [before] at turns
  generalize m'.stage (block .pcb 1) = s at turns away
  cases turns with
  | goesOn next => exact absurd rfl away
  | preempted _ turn => exact absurd turn (show DSOS_CALL_EXIT ≠ DSOS_CALL_PREEMPT by decide)
  | suspended _ call differs =>
    cases call
    exact absurd rfl differs.2
  | buried _ _ unawaited => exact absurd parent (unawaited _)
  | vanishes => rfl

end DisastrOS
