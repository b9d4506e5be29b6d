import DisastrOS.Replies

/-! What every system call replies once the processor has left the kernel.

The handler has answered the caller or picked somebody else. Then `setcontext`
resumes that process, if its context was ever set, and with nobody left `uc_link`
leads back to the start.
-/

set_option autoImplicit false

namespace DisastrOS

open Refinement

/-- The reply of the whole call: the process that is next may have no context, and if
nobody is next a first process is needed. -/
def Kernel.leaving (m : Kernel) : Reply → Reply
  | .waits none =>
    if (m.data.pools .pcb).size = 0 then .stops (.null .pcb)
    else if m.store.last_pid = INT_MAX then .stops .overflow
    else .startsOver m.store.last_pid
  | .waits (some n) => if (m.store.pcb n).cpu_state = .unset then .stops .noContext else .waits (some n)
  | .dies n => if (m.store.pcb n).cpu_state = .unset then .stops .noContext else .dies n
  | reply => reply

/-- What the outcome of a call in the state `m` tells its caller `r`, once the processor has left the kernel. -/
inductive Tells (c : Config) (m : Kernel) (r : Addr) : Outcome Stop Kernel Unit → Reply → Prop where
  | returns {m' : Kernel} {value : Int} (runs : m'.store.running = some r)
      (answer : (m'.store.pcb r).syscall_retvalue = value) : Tells c m r (.done () m') (.returns value)
  | waits {m' : Kernel} {n : Addr} (runs : m'.store.running = some n) (old : m.Allocated c n)
      (asleep : r ∈ m'.list .waiting_list) : Tells c m r (.done () m') (.waits (some n))
  | dies {m' : Kernel} {n : Addr} (runs : m'.store.running = some n) (dead : ¬ m'.Lives r) :
      Tells c m r (.done () m') (.dies n)
  | startsOver {m' : Kernel} {n : Addr} {pid : Int} (runs : m'.store.running = some n) (new : ¬ m.Allocated c n)
      (named : (m'.store.pcb n).pid = pid) (asleep : r ∈ m'.list .waiting_list) :
      Tells c m r (.done () m') (.startsOver pid)
  | stops (stop : Stop) : Tells c m r (.fault stop) (.stops stop)
  | loops : Tells c m r .exhausted .loops

/-- The call of `r` and the end of it give this reply. -/
def Kernel.Replies (c : Config) (m : Kernel) (r : Addr) (args : Nat → Int) (num : Int) (reply : Reply) : Prop :=
  ∃ o, (Kernel.machine c).Unfolds m [.syscall num args, .proceed] o ∧ Tells c m r o reply

/-! ## Who is picked -/

def Reply.next : Reply → Pointer
  | .waits n => n
  | .dies n => some n
  | _ => none

def Reply.idles : Reply → Bool
  | .waits none => true
  | _ => false

/-- Who runs next was ready, or waited for the caller to die, and only a sleep leaves nobody. -/
structure Reply.Picks (m : Kernel) (r : Addr) (num : Int) (reply : Reply) : Prop where
  somebody : ∀ n, reply.next = some n → n ∈ m.list .ready_list ∨ WaitingParent m r n
  nobody : reply.idles = true → num = DSOS_CALL_SLEEP

section
variable {c : Config} {m : Kernel} {r n : Addr} {num : Int} {args : Nat → Int} {reply reply' : Reply}

theorem Reply.Picks.none (next : reply.next = none) (other : reply.idles = false) : reply.Picks m r num := by
  refine ⟨fun n same => ?_, fun idle => ?_⟩
  · cases next.symm.trans same
  · cases other.symm.trans idle

theorem Reply.Picks.ready :
    (if m.list .ready_list = [] then .stops .detachNull else .waits (m.list .ready_list).head? : Reply).Picks m r num := by
  cases ready : m.list .ready_list with
  | nil => exact .none rfl rfl
  | cons n rest =>
    refine ⟨fun n' next => .inl ?_, fun idle => by cases idle⟩
    cases next
    rw [ready]
    exact List.mem_cons_self

theorem Reply.Picks.cases {P : Prop} [Decidable P] (first : P → reply.Picks m r num) (second : reply'.Picks m r num) :
    (if P then reply else reply').Picks m r num := by
  split
  next holds => exact first holds
  next => exact second

theorem Reply.Picks.ite {P : Prop} [Decidable P] (first : reply.Picks m r num) (second : reply'.Picks m r num) :
    (if P then reply else reply').Picks m r num :=
  .cases (fun _ => first) second

theorem Kernel.suspendReply_picks {mq : Pointer} : (m.suspendReply mq).Picks m r num :=
  .ite (.none rfl rfl) (.ite (.none rfl rfl) .ready)

theorem Kernel.sleepReply_picks (sleeps : num = DSOS_CALL_SLEEP) : m.sleepReply.Picks m r num :=
  .ite (.none rfl rfl) (.ite (.none rfl rfl) ⟨fun _ next => .inl (List.mem_of_mem_head? next), fun _ => sleeps⟩)

theorem Kernel.descriptorReply_picks : (m.descriptorReply r).Picks m r num :=
  .ite (.none rfl rfl) (.ite (.none rfl rfl) (.none rfl rfl))

theorem Kernel.exitReply_picks : (m.exitReply r).Picks m r num := by
  unfold exitReply
  split
  · exact .ite (.none rfl rfl) (.none rfl rfl)
  · split
    next awaits =>
      refine .ite (.none rfl rfl) (.ite (.none rfl rfl) ⟨fun n next => ?_, fun idle => by cases idle⟩)
      cases next
      exact .inr awaits
    next =>
      split
      · exact .none rfl rfl
      next ready =>
        refine ⟨fun n next => ?_, fun idle => by cases idle⟩
        cases next
        exact .inl (List.mem_of_mem_head? ready)

theorem Kernel.reply_picks : (m.reply c r args num).Picks m r num := by
  refine .ite (.ite (.none rfl rfl) (.ite (.none rfl rfl) (.ite (.none rfl rfl) (.none rfl rfl)))) (.ite ?wait (.ite exitReply_picks
    (.cases sleepReply_picks (.ite ?openResource (.ite ?closeResource (.ite ?destroyResource
    (.ite (.none rfl rfl) (.ite ?openQueue (.ite ?closeQueue (.ite ?write (.ite ?read (.ite ?destroyQueue
    (.ite (.none rfl rfl) (.none rfl rfl))))))))))))))
  case wait =>
    unfold waitReply
    split
    · exact .none rfl rfl
    · exact .ite (.none rfl rfl) .ready
  case openResource =>
    unfold openResourceReply
    split
    · exact .ite (.none rfl rfl) (.ite (.none rfl rfl) descriptorReply_picks)
    · exact .ite (.none rfl rfl) (.ite (.none rfl rfl) (.ite (.none rfl rfl) descriptorReply_picks))
  case openQueue =>
    unfold openQueueReply
    split
    · exact .ite (.none rfl rfl) (.ite (.none rfl rfl) descriptorReply_picks)
    · exact .ite (.none rfl rfl) (.ite (.none rfl rfl) descriptorReply_picks)
  case closeResource | closeQueue =>
    unfold closeReply
    split
    · exact .none rfl rfl
    · exact .ite (.none rfl rfl) (.none rfl rfl)
  case destroyResource | destroyQueue =>
    unfold destroyReply
    split
    · exact .none rfl rfl
    · exact .ite (.none rfl rfl) (.none rfl rfl)
  case write =>
    refine .ite (.none rfl rfl) ?_
    split
    · exact .none rfl rfl
    · exact .ite suspendReply_picks (.ite (.none rfl rfl) (.ite (.none rfl rfl) (.none rfl rfl)))
  case read =>
    unfold readReply
    split
    · exact suspendReply_picks
    · exact .ite (.none rfl rfl) (.ite (.none rfl rfl) (.none rfl rfl))

end

/-! ## The end of the call -/

section
variable {c : Config} {tag : Tag} {P P' : Phase} {m m' : Kernel} {k k' : Scene} {p r n : Addr} {num : Int}
  {args : Nat → Int}

theorem Move.context (move : Move c tag P P') (inv : P.Coherent c) (alive : P.scene.Live c p)
    (set : (P.scene.store.pcb p).cpu_state ≠ .unset) : (P'.scene.store.pcb p).cpu_state ≠ .unset := by
  cases move with
  | @fork k r q e pcb ptr =>
    have other : p ≠ q := by
      rintro rfl
      exact (inv.sound.top pcb).2.2 alive
    simpa [Scene.newChild, other] using set
  | @spawn k r q e function argument pcb ptr =>
    have other : p ≠ q := by
      rintro rfl
      exact (inv.sound.top pcb).2.2 alive
    simpa [Scene.newChild, other] using set
  | @restart k q pcb =>
    have other : p ≠ q := by
      rintro rfl
      exact (inv.sound.top pcb).2.2 alive
    simpa [Scene.restart, other] using set
  | enter num args runs =>
    simp only [Scene.enter, Scene.store_setPCB]
    simp
    split
    · simp
    · exact set
  | tick runs =>
    simp [Scene.tick]
    split
    · simp
    · exact set
  | _ =>
    simpa [Scene.block, Scene.startTimer, Scene.dispatch, Scene.enqueue,
        Scene.wakeSleeper, Scene.rotate, Scene.reparent, Scene.bury, Scene.destroy, Scene.newQueue, Scene.vanish, Scene.reap,
        Scene.resumeParent, Scene.dropDescriptor, Scene.newResource, Scene.finishRead, Scene.finishWrite, Scene.post,
        Scene.openDescriptor, Scene.wakeWaiter, Scene.wakeWriter] using set

theorem Reacts.context (inv : Coherent c k.store.running none k) (counted : Counted c k) (runs : k.store.running = some r)
    (range : 0 ≤ num ∧ num ≤ DSOS_MAX_SYSCALLS) (back : k'.store.running = some r)
    (reacts : Reacts c k (.syscall num args) (.done () k')) : (k'.store.pcb r).cpu_state ≠ .unset := by
  have saved : ((k.enter r num args).store.pcb r).cpu_state ≠ .unset := by simp [Scene.enter]
  have entered := inv.entered runs num args
  have lives := ((reacts.chain inv counted).coherent inv).runner_alive back
  cases reacts with
  | outOfRange _ outside => omega
  | unknown running =>
    cases runs.symm.trans running
    simpa using saved
  | handled running handler ends =>
    cases runs.symm.trans running
    by_cases exits : num = DSOS_CALL_EXIT
    · subst exits
      cases handler
      have ends : Exit r (k.enter r DSOS_CALL_EXIT args) (.done () k') := ends
      exact absurd lives (ends.dead entered)
    · have kept := (handler_chain (runs ▸ inv) counted runs handler ends).keeps
        (J := fun P => (P.scene.Alive c r ∧ P.gone ≠ some r) ∧ (P.scene.store.pcb r).cpu_state ≠ .unset) entered
        (fun does inv' move holds => ⟨move.alive inv' holds.1.1 holds.1.2 fun q same => ?_,
          move.context inv' holds.1.1.allocated holds.2⟩)
        ⟨⟨entered.runner_alive rfl, by simp⟩, saved⟩
      · exact kept.2.2
      · subst same
        obtain ⟨-, args', same⟩ := does.buried
        cases same
        exact exits rfl

theorem proceed_stops (runs : m.store.running = some n) (unset : (m.store.pcb n).cpu_state = .unset) :
    Halts c m .proceed .noContext :=
  ⟨0, by simp [Event.code, proceed, Program.run_bind, DisastrOS.get, Program.get, Program.run, Outcome.bind, runs, unset]⟩

theorem Shows.hands {o : Reply} (shows : Shows c m k) (inv : Coherent c k.store.running none k)
    (runs : m.store.running = some r) (stays : StaysWithin c m m' r num args)
    (step : Step c m (.syscall num args) m') (next : m'.store.running = some n)
    (picked : n ∈ m.list .ready_list ∨ WaitingParent m r n)
    (told : m.Allocated c n → Tells c m r (.done () m') o) :
    m.Replies c r args num (if (m.store.pcb n).cpu_state = .unset then .stops .noContext else o) := by
  have linked : ∃ h, k.place n = .linked h := by
    rcases picked with ready | awaits
    · exact ⟨_, shows.mem_list.mp ready⟩
    · refine ⟨_, inv.processes.waits ?_⟩
      rw [Scene.status, ← shows.store]
      exact awaits.2.1
  obtain ⟨h, linked⟩ := linked
  have old : m.Allocated c n := (shows.allocated n).mpr (inv.sound.live linked)
  have other : n ≠ r := by
    rintro rfl
    rw [shows.store] at runs
    cases (inv.processes.not_waiting runs).symm.trans linked
  have same : (m'.store.pcb n).cpu_state = (m.store.pcb n).cpu_state := by
    have own := stays.own n other old
    simp only [PCB.own, Prod.mk.injEq] at own
    exact own.2.2.2.2.1
  split
  next unset => exact ⟨_, .answered step (.stopped (proceed_stops next (same.trans unset))), .stops _⟩
  next set => exact ⟨_, .answered step (.answered (proceed_resumes next (same ▸ set)) (.nil m')), told old⟩

theorem Pictures.restarts (pictures : Pictures c m k) (pictures' : Pictures c m' k')
    (step : Step c m (.syscall num args) m') (idle : k'.store.running = none) (pool : k'.free .pcb = k.free .pcb)
    (counter : k'.store.last_pid = k.store.last_pid) (asleep : r ∈ k'.seq .waiting_list) :
    m.Replies c r args num (m.leaving (.waits none)) := by
  -- the handler has left the pool and the pids as they were
  have spent (full : k'.free .pcb = []) : (m.data.pools .pcb).size = 0 := pictures.shows.pool_empty (pool ▸ full)
  have left {p : Addr} (top : (k'.free .pcb).head? = some p) : (m.data.pools .pcb).size ≠ 0 :=
    pictures.shows.pool_left (pool ▸ top)
  have last : m.store.last_pid = k'.store.last_pid := by rw [pictures.shows.store, counter]
  unfold Kernel.leaving
  dsimp only
  rcases pictures'.outcome .proceed with ⟨m'', k'', step', pictures'', reacts⟩ | ⟨stop, halts, reacts⟩ | reacts
  · cases reacts with
    | proceeds leaves =>
      cases leaves with
      | resumes running set => cases idle.symm.trans running
      | @restarts p _ pcb unspent =>
        rw [if_neg (left pcb), if_neg (last ▸ unspent)]
        refine ⟨.done () m'', .answered step (.answered step' (.nil m'')), .startsOver (n := p) ?_ ?_ ?_ ?_⟩
        · rw [pictures''.shows.store]
          rfl
        · rw [pictures.shows.allocated]
          exact (pictures.coherent.sound.top (pool ▸ pcb)).2.2
        · rw [pictures''.shows.store, last]
          simp [Scene.restart]
        · rw [pictures''.shows.list]
          simpa [Scene.restart] using asleep
  · cases reacts with
    | proceeds leaves =>
      cases leaves with
      | noContext running unset => cases idle.symm.trans running
      | noPCB _ full =>
        rw [if_pos (spent full)]
        exact ⟨_, .answered step (.stopped halts), .stops _⟩
      | overflow _ pcb counts =>
        rw [if_neg (left pcb), if_pos (last.trans counts)]
        exact ⟨_, .answered step (.stopped halts), .stops _⟩
  · cases reacts with
    | proceeds leaves => cases leaves

/-- A call and the end of it reply as the table says. -/
theorem Pictures.replies (pictures : Pictures c m k) (lineage : k.Lineage)
    (items : c.num_items .descriptor = c.num_items .descriptor_ptr) (runs : k.store.running = some r)
    (range : 0 ≤ num ∧ num ≤ DSOS_MAX_SYSCALLS) (other : num ≠ DSOS_CALL_PREEMPT) :
    m.Replies c r args num (m.leaving (m.reply c r args num)) := by
  obtain ⟨shows, inv, counted⟩ := pictures
  have picks : (m.reply c r args num).Picks m r num := Kernel.reply_picks
  have runs' : m.store.running = some r := shows.store ▸ runs
  rcases shows.outcome inv (.syscall num args) with ⟨m', k', step, shows', reacts⟩ | ⟨stop, halts, reacts⟩ | reacts
  · have pictures' : Pictures c m' k' := Pictures.next ⟨shows, inv, counted⟩ shows' reacts
    have gives := reacts.gives shows inv lineage items runs range other
    have stays := reacts.stays shows shows' inv runs
    generalize m.reply c r args num = reply at gives picks
    cases gives with
    | returns back answer =>
      -- the caller has been saved by its call, so it can be resumed
      have set := reacts.context inv counted runs range back
      rw [← shows'.store] at back answer set
      exact ⟨_, .answered step (.answered (proceed_resumes back set) (.nil m')), .returns back answer⟩
    | waits asleep =>
      cases next : k'.store.running with
      | none =>
        rw [next] at picks
        -- only a sleep leaves nobody, and it takes no process and no pid
        obtain rfl := picks.nobody rfl
        have ends : Sleep r (k.enter r DSOS_CALL_SLEEP args) (.done () k') := reacts.handler_ends rfl runs
        have same : k'.free .pcb = k.free .pcb ∧ k'.store.last_pid = k.store.last_pid := by
          cases ends <;> simp [Scene.dispatch, Scene.block, Scene.startTimer, Scene.enter]
        exact Pictures.restarts ⟨shows, inv, counted⟩ pictures' step next same.1 same.2 asleep
      | some n =>
        rw [next] at picks
        rw [← shows'.store] at next
        rw [← shows'.list] at asleep
        exact shows.hands inv runs' stays step next (picks.somebody n rfl) fun old => .waits next old asleep
    | @dies _ n next dead =>
      rw [← shows'.store] at next
      rw [← shows'.lives pictures'.coherent] at dead
      exact shows.hands inv runs' stays step next (picks.somebody n rfl) fun _ => .dies next dead
  · have gives := reacts.gives shows inv lineage items runs range other
    generalize m.reply c r args num = reply at gives
    cases gives
    exact ⟨_, .stopped halts, .stops stop⟩
  · have gives := reacts.gives shows inv lineage items runs range other
    generalize m.reply c r args num = reply at gives
    cases gives
    exact ⟨_, .looping (Pictures.loops ⟨shows, inv, counted⟩ reacts), .loops⟩

theorem Tells.unique {o : Outcome Stop Kernel Unit} {reply reply' : Reply}
    (inv : ∀ m', o = .done () m' → ∃ k', Shows c m' k' ∧ Coherent c k'.store.running none k')
    (first : Tells c m r o reply) (second : Tells c m r o reply') : reply = reply' := by
  -- who runs does not wait
  have awake {m' : Kernel} (inv : ∃ k', Shows c m' k' ∧ Coherent c k'.store.running none k')
      (runs : m'.store.running = some r) : r ∉ m'.list .waiting_list := by
    obtain ⟨k', shows', inv⟩ := inv
    intro asleep
    rw [shows'.mem_list] at asleep
    rw [shows'.store] at runs
    cases (inv.processes.not_waiting runs).symm.trans asleep
  cases first with
  | returns runs answer =>
    have inv := inv _ rfl
    cases second with
    | returns _ answer' => rw [← answer, ← answer']
    | waits _ _ asleep | startsOver _ _ _ asleep => exact absurd asleep (awake inv runs)
    | dies _ dead => exact absurd (.inl runs) dead
  | waits next old asleep =>
    have inv := inv _ rfl
    cases second with
    | returns runs => exact absurd asleep (awake inv runs)
    | waits next' =>
      cases next.symm.trans next'
      rfl
    | startsOver next' new =>
      cases next.symm.trans next'
      exact absurd old new
    | dies _ dead => exact absurd (.inr (.inr asleep)) dead
  | dies next dead =>
    have inv := inv _ rfl
    cases second with
    | returns runs => exact absurd (.inl runs) dead
    | waits _ _ asleep | startsOver _ _ _ asleep => exact absurd (.inr (.inr asleep)) dead
    | dies next' =>
      cases next.symm.trans next'
      rfl
  | startsOver next new named asleep =>
    have inv := inv _ rfl
    cases second with
    | returns runs => exact absurd asleep (awake inv runs)
    | waits next' old =>
      cases next.symm.trans next'
      exact absurd old new
    | dies _ dead => exact absurd (.inr (.inr asleep)) dead
    | startsOver next' _ named' =>
      cases next.symm.trans next'
      rw [← named, ← named']
  | stops =>
    cases second
    rfl
  | loops =>
    cases second
    rfl

end

/-- Every system call replies as the table says, and in no other way. -/
theorem replies_exact (c : Constants) {m : Kernel} (reach : Reachable c.toConfig m) {r : Addr}
    (runs : m.store.running = some r) {num : Int} {args : Nat → Int} (range : 0 ≤ num ∧ num ≤ DSOS_MAX_SYSCALLS)
    (other : num ≠ DSOS_CALL_PREEMPT) (reply : Reply) :
    m.Replies c.toConfig r args num reply ↔ m.leaving (m.reply c.toConfig r args num) = reply := by
  obtain ⟨k, shows, inv, counted, lineage⟩ := reach.lineage
  have pictures : Pictures c.toConfig m k := ⟨shows, inv, counted⟩
  rw [shows.store] at runs
  have told : m.Replies c.toConfig r args num _ := pictures.replies lineage rfl runs range other
  constructor
  · rintro ⟨o, unfolds, tells⟩
    obtain ⟨o', unfolds', tells'⟩ := told
    cases (Kernel.machine_determined _).unfolds unfolds unfolds'
    refine tells'.unique ?_ tells
    rintro m'' rfl
    cases unfolds with
    | answered step rest =>
      cases rest with
      | answered step' last =>
        cases last
        obtain ⟨k'', shows'', inv'', -⟩ := ((reach.step step).step step').shows
        exact ⟨k'', shows'', inv''⟩
  · rintro rfl
    exact told

/-- The first process is alone, and the table for its sleep is evaluated. -/
def first_sleeps : Observed always fun m => m.store.running = some (block .pcb 0) ∧
    m.leaving (m.reply constants.toConfig (block .pcb 0) (arguments [3]) DSOS_CALL_SLEEP) = .startsOver 1 :=
  observe always [] (by decide +kernel)

theorem replies_exact_sleep : ∃ m, Reachable constants.toConfig m ∧
    m.Replies constants.toConfig (block .pcb 0) (arguments [3]) DSOS_CALL_SLEEP (.startsOver 1) := by
  obtain ⟨m, reached, runs, table⟩ := first_sleeps
  exact ⟨m, reached.reachable, (replies_exact constants reached.reachable runs (by decide) (by decide) _).mpr table⟩

end DisastrOS
