import DisastrOS.Fairness
import DisastrOS.Fifo
import DisastrOS.Footprints
import DisastrOS.Releasing

/-! A process that waits is woken by what it waits for, and by nothing else.

Four loops of the kernel take processes out of `waiting_list`: over the timers, over
the readers and the writers of a queue, and over the children of a parent. No event
leaves somebody behind whom it should have woken.
-/

set_option autoImplicit false

namespace DisastrOS

open Refinement
open Relation (ReflTransGen)

/-- The event is what the suspended process `p` waits for. -/
inductive Kernel.Serves (c : Config) (m : Kernel) (p : Addr) : Event → Prop where
  | tick {t : Addr} (timer : t ∈ m.list .timer_list) (owner : (m.store.timer_item t).pcb = some p)
      (due : (m.store.timer_item t).awakening_time ≤ int32 (m.store.disastrOS_time + 1)) : Serves c m p .tick
  | preempt {t : Addr} {args : Nat → Int} (timer : t ∈ m.list .timer_list)
      (owner : (m.store.timer_item t).pcb = some p)
      (due : (m.store.timer_item t).awakening_time ≤ m.store.disastrOS_time) :
      Serves c m p (.syscall DSOS_CALL_PREEMPT args)
  | write {q : Addr} {args : Nat → Int} (writes : WritesTo c m q args)
      (waits : p ∈ m.waiters (.waiting_to_read q)) : Serves c m p (.syscall DSOS_CALL_WRITE_MQ args)
  | read {q x : Addr} {args : Nat → Int} (reads : ReadsFrom m q args x)
      (waits : p ∈ m.waiters (.waiting_to_write q)) : Serves c m p (.syscall DSOS_CALL_READ_MQ args)
  | exit {r : Addr} {args : Nat → Int} (runs : m.store.running = some r) (parent : WaitingParent m r p) :
      Serves c m p (.syscall DSOS_CALL_EXIT args)

/-- The event wakes `p` if it is what `p` waits for, and leaves it asleep if not. -/
structure WokenInTime (c : Config) (m : Kernel) (e : Event) (m' : Kernel) (p : Addr) : Prop where
  exact : p ∉ m'.list .waiting_list ↔ m.Serves c p e
  goes : m.Serves c p e → p ∈ m'.list .ready_list ∨ m'.store.running = some p

section
variable {c : Config} {m m' : Kernel} {k k' : Scene} {e : Event} {p q r : Addr} {num : Int} {args : Nat → Int}

theorem Kernel.Serves.called (serves : m.Serves c p (.syscall num args)) :
    num ∈ [DSOS_CALL_PREEMPT, DSOS_CALL_EXIT, DSOS_CALL_READ_MQ, DSOS_CALL_WRITE_MQ] := by
  cases serves <;> simp

theorem Schedule.releases (inv : Coherent c (some r) none k) (waits : p ∈ k.seq .waiting_list)
    (schedules : Schedule r k (.done () k')) : p ∉ k'.seq .waiting_list ↔
      ∃ t ∈ k.seq .timer_list, (k.store.timer_item t).pcb = some p ∧
        (k.store.timer_item t).awakening_time ≤ k.store.disastrOS_time := by
  have woken {j : Scene} (wakes : Wakes k j) : p ∉ j.seq .waiting_list ↔
      ∃ t ∈ k.seq .timer_list, (k.store.timer_item t).pcb = some p ∧
        (k.store.timer_item t).awakening_time ≤ k.store.disastrOS_time := by
    obtain ⟨ts, roused, -⟩ := wakes.roused inv
    obtain ⟨pcb, store, -⟩ := roused.store
    rw [roused.slept]
    constructor
    · intro gone
      have rouses : p ∈ k.sleepers ts := by
        by_contra asleep
        exact gone (List.mem_filter.mpr ⟨waits, by simpa using asleep⟩)
      obtain ⟨t, there, owner⟩ := List.mem_filterMap.mp rouses
      refine ⟨t, ?_, owner, roused.due t there⟩
      rw [roused.timers]
      exact List.mem_append_left _ there
    · intro elapsed still
      obtain ⟨t, there, owner, due⟩ := elapsed
      have asleep : p ∉ k.sleepers ts := by simpa using (List.mem_filter.mp still).2
      have sorted := inv.timers.sorted
      rw [roused.timers] at there sorted
      rcases List.mem_append.mp there with before | left
      · exact asleep (List.mem_filterMap.mpr ⟨t, before, owner⟩)
      · -- the timers are sorted, so the first one that is left would be due as well
        cases timers : j.seq .timer_list with
        | nil =>
          rw [timers] at left
          cases left
        | cons first rest =>
          have late := wakes.2 first (by rw [timers]; rfl)
          have ordered := (List.pairwise_append.mp sorted).2.1
          rw [timers] at left ordered
          rw [store] at late
          change k.store.disastrOS_time < (k.store.timer_item first).awakening_time at late
          rcases List.mem_cons.mp left with rfl | later
          · omega
          · have := (List.pairwise_cons.mp ordered).1 t later
            omega
  cases schedules with
  | alone wakes idle => exact woken wakes
  | rotates wakes ready =>
    rw [← woken wakes]
    simp [Scene.rotate]

theorem handler_sleeps_on {H : Addr → Scene → Ending → Prop} (shows : Shows c m k) (shows' : Shows c m' k')
    (inv : Coherent c k.store.running none k) (runs : k.store.running = some r) (handler : Handles c num = some H)
    (other : num ∉ [DSOS_CALL_PREEMPT, DSOS_CALL_EXIT, DSOS_CALL_READ_MQ, DSOS_CALL_WRITE_MQ])
    (waits : p ∈ k.seq .waiting_list) (ends : H r (k.enter r num args) (.done () k')) : p ∈ k'.seq .waiting_list := by
  by_cases sleeps : num = DSOS_CALL_WAIT ∨ num = DSOS_CALL_SLEEP
  · rcases sleeps with rfl | rfl
    · cases handler
      cases ends with
      | childless none => exact waits
      | reaps found child zombie => simpa [Scene.reap] using waits
      | blocks found child alive ready => simp [Scene.block, Scene.dispatch, waits]
    · cases handler
      cases ends with
      | refused full => exact waits
      | dozes timer time ready => simp [Scene.block, Scene.dispatch, Scene.startTimer, waits]
      | allSleep timer time idle => simp [Scene.block, Scene.startTimer, waits]
  · have same : m'.list .waiting_list = m.list .waiting_list := by
      refine (handler_stays shows shows' inv runs handler ends).lists .waiting_list (fun here => ?_) (by rintro o ⟨⟩)
      simp only [CallLists, List.mem_cons, List.not_mem_nil, or_false] at here other
      tauto
    rw [shows'.list, shows.list] at same
    rwa [same]

theorem Reparents.awaits_iff {i : Addr} {j : Scene} (shows : Shows c m k) (inv : Coherent c k.store.running none k)
    (runs : k.store.running = some r) (init : k.store.init_pcb = some i)
    (reparents : Reparents r i (k.enter r DSOS_CALL_EXIT args) j) (parent : (m.store.pcb r).parent = some q) :
    (j.bury r q).AwaitsDeath q ((k.enter r DSOS_CALL_EXIT args).store.pcb r).pid ↔ WaitingParent m r q := by
  have entered := inv.entered runs DSOS_CALL_EXIT args
  have frame := (reparents.coherent entered init).2
  have pid : ((k.enter r DSOS_CALL_EXIT args).store.pcb r).pid = (k.store.pcb r).pid := by simp [Scene.enter]
  rw [WaitingParent, and_iff_right parent, shows.store]
  constructor
  · intro awaits
    have asked := AwaitsDeath.before frame (by simp) awaits
    exact AwaitsDeath.of_enter (runs ▸ inv) (pid ▸ asked)
  · intro awaits
    have differs : q ≠ r := by
      rintro rfl
      cases (inv.processes.not_waiting runs).symm.trans (inv.processes.waits awaits.1)
    refine AwaitsDeath.after frame (by simp) differs ?_
    simpa [Scene.AwaitsDeath, Scene.enter, differs] using awaits

theorem Exit.releases (shows : Shows c m k) (inv : Coherent c k.store.running none k) (runs : k.store.running = some r)
    (waits : p ∈ k.seq .waiting_list) (ends : Exit r (k.enter r DSOS_CALL_EXIT args) (.done () k')) :
    (p ∉ k'.seq .waiting_list ↔ WaitingParent m r p) ∧ (WaitingParent m r p → k'.store.running = some p) := by
  have entered := inv.entered runs DSOS_CALL_EXIT args
  have named {q : Addr} (parent : ((k.enter r DSOS_CALL_EXIT args).store.pcb r).parent = some q) :
      (m.store.pcb r).parent = some q := by
    rw [shows.store]
    simpa [Scene.enter] using parent
  cases ends with
  | @buried i q n j init reparents parent unawaited ready =>
    have init : k.store.init_pcb = some i := init
    have unasked : ¬ WaitingParent m r p := by
      intro asks
      cases (named parent).symm.trans asks.1
      exact unawaited ((reparents.awaits_iff shows inv runs init (named parent)).mpr asks)
    have same : j.seq .waiting_list = k.seq .waiting_list := (reparents.coherent entered init).2.seq (by simp [Head.kind])
    refine ⟨iff_of_false ?_ unasked, fun asks => absurd asks unasked⟩
    simp [Scene.dispatch, Scene.bury, same, waits]
  | @resumes i q e j j' init reparents parent awaited entry drops closed =>
    have init : k.store.init_pcb = some i := init
    have asks := (reparents.awaits_iff shows inv runs init (named parent)).mp awaited
    -- an exit has one parent, so one process at most waits for it
    have asked : WaitingParent m r p ↔ p = q := by
      constructor
      · intro asks'
        exact Option.some.inj (asks'.1.symm.trans (named parent))
      · rintro rfl
        exact asks
    have resumption := reparents.resumption entered init parent awaited entry
    have frame := (drops_frame resumption.resumed drops).1
    have same : j.seq .waiting_list = k.seq .waiting_list := (reparents.coherent entered init).2.seq (by simp [Head.kind])
    have left : j'.seq .waiting_list = (k.seq .waiting_list).erase q := by
      rw [frame.seq (by simp [Head.kind]), ← same]
      simp [Scene.resumeParent, Scene.bury]
    refine ⟨?_, fun asks' => ?_⟩
    · rw [asked]
      simp [Scene.vanish, left, (inv.sound.nodup .waiting_list).mem_erase_iff, waits]
    · rw [asked] at asks'
      rw [asks']
      rfl

theorem Kernel.Serves.taken (serves : m.Serves c p (.syscall DSOS_CALL_READ_MQ args)) :
    ∃ q x, ReadsFrom m q args x ∧ p ∈ m.waiters (.waiting_to_write q) := by
  cases serves with
  | read reads waits => exact ⟨_, _, reads, waits⟩

theorem Kernel.Serves.given (serves : m.Serves c p (.syscall DSOS_CALL_WRITE_MQ args)) :
    ∃ q, WritesTo c m q args ∧ p ∈ m.waiters (.waiting_to_read q) := by
  cases serves with
  | write writes waits => exact ⟨_, writes, waits⟩

theorem WakesAll.releases {waiting : Head} (woken : WakesAll m m' waiting) (waits : p ∈ m.list .waiting_list) :
    (p ∉ m'.list .waiting_list ↔ p ∈ m.waiters waiting) ∧ (p ∈ m.waiters waiting → p ∈ m'.list .ready_list) := by
  rw [woken.slept, woken.ready]
  exact ⟨by simp [waits], List.mem_append_right _⟩

theorem Suspend.sleeps_on {waiting : Addr → Head} {mq : Pointer} (which : WaitsIn waiting num)
    (waits : p ∈ k.seq .waiting_list) (ends : Suspend r mq waiting k (.done () k')) : p ∈ k'.seq .waiting_list := by
  cases ends
  cases which <;> simp [Scene.enqueue, Scene.block, Scene.dispatch, waits]

theorem Reacts.read_releases (shows : Shows c m k) (shows' : Shows c m' k') (inv : Coherent c k.store.running none k)
    (waits : p ∈ m.list .waiting_list) (reacts : Reacts c k (.syscall DSOS_CALL_READ_MQ args) (.done () k')) :
    WokenInTime c m (.syscall DSOS_CALL_READ_MQ args) m' p := by
  obtain ⟨r, runs⟩ := reacts.runs
  have name : (k.enter r DSOS_CALL_READ_MQ args).queue ((k.enter r DSOS_CALL_READ_MQ args).intArg r 0) =
      m.queue (int32 (args 0)) := by
    rw [queue_enter (by decide), shows.queue]
  have size : (k.enter r DSOS_CALL_READ_MQ args).intArg r 2 = int32 (args 2) := intArg_enter (by decide)
  have buffer : (k.enter r DSOS_CALL_READ_MQ args).arg r 1 = args 1 := arg_enter (by decide)
  have handler : Handles c DSOS_CALL_READ_MQ = some Read := rfl
  have asleep : p ∈ (k.enter r DSOS_CALL_READ_MQ args).seq .waiting_list := shows.list _ ▸ waits
  have sleeps_on (unread : ∀ q x, ¬ ReadsFrom m q args x) (still : p ∈ k'.seq .waiting_list) :
      WokenInTime c m (.syscall DSOS_CALL_READ_MQ args) m' p := by
    have unserved : ¬ m.Serves c p (.syscall DSOS_CALL_READ_MQ args) := by
      intro serves
      obtain ⟨q, x, reads, -⟩ := serves.taken
      exact unread q x reads
    refine ⟨iff_of_false (fun gone => gone ?_) unserved, fun serves => absurd serves unserved⟩
    rw [shows'.list]
    exact still
  cases reacts.handler_ends handler runs with
  | waits empty suspends =>
    refine sleeps_on (fun q x reads => ?_) (suspends.sleeps_on .read asleep)
    obtain ⟨found, first, -⟩ := reads
    have none_left : k.seq (.messages q) = [] := empty q (name.trans found)
    rw [shows.list, none_left] at first
    cases first
  -- a message that is too long stays, and so does every writer
  | @short q' x' found' first' long =>
    refine sleeps_on (fun q x reads => ?_) asleep
    obtain ⟨found, first, fits⟩ := reads
    cases (name.trans found).symm.trans found'
    rw [shows.list] at first
    rw [shows.store] at fits
    cases Option.mem_unique first first'
    rw [size] at long
    exact absurd long (not_lt.mpr fits)
  | @takes q x j found first fits wakes user =>
    rw [name] at found
    rw [size] at fits
    rw [buffer] at shows'
    have reads : ReadsFrom m q args x := ⟨found, shows.list _ ▸ first, shows.store ▸ fits⟩
    obtain ⟨released, ready⟩ := (shows.took inv runs first wakes shows').woken.releases waits
    -- the queue of the call is unique, so being served means waiting to write to it
    have serves : m.Serves c p (.syscall DSOS_CALL_READ_MQ args) ↔ p ∈ m.waiters (.waiting_to_write q) := by
      constructor
      · intro serves
        obtain ⟨q', x', reads', there⟩ := serves.taken
        cases found.symm.trans reads'.1
        exact there
      · exact fun there => .read reads there
    exact ⟨released.trans serves.symm, fun served => .inl (ready (serves.mp served))⟩

theorem Reacts.write_releases (shows : Shows c m k) (shows' : Shows c m' k') (inv : Coherent c k.store.running none k)
    (waits : p ∈ m.list .waiting_list) (reacts : Reacts c k (.syscall DSOS_CALL_WRITE_MQ args) (.done () k')) :
    WokenInTime c m (.syscall DSOS_CALL_WRITE_MQ args) m' p := by
  obtain ⟨r, runs⟩ := reacts.runs
  have name : (k.enter r DSOS_CALL_WRITE_MQ args).queue ((k.enter r DSOS_CALL_WRITE_MQ args).intArg r 0) =
      m.queue (int32 (args 0)) := by
    rw [queue_enter (by decide), shows.queue]
  have size : (k.enter r DSOS_CALL_WRITE_MQ args).intArg r 2 = int32 (args 2) := intArg_enter (by decide)
  have buffer : (k.enter r DSOS_CALL_WRITE_MQ args).arg r 1 = args 1 := arg_enter (by decide)
  have handler : Handles c DSOS_CALL_WRITE_MQ = some (Write c) := rfl
  have asleep : p ∈ (k.enter r DSOS_CALL_WRITE_MQ args).seq .waiting_list := shows.list _ ▸ waits
  have sleeps_on (unwritten : ∀ q, ¬ WritesTo c m q args) (still : p ∈ k'.seq .waiting_list) :
      WokenInTime c m (.syscall DSOS_CALL_WRITE_MQ args) m' p := by
    have unserved : ¬ m.Serves c p (.syscall DSOS_CALL_WRITE_MQ args) := by
      intro serves
      obtain ⟨q, writes, -⟩ := serves.given
      exact unwritten q writes
    refine ⟨iff_of_false (fun gone => gone ?_) unserved, fun serves => absurd serves unserved⟩
    rw [shows'.list]
    exact still
  cases reacts.handler_ends handler runs with
  | tooLong long =>
    refine sleeps_on (fun q writes => ?_) asleep
    rw [size] at long
    exact absurd long (not_lt.mpr writes.2.1)
  | unknown fits absent =>
    refine sleeps_on (fun q writes => ?_) asleep
    cases (name.symm.trans absent).symm.trans writes.1
  | @waits q' _ fits found full suspends =>
    refine sleeps_on (fun q writes => ?_) (suspends.sleeps_on .write asleep)
    cases (name.symm.trans found).symm.trans writes.1
    have room := writes.2.2
    rw [shows.store] at room
    exact room full
  | @writes q x j fits found room block user wakes =>
    rw [name] at found
    rw [size] at fits shows'
    rw [size, buffer] at wakes
    have writes : WritesTo c m q args := ⟨found, fits, shows.store ▸ room⟩
    obtain ⟨released, ready⟩ := (shows.wrote inv runs block fits wakes shows').woken.releases waits
    -- the queue of the call is unique, so being served means waiting to read from it
    have serves : m.Serves c p (.syscall DSOS_CALL_WRITE_MQ args) ↔ p ∈ m.waiters (.waiting_to_read q) := by
      constructor
      · intro serves
        obtain ⟨q', writes', there⟩ := serves.given
        cases found.symm.trans writes'.1
        exact there
      · exact fun there => .write writes there
    exact ⟨released.trans serves.symm, fun served => .inl (ready (serves.mp served))⟩

theorem Shows.serves_tick (shows : Shows c m k) : m.Serves c p .tick ↔
    ∃ t ∈ k.seq .timer_list, (k.store.timer_item t).pcb = some p ∧
      (k.store.timer_item t).awakening_time ≤ int32 (k.store.disastrOS_time + 1) := by
  rw [← shows.list, ← shows.store]
  constructor
  · intro serves
    cases serves with
    | tick timer owner due => exact ⟨_, timer, owner, due⟩
  · rintro ⟨t, timer, owner, due⟩
    exact .tick timer owner due

theorem Shows.serves_preempt (shows : Shows c m k) : m.Serves c p (.syscall DSOS_CALL_PREEMPT args) ↔
    ∃ t ∈ k.seq .timer_list, (k.store.timer_item t).pcb = some p ∧
      (k.store.timer_item t).awakening_time ≤ k.store.disastrOS_time := by
  rw [← shows.list, ← shows.store]
  constructor
  · intro serves
    cases serves with
    | preempt timer owner due => exact ⟨_, timer, owner, due⟩
  · rintro ⟨t, timer, owner, due⟩
    exact .preempt timer owner due

theorem Schedule.wakes_in_time {j : Scene} (shows' : Shows c m' k') (inv : Coherent c (some r) none j)
    (waits : p ∈ j.seq .waiting_list) (schedules : Schedule r j (.done () k'))
    (serves : m.Serves c p e ↔ ∃ t ∈ j.seq .timer_list, (j.store.timer_item t).pcb = some p ∧
      (j.store.timer_item t).awakening_time ≤ j.store.disastrOS_time) : WokenInTime c m e m' p := by
  have released := (schedules.releases inv waits).trans serves.symm
  rw [← shows'.list] at released
  refine ⟨released, fun served => ?_⟩
  rcases schedules.rouses inv (inv.sound.mem_seq.mp waits) with asleep | awake
  · rw [← shows'.list] at asleep
    exact absurd asleep (released.mpr served)
  · rwa [shows'.list, shows'.store]

theorem Reacts.wakes_in_time (shows : Shows c m k) (shows' : Shows c m' k') (inv : Coherent c k.store.running none k)
    (waits : p ∈ m.list .waiting_list) (reacts : Reacts c k e (.done () k')) : WokenInTime c m e m' p := by
  have asleep : p ∈ k.seq .waiting_list := shows.list _ ▸ waits
  have sleeps_on (unserved : ¬ m.Serves c p e) (still : p ∈ k'.seq .waiting_list) : WokenInTime c m e m' p := by
    refine ⟨iff_of_false (fun gone => gone ?_) unserved, fun serves => absurd serves unserved⟩
    rw [shows'.list]
    exact still
  cases e with
  | user memory =>
    cases reacts
    exact sleeps_on (fun serves => by cases serves) asleep
  | tick =>
    cases reacts with
    | @tick r _ runs schedules =>
      have ticked : Coherent c (some r) none (k.tick r) := (runs ▸ inv).moved (.tick rfl)
      exact schedules.wakes_in_time shows' ticked asleep shows.serves_tick
  | proceed =>
    refine sleeps_on (fun serves => by cases serves) ?_
    cases reacts with
    | proceeds leaves =>
      cases leaves with
      | resumes running set => exact asleep
      | restarts idle pcb unspent => simpa [Scene.restart] using asleep
  | syscall num args =>
    obtain ⟨r, runs⟩ := reacts.runs
    -- four calls may wake somebody, the others leave `waiting_list` as it is or join it
    by_cases called : num ∈ [DSOS_CALL_PREEMPT, DSOS_CALL_EXIT, DSOS_CALL_READ_MQ, DSOS_CALL_WRITE_MQ]
    · simp only [List.mem_cons, List.not_mem_nil, or_false] at called
      rcases called with rfl | rfl | rfl | rfl
      · have handler : Handles c DSOS_CALL_PREEMPT = some Schedule := rfl
        have schedules : Schedule r (k.enter r DSOS_CALL_PREEMPT args) (.done () k') := reacts.handler_ends handler runs
        exact schedules.wakes_in_time shows' (inv.entered runs _ args) asleep shows.serves_preempt
      · have handler : Handles c DSOS_CALL_EXIT = some Exit := rfl
        have ends : Exit r (k.enter r DSOS_CALL_EXIT args) (.done () k') := reacts.handler_ends handler runs
        obtain ⟨released, next⟩ := ends.releases shows inv runs asleep
        have serves : m.Serves c p (.syscall DSOS_CALL_EXIT args) ↔ WaitingParent m r p := by
          constructor
          · intro serves
            cases serves with
            | exit runs' parent =>
              rw [shows.store] at runs'
              cases runs.symm.trans runs'
              exact parent
          · exact fun parent => .exit (shows.store ▸ runs) parent
        rw [← shows'.list] at released
        rw [← shows'.store] at next
        exact ⟨released.trans serves.symm, fun served => .inr (next (serves.mp served))⟩
      · exact reacts.read_releases shows shows' inv waits
      · exact reacts.write_releases shows shows' inv waits
    · refine sleeps_on (fun serves => called serves.called) ?_
      cases reacts with
      | outOfRange running range => exact asleep
      | unknown running range absent => exact asleep
      | handled running handler ends logged =>
        exact handler_sleeps_on shows shows' inv running handler called asleep ends

theorem Kernel.Serves.suspended (serves : m.Serves c p e) (shows : Shows c m k)
    (inv : Coherent c k.store.running none k) : p ∈ m.list .waiting_list := by
  have sleeps {t : Addr} (timer : t ∈ m.list .timer_list) (owner : (m.store.timer_item t).pcb = some p) :
      p ∈ m.list .waiting_list := by
    rw [shows.mem_list] at timer ⊢
    rw [shows.store] at owner
    obtain ⟨p', names, asleep⟩ := inv.timers.owner timer
    cases owner.symm.trans names
    exact asleep.1
  have waits {waiting : Addr → Head} {num : Int} {q : Addr} (which : WaitsIn waiting num)
      (there : p ∈ m.waiters (waiting q)) : p ∈ m.list .waiting_list := by
    obtain ⟨w, linked, names⟩ := List.mem_filterMap.mp there
    rw [shows.mem_list] at linked ⊢
    rw [shows.store] at names
    obtain ⟨p', names', asleep, -⟩ := inv.waiters.waiter which linked
    cases names.symm.trans names'
    exact asleep.1
  cases serves with
  | tick timer owner due | preempt timer owner due => exact sleeps timer owner
  | write writes there => exact waits .read there
  | read reads there => exact waits .write there
  | exit runs parent =>
    rw [shows.mem_list]
    apply inv.processes.waits
    rw [Scene.status, ← shows.store]
    exact parent.2.1

end

section
variable {c : Constants} {m m' : Kernel} {e : Event} {p : Addr}

theorem Reachable.wakes_in_time (reach : Reachable c.toConfig m) (waits : p ∈ m.list .waiting_list)
    (step : Step c.toConfig m e m') : WokenInTime c.toConfig m e m' p := by
  obtain ⟨k, shows, inv, -⟩ := reach.shows
  obtain ⟨k', shows', reacts⟩ := step.reacts shows inv
  exact reacts.wakes_in_time shows shows' inv waits

theorem Reachable.unserved (reach : Reachable c.toConfig m) (ready : p ∈ m.list .ready_list) :
    ¬ m.Serves c.toConfig p e := by
  intro serves
  obtain ⟨k, shows, inv, -⟩ := reach.shows
  have waits := serves.suspended shows inv
  rw [shows.mem_list] at ready waits
  cases ready.symm.trans waits

end

/-- A suspended process leaves `waiting_list` at the first event that it waits for, and at no other. -/
theorem woken_in_time (c : Constants) {m m' : Kernel} {e : Event} {p : Addr} (reach : Reachable c.toConfig m)
    (waits : p ∈ m.list .waiting_list) (step : Step c.toConfig m e m') : WokenInTime c.toConfig m e m' p :=
  reach.wakes_in_time waits step

/-- A run in which `p` stays in the list `h`, does not run, and is not served. -/
def RestsIn (c : Config) (p : Addr) (h : Head) : Kernel → List Event → Kernel → Prop :=
  RunWhile (fun m e m' => Step c m e m' ∧ ¬ m.Serves c p e) fun m => m.store.running ≠ some p ∧ p ∈ m.list h

/-- The run is one in which `p` still waits, or has been woken by what it waited for: since then it is
ready, and the schedules are fewer than the processes there can be. -/
inductive WaitsOrIsServed (c : Constants) (p : Addr) (m : Kernel) : List Event → Kernel → Prop where
  | waits {es : List Event} {m' : Kernel} (run : RestsIn c.toConfig p .waiting_list m es m') :
      WaitsOrIsServed c p m es m'
  | served {before after : List Event} {e : Event} {m₁ m₂ m' : Kernel}
      (run : RestsIn c.toConfig p .waiting_list m before m₁) (step : Step c.toConfig m₁ e m₂)
      (serves : m₁.Serves c.toConfig p e) (ready : RestsIn c.toConfig p .ready_list m₂ after m')
      (soon : after.countP (fun e => e.Schedules) < c.num_items .pcb) :
      WaitsOrIsServed c p m (before ++ e :: after) m'

section
variable {c : Constants} {m m' : Kernel} {es : List Event} {p : Addr}

theorem rests_waiting (reach : Reachable c.toConfig m)
    (run : RunWhile (Step c.toConfig) (fun m => m.store.running ≠ some p ∧ p ∈ m.list .waiting_list) m es m') :
    Reachable c.toConfig m' ∧ RestsIn c.toConfig p .waiting_list m es m' := by
  refine run.refine (I := Reachable c.toConfig) (fun waits holds step still => ?_) (fun waits _ => waits) reach
  exact ⟨holds.step step, step, fun serves => (holds.wakes_in_time waits.2 step).exact.mpr serves still.2⟩

theorem rests_ready (reach : Reachable c.toConfig m) (ready : p ∈ m.list .ready_list)
    (run : RunWithout c.toConfig p m es m') : RestsIn c.toConfig p .ready_list m es m' := by
  refine (run.refine (I := fun m => Reachable c.toConfig m ∧ p ∈ m.list .ready_list)
    (fun _ holds step idle => ?_) (fun idle holds => ⟨idle, holds.2⟩) ⟨reach, ready⟩).2
  exact ⟨⟨holds.1.step step, (step.turns holds.1 holds.2 idle).1⟩, step, holds.1.unserved holds.2⟩

end

/-- Who waits is not passed over: once what it waits for has happened, it runs after fewer
schedules than there can be processes, whatever the others do. -/
theorem served_in_time (c : Constants) {m m' : Kernel} {p : Addr} {es : List Event} (reach : Reachable c.toConfig m)
    (waits : p ∈ m.list .waiting_list) (run : RunWithout c.toConfig p m es m') : WaitsOrIsServed c p m es m' := by
  rcases run.splits (I := fun m => p ∈ m.list .waiting_list) waits with
    still | ⟨before, e, after, m₁, m₂, rfl, first, step, gone, rest⟩
  · exact .waits (rests_waiting reach still).2
  · obtain ⟨reach₁, rests⟩ := rests_waiting reach first
    have woken := reach₁.wakes_in_time first.ends.2 step
    have serves := woken.exact.mp gone
    have ready : p ∈ m₂.list .ready_list := (woken.goes serves).resolve_right rest.starts
    have few := (reach₁.step step).turns_lt ready
    have bound := (RunWithout.turns rest (reach₁.step step) ready).2
    exact .served rests step serves (rests_ready (reach₁.step step) ready rest) (by omega)

def WriteServesReader (m : Kernel) : Prop :=
  ((trial_from constants.toConfig always [.syscall DSOS_CALL_WRITE_MQ (arguments [5, 100, 3])] m).any fun m' =>
    block .pcb 0 ∈ m'.list .ready_list ∧ m'.store.running = some (block .pcb 1)) = true

instance (m : Kernel) : Decidable (WriteServesReader m) := inferInstanceAs (Decidable (_ = true))

def reader_served : Observed always fun m => block .pcb 0 ∈ m.list .waiting_list ∧
    m.store.running = some (block .pcb 1) ∧ WriteServesReader m :=
  observe always [.syscall DSOS_CALL_OPEN_MQ (arguments [5, 1]), .syscall DSOS_CALL_SPAWN (arguments [1, 2]),
    .syscall DSOS_CALL_READ_MQ (arguments [5, 300, 64])] (by decide +kernel)

theorem woken_in_time_reader : ∃ m e m', Reachable constants.toConfig m ∧ Step constants.toConfig m e m' ∧
    block .pcb 0 ∈ m.list .waiting_list ∧ m.Serves constants.toConfig (block .pcb 0) e := by
  obtain ⟨m, reached, waits, runs, next⟩ := reader_served
  obtain ⟨m', step, ready, -⟩ := trial_step next
  have woken := woken_in_time constants reached.reachable waits step
  obtain ⟨k, shows, inv, -⟩ := (reached.reachable.step step).shows
  refine ⟨m, _, m', reached.reachable, step, waits, woken.exact.mp fun asleep => ?_⟩
  rw [shows.mem_list] at ready asleep
  cases ready.symm.trans asleep

/-- It is ready then, and not yet running. -/
theorem served_in_time_reader : ∃ m e m', Reachable constants.toConfig m ∧
    RunWithout constants.toConfig (block .pcb 0) m [e] m' ∧ WaitsOrIsServed constants (block .pcb 0) m [e] m' := by
  obtain ⟨m, reached, waits, runs, next⟩ := reader_served
  obtain ⟨m', step, -, runs'⟩ := trial_step next
  have run : RunWithout constants.toConfig (block .pcb 0) m [.syscall DSOS_CALL_WRITE_MQ (arguments [5, 100, 3])] m' := by
    refine .single ?_ step ?_
    · rw [runs]
      decide
    · rw [runs']
      decide
  exact ⟨m, _, m', reached.reachable, run, served_in_time constants reached.reachable waits run⟩

end DisastrOS
