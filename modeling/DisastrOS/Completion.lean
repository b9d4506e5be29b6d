import DisastrOS.Fifo
import DisastrOS.Progress

/-! What a call of read or write has done when it returns to its caller.

A process that is suspended is woken with the answer -20, and its call has done
nothing. While nobody is woken, a call returns exactly when it has passed a message.
-/

set_option autoImplicit false

namespace DisastrOS

open Refinement
open Relation (ReflTransGen)

namespace Transition

/-- A call of the handler `num` on the queue `q`. -/
def Calls (t : Transition) (num : Int) (q : Addr) : Prop :=
  match t.event with
  | .syscall n args => n = num ∧ t.before.queue (int32 (args 0)) = some q
  | _ => False

instance (t : Transition) (num : Int) (q : Addr) : Decidable (t.Calls num q) :=
  match t with
  | ⟨_, .syscall _ _, _⟩ => inferInstanceAs (Decidable (_ ∧ _))
  | ⟨_, .user _, _⟩ => inferInstanceAs (Decidable False)
  | ⟨_, .tick, _⟩ => inferInstanceAs (Decidable False)
  | ⟨_, .proceed, _⟩ => inferInstanceAs (Decidable False)

/-- A `write` has a length from 0 to `MAX_LEN_MESSAGE`, and a `read` a buffer for every message. -/
def Proper (c : Config) (t : Transition) : Prop :=
  ∀ args, (t.event = .syscall DSOS_CALL_WRITE_MQ args → 0 ≤ int32 (args 2) ∧ int32 (args 2) ≤ c.MAX_LEN_MESSAGE) ∧
    (t.event = .syscall DSOS_CALL_READ_MQ args → c.MAX_LEN_MESSAGE ≤ int32 (args 2))

/-- The caller runs again after the step, or after one of the later ones. -/
def Returns (t : Transition) (later : List Transition) : Prop :=
  ∃ v ∈ t :: later, v.after.store.running = t.before.store.running

instance (t : Transition) (later : List Transition) : Decidable (t.Returns later) :=
  inferInstanceAs (Decidable (∃ v ∈ t :: later, v.after.store.running = t.before.store.running))

/-- The step wakes nobody who is suspended on `q`. -/
def WakesNobody (c : Config) (t : Transition) (q : Addr) : Prop :=
  ∀ args,
    (∀ x, t.event = .syscall DSOS_CALL_READ_MQ args → ReadsFrom t.before q args x →
      t.before.list (.waiting_to_write q) = []) ∧
    (t.event = .syscall DSOS_CALL_WRITE_MQ args → WritesTo c t.before q args →
      t.before.list (.waiting_to_read q) = [])

end Transition

/-- The calls on `q` that have returned. -/
def returned (num : Int) (q : Addr) : List Transition → Nat
  | [] => 0
  | t :: later => (if t.Calls num q ∧ t.Returns later then 1 else 0) + returned num q later

/-- Every call on `q` that has returned has had its effect, and no other call has. -/
structure CompletesOnce (c : Config) (q : Addr) (past : List Transition) (m : Kernel) : Prop where
  writes : ∀ earlier t later, past = earlier ++ t :: later → t.Calls DSOS_CALL_WRITE_MQ q → t.Proper c →
    (t.Returns later ↔ (t.given c q).isSome)
  reads : ∀ earlier t later, past = earlier ++ t :: later → t.Calls DSOS_CALL_READ_MQ q → t.Proper c →
    (t.Returns later ↔ (t.taken q).isSome)
  count : (∀ t ∈ past, t.Calls DSOS_CALL_WRITE_MQ q ∨ t.Calls DSOS_CALL_READ_MQ q → t.Proper c) →
    returned DSOS_CALL_WRITE_MQ q past = returned DSOS_CALL_READ_MQ q past + (m.list (.messages q)).length

def Kernel.Attends (m : Kernel) (waiting : Addr → Head) (q p : Addr) : Prop :=
  ∃ w ∈ m.list (waiting q), m.store.pcb_ptr w = some p

/-- The step passes a message through `q`. -/
def Transition.Passed (c : Config) (t : Transition) (q : Addr) : Prop :=
  (t.given c q).isSome ∨ (t.taken q).isSome

section
variable {c : Config} {m m' : Kernel} {k k' k'' : Scene} {h : Head} {q r : Addr} {waiting : Addr → Head} {num : Int}
  {args : Nat → Int} {e : Event}

def Scene.Lasts (h : Head) (k k' : Scene) : Prop :=
  ∀ w ∈ k.seq h, w ∈ k'.seq h ∧ k'.store.pcb_ptr w = k.store.pcb_ptr w

namespace Scene.Lasts

theorem of_same (seq : k'.seq h = k.seq h) (names : k'.store.pcb_ptr = k.store.pcb_ptr) : Lasts h k k' := by
  intro w there
  rw [seq, names]
  exact ⟨there, rfl⟩

theorem trans (first : Lasts h k k') (second : Lasts h k' k'') : Lasts h k k'' := by
  intro w there
  obtain ⟨there', names⟩ := first w there
  obtain ⟨there'', names'⟩ := second w there'
  exact ⟨there'', names'.trans names⟩

theorem rounds {R : Scene → Scene → Prop} (round : ∀ k k', R k k' → Lasts h k k') (runs : ReflTransGen R k k') :
    Lasts h k k' := by
  induction runs with
  | refl => exact .of_same rfl rfl
  | tail _ last ih => exact ih.trans (round _ _ last)

end Scene.Lasts

open Scene (Lasts)

theorem Schedule.lasts (which : WaitsIn waiting num) (ends : Schedule r k (.done () k')) : Lasts (waiting q) k k' := by
  have wakes {j : Scene} (wakes : Wakes k j) : Lasts (waiting q) k j := by
    obtain ⟨⟨prev, rounds⟩, -⟩ := wakes
    generalize start : (k, (none : Pointer)) = a at rounds
    generalize finish : (j, prev) = b at rounds
    induction rounds generalizing j prev with
    | refl =>
      cases start
      cases finish
      exact .of_same rfl rfl
    | @tail b' _ _ round ih =>
      cases round with
      | @wake k₁ prev₁ t p =>
        cases finish
        refine (ih prev₁ rfl).trans (.of_same ?_ rfl)
        cases which <;> simp [Scene.wakeSleeper]
  cases ends with
  | alone woken idle => exact wakes woken
  | rotates woken ready =>
    refine (wakes woken).trans (.of_same ?_ rfl)
    cases which <;> simp [Scene.rotate]

theorem NewChild.lasts {finish : Addr → Scene → Scene} (same : ∀ p k, (finish p k).seq = k.seq ∧
    (finish p k).store.pcb_ptr = k.store.pcb_ptr) {runner gone : Pointer} (inv : Coherent c runner gone k)
    (which : WaitsIn waiting num) (ends : NewChild finish r k (.done () k')) : Lasts (waiting q) k k' := by
  cases ends with
  | child pcb unspent ptr =>
    intro w there
    rw [(same _ _).1, (same _ _).2]
    have other := inv.sound.ne_top ptr (inv.sound.mem_seq.mp there)
    cases which <;> simpa [Scene.newChild, other] using there

theorem Exit.lasts (which : WaitsIn waiting num) (ends : Exit r k (.done () k')) : Lasts (waiting q) k k' := by
  have reparents {i : Addr} {j : Scene} (reparents : Reparents r i k j) : Lasts (waiting q) k j := by
    have stored : Lasts (waiting q) k (k.setPCB r fun p => { p with return_value := int32 (p.syscall_args 0) }) :=
      .of_same rfl rfl
    refine stored.trans (.rounds (fun _ _ round => ?_) reparents.1)
    obtain ⟨first, child⟩ := round
    refine .of_same ?_ rfl
    cases which <;> simp [Scene.reparent]
  cases ends with
  | buried init given parent unawaited ready =>
    refine (reparents given).trans (.of_same ?_ rfl)
    cases which <;> simp [Scene.bury, Scene.dispatch]
  | @resumes i p e j j' init given parent awaited entry drops closed =>
    have resumed : Lasts (waiting q) j ((j.bury r p).resumeParent r p e) := by
      refine .of_same ?_ (by simp [Scene.bury, Scene.resumeParent])
      cases which <;> simp [Scene.bury, Scene.resumeParent]
    have dropped : Lasts (waiting q) ((j.bury r p).resumeParent r p e) j' := by
      refine .rounds (fun _ _ round => ?_) drops
      obtain ⟨first, mq, ptr⟩ := round
      refine .of_same ?_ rfl
      cases which <;> simp [Scene.dropDescriptor]
    refine (((reparents given).trans resumed).trans dropped).trans (.of_same ?_ rfl)
    cases which <;> simp [Scene.vanish]

theorem OpenDescriptor.lasts {o : Addr} {resource mq : Pointer} (which : WaitsIn waiting num)
    (ends : OpenDescriptor r o resource mq k (.done () k')) : Lasts (waiting q) k k' := by
  cases ends with
  | refused full => exact .of_same rfl rfl
  | opened des unspent ptr =>
    refine .of_same ?_ rfl
    cases which <;> simp [Scene.openDescriptor]

theorem OpenResource.lasts (which : WaitsIn waiting num) (ends : OpenResource r k (.done () k')) :
    Lasts (waiting q) k k' := by
  cases ends with
  | taken | unknown | mistyped | shared => exact .of_same rfl rfl
  | @creates x _ create absent top opens =>
    have created : Lasts (waiting q) k (k.newResource x (k.intArg r 0) (k.intArg r 1)) := by
      refine .of_same ?_ rfl
      cases which <;> simp [Scene.newResource]
    exact created.trans (opens.lasts which)
  | opens old found type free opens => exact opens.lasts which

theorem OpenMessageQueue.lasts {runner gone : Pointer} (inv : Coherent c runner gone k)
    (listed : k.place q = .linked .mq_list) (which : WaitsIn waiting num)
    (ends : OpenMessageQueue r k (.done () k')) : Lasts (waiting q) k k' := by
  cases ends with
  | taken | unknown | shared => exact .of_same rfl rfl
  | @creates q' _ create absent top opens =>
    have other : q ≠ q' := inv.sound.ne_top top listed
    have created : Lasts (waiting q) k (k.newQueue q' (k.intArg r 0)) := by
      refine .of_same ?_ rfl
      cases which <;> simp [Scene.newQueue, other]
    exact created.trans (opens.lasts which)
  | opens old found free opens => exact opens.lasts which

theorem Close.lasts {object : Pool} {kind : Descriptor → Pointer} (which : WaitsIn waiting num)
    (ends : Close object kind r k (.done () k')) : Lasts (waiting q) k k' := by
  cases ends with
  | unknown absent => exact .of_same rfl rfl
  | closed found kind ptr =>
    refine .of_same ?_ rfl
    cases which <;> simp [Scene.closeDescriptor, Scene.dropDescriptor]

theorem Suspend.lasts {waiting' : Addr → Head} {num' : Int} {mq : Pointer} {runner gone : Pointer}
    (inv : Coherent c runner gone k) (which : WaitsIn waiting num) (which' : WaitsIn waiting' num')
    (ends : Suspend r mq waiting' k (.done () k')) : Lasts (waiting q) k k' := by
  cases ends with
  | @suspended w' q' n ptr found ready =>
    intro w there
    have other := inv.sound.ne_top ptr (inv.sound.mem_seq.mp there)
    refine ⟨?_, by simp [Scene.enqueue, Scene.block, Scene.dispatch, other]⟩
    by_cases same : q = q'
    · subst same
      cases which <;> cases which' <;> simp [Scene.enqueue, Scene.block, Scene.dispatch, there]
    · cases which <;> cases which' <;> simp [Scene.enqueue, Scene.block, Scene.dispatch, same, there]

theorem Read.lasts {runner : Pointer} (inv : Coherent c runner none k) (which : WaitsIn waiting num)
    (quiet : ∀ x, k.queue (k.intArg r 0) = some q → x ∈ (k.seq (.messages q)).head? →
      (k.store.message x).length ≤ k.intArg r 2 → k.seq (.waiting_to_write q) = [])
    (ends : Read r k (.done () k')) : Lasts (waiting q) k k' := by
  cases ends with
  | waits empty suspends => exact suspends.lasts inv which .read
  | short found first long => exact .of_same rfl rfl
  | @takes q' x j found first fits wakes user =>
    have woken := wakes.woken (inv.moved (.take (inv.sound.first first)))
    have names : (j.finishRead r q' x (k.arg r 1)).store.pcb_ptr = k.store.pcb_ptr := by
      simpa [Scene.finishRead] using woken.names
    have others {h : Head} (ready : h ≠ .ready_list) (asleep : h ≠ .waiting_list) (other : h ≠ .waiting_to_write q')
        (kept : h ≠ .messages q') : (j.finishRead r q' x (k.arg r 1)).seq h = k.seq h := by
      simpa [Scene.finishRead, kept] using woken.others h other ready asleep
    cases which with
    | read => exact .of_same (others (by simp) (by simp) (by simp) (by simp)) names
    -- the only call that takes wrappers from this list, and `quiet` says that there are none
    | write =>
      by_cases same : q = q'
      · subst same
        intro w there
        rw [quiet x found first fits] at there
        cases there
      · exact .of_same (others (by simp) (by simp) (by simpa using same) (by simp)) names

theorem Write.lasts {runner : Pointer} (inv : Coherent c runner none k) (which : WaitsIn waiting num)
    (quiet : k.queue (k.intArg r 0) = some q → k.intArg r 2 ≤ c.MAX_LEN_MESSAGE →
      (k.store.mq q).num_written ≠ c.MAX_NUM_MESSAGES → k.seq (.waiting_to_read q) = [])
    (ends : Write c r k (.done () k')) : Lasts (waiting q) k k' := by
  cases ends with
  | tooLong | unknown => exact .of_same rfl rfl
  | waits fits found full suspends => exact suspends.lasts inv which .write
  | @writes q' x j fits found room block user wakes =>
    have woken := wakes.woken (inv.moved (.post (k.arg r 1) block fits))
    have names : (j.finishWrite r q' (k.intArg r 2)).store.pcb_ptr = k.store.pcb_ptr := by
      simpa [Scene.finishWrite, Scene.post] using woken.names
    have others {h : Head} (ready : h ≠ .ready_list) (asleep : h ≠ .waiting_list) (other : h ≠ .waiting_to_read q')
        (kept : h ≠ .messages q') : (j.finishWrite r q' (k.intArg r 2)).seq h = k.seq h := by
      simpa [Scene.finishWrite, Scene.post, kept] using woken.others h other ready asleep
    cases which with
    | read =>
      by_cases same : q = q'
      · subst same
        intro w there
        rw [quiet found fits room] at there
        cases there
      · exact .of_same (others (by simp) (by simp) (by simpa using same) (by simp)) names
    | write => exact .of_same (others (by simp) (by simp) (by simp) (by simp)) names

theorem handler_lasts (inv : Coherent c k.store.running none k) (listed : k.place q = .linked .mq_list)
    (which : WaitsIn waiting num) {H : Addr → Scene → Ending → Prop} {n : Int} (runs : k.store.running = some r)
    (handler : Handles c n = some H)
    (unread : ∀ x, n = DSOS_CALL_READ_MQ → k.queue (int32 (args 0)) = some q → x ∈ (k.seq (.messages q)).head? →
      (k.store.message x).length ≤ int32 (args 2) → k.seq (.waiting_to_write q) = [])
    (unwritten : n = DSOS_CALL_WRITE_MQ → k.queue (int32 (args 0)) = some q → int32 (args 2) ≤ c.MAX_LEN_MESSAGE →
      (k.store.mq q).num_written ≠ c.MAX_NUM_MESSAGES → k.seq (.waiting_to_read q) = [])
    (ends : H r (k.enter r n args) (.done () k')) : Lasts (waiting q) (k.enter r n args) k' := by
  have entered := inv.entered runs n args
  cases handler_entry handler with
  | preempt => exact Schedule.lasts which ends
  | fork => exact NewChild.lasts (fun _ _ => ⟨rfl, rfl⟩) entered which ends
  | spawn =>
    refine NewChild.lasts ?_ entered which ends
    exact fun _ _ => ⟨rfl, rfl⟩
  | wait =>
    cases ends with
    | childless none => exact .of_same rfl rfl
    | reaps found child zombie =>
      refine .of_same ?_ (by simp [Scene.reap])
      cases which <;> simp [Scene.reap]
    | blocks found child alive ready =>
      refine .of_same ?_ rfl
      cases which <;> simp [Scene.block, Scene.dispatch]
  | exit => exact Exit.lasts which ends
  | sleep =>
    cases ends with
    | refused full => exact .of_same rfl rfl
    | dozes timer time ready =>
      refine .of_same ?_ rfl
      cases which <;> simp [Scene.startTimer, Scene.block, Scene.dispatch]
    | allSleep timer time idle =>
      refine .of_same ?_ rfl
      cases which <;> simp [Scene.startTimer, Scene.block]
  | openResource => exact OpenResource.lasts which ends
  | closeResource => exact Close.lasts which ends
  | destroyResource =>
    cases ends with
    | unknown | used => exact .of_same rfl rfl
    | destroyed found closed =>
      refine .of_same ?_ rfl
      cases which <;> simp [Scene.destroy]
  -- no call of `shutdown` comes back
  | shutdown => cases ends
  | openMessageQueue => exact OpenMessageQueue.lasts entered listed which ends
  | closeMessageQueue => exact Close.lasts which ends
  | write =>
    refine Write.lasts entered which (fun found fits room => ?_) ends
    rw [queue_enter (by decide)] at found
    rw [intArg_enter (by decide)] at fits
    exact unwritten rfl found fits room
  | read =>
    refine Read.lasts entered which (fun x found first fits => ?_) ends
    rw [queue_enter (by decide)] at found
    rw [intArg_enter (by decide)] at fits
    exact unread x rfl found first fits
  | destroyMessageQueue =>
    cases ends with
    | unknown | used => exact .of_same rfl rfl
    | destroyed found closed =>
      refine .of_same ?_ rfl
      cases which <;> simp [Scene.destroy]

/-- A wrapper stays in the list of its queue through a step that wakes nobody there. -/
theorem Reacts.lasts (shows : Shows c m k) (inv : Coherent c k.store.running none k)
    (listed : k.place q = .linked .mq_list) (which : WaitsIn waiting num)
    (quiet : (⟨m, e, m'⟩ : Transition).WakesNobody c q) (reacts : Reacts c k e (.done () k')) :
    Lasts (waiting q) k k' := by
  cases reacts with
  | user memory => exact .of_same rfl rfl
  | outOfRange running range => exact .of_same rfl rfl
  | unknown running range absent => exact .of_same rfl rfl
  | @handled n args r _ H running handler ends logged =>
    have entered : Lasts (waiting q) k (k.enter r n args) := .of_same rfl rfl
    refine entered.trans (handler_lasts inv listed which running handler (fun x call found first fits => ?_)
      (fun call found fits room => ?_) ends)
    · subst call
      rw [← shows.list]
      refine (quiet args).1 x rfl ⟨?_, ?_, ?_⟩
      · rwa [shows.queue]
      · rwa [shows.list]
      · rwa [shows.store]
    · subst call
      rw [← shows.list]
      refine (quiet args).2 rfl ⟨?_, fits, ?_⟩
      · rwa [shows.queue]
      · rwa [shows.store]
  | @tick r _ running schedules =>
    have ticked : Lasts (waiting q) k (k.tick r) := .of_same rfl rfl
    exact ticked.trans (schedules.lasts which)
  | proceeds ends =>
    cases ends with
    | resumes running set => exact .of_same rfl rfl
    | restarts idle pcb unspent => exact .of_same (by cases which <;> simp [Scene.restart]) rfl

theorem Kernel.Attends.lasts {p : Addr} (attends : m.Attends waiting q p) (shows : Shows c m k) (shows' : Shows c m' k')
    (lasts : Lasts (waiting q) k k') : m'.Attends waiting q p := by
  obtain ⟨w, there, names⟩ := attends
  rw [shows.list] at there
  rw [shows.store] at names
  obtain ⟨there', same⟩ := lasts w there
  refine ⟨w, ?_, ?_⟩
  · rwa [shows'.list]
  · rw [shows'.store, same, names]

theorem Kernel.Attends.idle {p : Addr} (attends : m.Attends waiting q p) (shows : Shows c m k)
    (inv : Coherent c k.store.running none k) (which : WaitsIn waiting num) : m.store.running ≠ some p := by
  obtain ⟨w, there, names⟩ := attends
  rw [shows.list] at there
  rw [shows.store] at names ⊢
  obtain ⟨p', names', blocked, -⟩ := which.waiter inv (inv.sound.mem_seq.mp there)
  cases names.symm.trans names'
  intro runs
  cases (inv.processes.not_waiting runs).symm.trans blocked.1

theorem Suspend.attends {mq : Pointer} (shows' : Shows c m' k') (mine : mq = some q)
    (ends : Suspend r mq waiting k (.done () k')) (which : WaitsIn waiting num) : m'.Attends waiting q r := by
  cases ends with
  | @suspended w q' n ptr found ready =>
    cases mine.symm.trans found
    refine ⟨w, ?_, ?_⟩
    · rw [shows'.list]
      cases which <;> simp [Scene.enqueue, Scene.dispatch]
    · rw [shows'.store]
      simp [Scene.enqueue, Scene.dispatch]

end

namespace Transition
variable {c : Config} {t : Transition} {q : Addr}

theorem calls_of_given (given : (t.given c q).isSome) : t.Calls DSOS_CALL_WRITE_MQ q := by
  by_contra other
  rw [given_none] at given
  · cases given
  · intro args call writes
    refine other ?_
    unfold Calls
    rw [call]
    exact ⟨rfl, writes.1⟩

theorem calls_of_taken (taken : (t.taken q).isSome) : t.Calls DSOS_CALL_READ_MQ q := by
  by_contra other
  rw [taken_none] at taken
  · cases taken
  · intro args x call reads
    refine other ?_
    unfold Calls
    rw [call]
    exact ⟨rfl, reads.1⟩

theorem Calls.not_both (writes : t.Calls DSOS_CALL_WRITE_MQ q) : ¬ t.Calls DSOS_CALL_READ_MQ q := by
  obtain ⟨before, e, after⟩ := t
  cases e with
  | user | tick | proceed => cases writes
  | syscall n args =>
    intro reads
    cases writes.1.symm.trans reads.1

end Transition

section
variable {c : Config} {m m' : Kernel} {k k' : Scene} {q : Addr} {waiting : Addr → Head} {num : Int} {e : Event}

theorem Reacts.read_ends {args : Nat → Int} (shows : Shows c m k) (shows' : Shows c m' k')
    (inv : Coherent c k.store.running none k) (found : m.queue (int32 (args 0)) = some q)
    (large : c.MAX_LEN_MESSAGE ≤ int32 (args 2)) (reacts : Reacts c k (.syscall DSOS_CALL_READ_MQ args) (.done () k')) :
    (∃ x, ReadsFrom m q args x) ∧ m'.store.running = m.store.running ∨
      (¬ ∃ x, ReadsFrom m q args x) ∧ ∃ p, m.store.running = some p ∧ m'.Attends .waiting_to_read q p := by
  obtain ⟨r, runs⟩ := reacts.runs
  have named : (k.enter r DSOS_CALL_READ_MQ args).queue
      ((k.enter r DSOS_CALL_READ_MQ args).intArg r 0) = some q :=
    (queue_enter (by decide)).trans (shows.queue _ ▸ found)
  have size : (k.enter r DSOS_CALL_READ_MQ args).intArg r 2 = int32 (args 2) := intArg_enter (by decide)
  have handler : Handles c DSOS_CALL_READ_MQ = some Read := rfl
  rw [shows.store, runs]
  cases reacts.handler_ends handler runs with
  | waits empty suspends =>
    refine .inr ⟨?_, r, rfl, suspends.attends shows' named .read⟩
    rintro ⟨x, -, first, -⟩
    rw [shows.list, show k.seq (.messages q) = [] from empty q named] at first
    cases first
  | short found' first long =>
    cases named.symm.trans found'
    -- a buffer of the largest size is never too short
    have bound := inv.queues.bounded (inv.sound.first first)
    rw [size] at long
    exact absurd long (not_lt.mpr (bound.trans large))
  | @takes q' x j found' first fits wakes user =>
    cases named.symm.trans found'
    rw [size] at fits
    refine .inl ⟨⟨x, found, ?_, ?_⟩, ?_⟩
    · rw [shows.list]
      exact first
    · rw [shows.store]
      exact fits
    · rw [shows'.store]
      exact wakes.running.trans runs

theorem Reacts.write_ends {args : Nat → Int} (shows : Shows c m k) (shows' : Shows c m' k')
    (found : m.queue (int32 (args 0)) = some q) (fits : int32 (args 2) ≤ c.MAX_LEN_MESSAGE)
    (reacts : Reacts c k (.syscall DSOS_CALL_WRITE_MQ args) (.done () k')) :
    WritesTo c m q args ∧ m'.store.running = m.store.running ∨
      ¬ WritesTo c m q args ∧ ∃ p, m.store.running = some p ∧ m'.Attends .waiting_to_write q p := by
  obtain ⟨r, runs⟩ := reacts.runs
  have named : (k.enter r DSOS_CALL_WRITE_MQ args).queue
      ((k.enter r DSOS_CALL_WRITE_MQ args).intArg r 0) = some q :=
    (queue_enter (by decide)).trans (shows.queue _ ▸ found)
  have size : (k.enter r DSOS_CALL_WRITE_MQ args).intArg r 2 = int32 (args 2) := intArg_enter (by decide)
  have handler : Handles c DSOS_CALL_WRITE_MQ = some (Write c) := rfl
  rw [shows.store, runs]
  cases reacts.handler_ends handler runs with
  | tooLong long =>
    rw [size] at long
    exact absurd long (not_lt.mpr fits)
  | unknown _ absent => cases named.symm.trans absent
  | waits _ found' full suspends =>
    cases named.symm.trans found'
    refine .inr ⟨fun writes => ?_, r, rfl, suspends.attends shows' rfl .write⟩
    obtain ⟨-, -, room⟩ := writes
    rw [shows.store] at room
    exact room full
  | writes _ found' room block user wakes =>
    cases named.symm.trans found'
    refine .inl ⟨⟨found, fits, ?_⟩, ?_⟩
    · rw [shows.store]
      exact room
    · rw [shows'.store]
      exact wakes.running.trans runs

theorem Step.call_ends (shows : Shows c m k) (inv : Coherent c k.store.running none k) (step : Step c m e m')
    (which : WaitsIn waiting num) (calls : (⟨m, e, m'⟩ : Transition).Calls num q)
    (proper : (⟨m, e, m'⟩ : Transition).Proper c) :
    ((⟨m, e, m'⟩ : Transition).Passed c q ∧ m'.store.running = m.store.running) ∨
      ¬ (⟨m, e, m'⟩ : Transition).Passed c q ∧ ∃ p, m.store.running = some p ∧ m'.Attends waiting q p := by
  obtain ⟨k', shows', reacts⟩ := step.reacts shows inv
  cases e with
  | user | tick | proceed => cases calls
  | syscall n args =>
    obtain ⟨rfl, found⟩ := calls
    cases which with
    | read =>
      -- the call has passed a message, or its caller waits
      rcases reacts.read_ends shows shows' inv found ((proper args).2 rfl) with ⟨⟨x, reads⟩, runs⟩ | ⟨unread, suspended⟩
      · obtain ⟨⟨r, copies⟩, -⟩ := reacts.reads shows shows' inv reads
        refine .inl ⟨.inr ?_, runs⟩
        rw [copies.taken rfl reads]
        rfl
      · refine .inr ⟨?_, suspended⟩
        rintro (given | taken)
        · cases (Transition.calls_of_given given).1
        · rw [Transition.taken_none fun args' x call reads => unread ⟨x, by cases call; exact reads⟩] at taken
          cases taken
    | write =>
      rcases reacts.write_ends shows shows' found ((proper args).1 rfl).2 with ⟨writes, runs⟩ | ⟨unwritten, suspended⟩
      · refine .inl ⟨.inl ?_, runs⟩
        rw [Transition.given_some rfl writes]
        rfl
      · refine .inr ⟨?_, suspended⟩
        rintro (given | taken)
        · rw [Transition.given_none fun args' call writes => unwritten (by cases call; exact writes)] at given
          cases given
        · cases (Transition.calls_of_taken taken).1

end

section
variable {c : Constants} {m : Kernel} {q : Addr} {past : List Transition} {waiting : Addr → Head} {num : Int}

theorem split_last {past earlier later : List Transition} {s t : Transition} (split : past ++ [s] = earlier ++ t :: later) :
    later = [] ∧ earlier = past ∧ t = s ∨ ∃ later', later = later' ++ [s] ∧ past = earlier ++ t :: later' := by
  rcases List.eq_nil_or_concat later with rfl | ⟨later', s', rfl⟩
  · obtain ⟨rfl, last⟩ := List.append_inj' split rfl
    cases last
    exact .inl ⟨rfl, rfl, rfl⟩
  · rw [List.concat_eq_append] at split ⊢
    rw [← List.cons_append, ← List.append_assoc] at split
    obtain ⟨rfl, last⟩ := List.append_inj' split rfl
    cases last
    exact .inr ⟨later', rfl, rfl⟩

/-- A call that passes no message is suspended, and stays so. -/
theorem Life.suspended (life : Life c.toConfig q past m) (quiet : ∀ t ∈ past, t.WakesNobody c.toConfig q)
    (which : WaitsIn waiting num) {earlier later : List Transition} {t : Transition} (split : past = earlier ++ t :: later)
    (calls : t.Calls num q) (proper : t.Proper c.toConfig) (unpassed : ¬ t.Passed c.toConfig q) :
    ∃ p, t.before.store.running = some p ∧ m.Attends waiting q p ∧ ¬ t.Returns later := by
  -- on the run: the wrapper of the caller stays in the list of the queue, so the caller does not run
  induction life generalizing later with
  | opened => simp at split
  | @step m m' e past life step present ih =>
    obtain ⟨k, shows, inv, counted, listed⟩ := life.shows
    obtain ⟨k', shows', reacts⟩ := step.reacts shows inv
    have inv' := (reacts.chain inv counted).coherent inv
    rcases split_last split with ⟨rfl, -, rfl⟩ | ⟨later', rfl, before⟩
    · rcases step.call_ends shows inv which calls proper with ⟨passed, -⟩ | ⟨-, p, runs, attends⟩
      · exact absurd passed unpassed
      · refine ⟨p, runs, attends, ?_⟩
        rintro ⟨v, there, returns⟩
        obtain rfl := List.mem_singleton.mp there
        exact attends.idle shows' inv' which (returns.trans runs)
    · obtain ⟨p, runs, attends, waits⟩ := ih (fun t there => quiet t (by simp [there])) before
      have attends' := attends.lasts shows shows' (reacts.lasts shows inv listed which (quiet ⟨m, e, m'⟩ (by simp)))
      refine ⟨p, runs, attends', ?_⟩
      rintro ⟨v, there, returns⟩
      rw [← List.cons_append] at there
      rcases List.mem_append.mp there with earlier | last
      · exact waits ⟨v, earlier, returns⟩
      · obtain rfl := List.mem_singleton.mp last
        exact attends'.idle shows' inv' which (returns.trans runs)

theorem Life.passed (life : Life c.toConfig q past m) (which : WaitsIn waiting num) {t : Transition} (there : t ∈ past)
    (calls : t.Calls num q) (proper : t.Proper c.toConfig) (passed : t.Passed c.toConfig q) :
    t.after.store.running = t.before.store.running := by
  induction life with
  | opened => cases there
  | step life step present ih =>
    rcases List.mem_append.mp there with earlier | last
    · exact ih earlier
    · obtain rfl := List.mem_singleton.mp last
      obtain ⟨k, shows, inv, -⟩ := life.shows
      rcases step.call_ends shows inv which calls proper with ⟨-, runs⟩ | ⟨unpassed, -⟩
      · exact runs
      · exact absurd passed unpassed

/-- While nobody is woken, the calls that return are those that pass a message. -/
theorem Life.returns (life : Life c.toConfig q past m) (quiet : ∀ t ∈ past, t.WakesNobody c.toConfig q)
    (which : WaitsIn waiting num) {earlier later : List Transition} {t : Transition} (split : past = earlier ++ t :: later)
    (calls : t.Calls num q) (proper : t.Proper c.toConfig) : t.Returns later ↔ t.Passed c.toConfig q := by
  constructor
  · intro returns
    by_contra unpassed
    obtain ⟨p, -, -, waits⟩ := life.suspended quiet which split calls proper unpassed
    exact waits returns
  · intro passed
    have there : t ∈ past := by simp [split]
    exact ⟨t, List.mem_cons_self .., life.passed which there calls proper passed⟩

theorem returned_eq {α : Type} {f : Transition → Option α} (rest : List Transition)
    (counts : ∀ earlier t later, rest = earlier ++ t :: later → (t.Calls num q ∧ t.Returns later ↔ (f t).isSome)) :
    returned num q rest = (rest.filterMap f).length := by
  induction rest with
  | nil => rfl
  | cons t later ih =>
    have rest : returned num q later = (later.filterMap f).length :=
      ih fun earlier t' later' split => counts (t :: earlier) t' later' (by rw [split, List.cons_append])
    -- whether a call returns is decided by the steps after it, so they come off first
    have head := counts [] t later rfl
    rw [returned, rest]
    cases passes : f t with
    | none =>
      rw [passes] at head
      simp [passes, head]
    | some x =>
      rw [passes] at head
      simp [passes, head]
      omega

end

/-- While no step wakes a process that is suspended on the queue, its calls complete exactly once. -/
theorem calls_complete_once (c : Constants) {q : Addr} {past : List Transition} {m : Kernel}
    (life : Life c.toConfig q past m) (quiet : ∀ t ∈ past, t.WakesNobody c.toConfig q) :
    CompletesOnce c.toConfig q past m := by
  have writes (earlier : List Transition) (t : Transition) (later : List Transition) (split : past = earlier ++ t :: later)
      (calls : t.Calls DSOS_CALL_WRITE_MQ q) (proper : t.Proper c.toConfig) :
      t.Returns later ↔ (t.given c.toConfig q).isSome := by
    rw [life.returns quiet .write split calls proper]
    exact or_iff_left fun taken => calls.not_both (Transition.calls_of_taken taken)
  have reads (earlier : List Transition) (t : Transition) (later : List Transition) (split : past = earlier ++ t :: later)
      (calls : t.Calls DSOS_CALL_READ_MQ q) (proper : t.Proper c.toConfig) :
      t.Returns later ↔ (t.taken q).isSome := by
    rw [life.returns quiet .read split calls proper]
    exact or_iff_right fun given => (Transition.calls_of_given given).not_both calls
  refine ⟨writes, reads, fun proper => ?_⟩
  have given : returned DSOS_CALL_WRITE_MQ q past = (past.filterMap (·.given c.toConfig q)).length := by
    refine returned_eq past fun earlier t later split => ⟨fun ⟨calls, returns⟩ => ?_, fun given => ?_⟩
    · exact (writes earlier t later split calls (proper t (by simp [split]) (.inl calls))).mp returns
    · have calls := Transition.calls_of_given given
      exact ⟨calls, (writes earlier t later split calls (proper t (by simp [split]) (.inl calls))).mpr given⟩
  have taken : returned DSOS_CALL_READ_MQ q past = (past.filterMap (·.taken q)).length := by
    refine returned_eq past fun earlier t later split => ⟨fun ⟨calls, returns⟩ => ?_, fun taken => ?_⟩
    · exact (reads earlier t later split calls (proper t (by simp [split]) (.inr calls))).mp returns
    · have calls := Transition.calls_of_taken taken
      exact ⟨calls, (reads earlier t later split calls (proper t (by simp [split]) (.inr calls))).mpr taken⟩
  -- what was written is what was read and what is still in the queue
  have order := congrArg List.length life.order
  rw [List.length_append, Kernel.contents, List.length_map] at order
  rw [given, taken, order]

/-- A message is written and read, and who reads then waits. -/
def calls_return : Observed always fun m => block .message_queue 0 ∉ m.list .mq_list ∧
    ((trial_from constants.toConfig always [.syscall DSOS_CALL_OPEN_MQ (arguments [5, 1])] m).any fun m₁ =>
      block .message_queue 0 ∈ m₁.list .mq_list ∧ m₁.list (.waiting_to_read (block .message_queue 0)) = [] ∧
      m₁.list (.waiting_to_write (block .message_queue 0)) = [] ∧
      ((trial_from constants.toConfig always [.syscall DSOS_CALL_WRITE_MQ (arguments [5, 100, 3])] m₁).any fun m₂ =>
        block .message_queue 0 ∈ m₂.list .mq_list ∧ m₂.list (.waiting_to_write (block .message_queue 0)) = [] ∧
        ((trial_from constants.toConfig always [.syscall DSOS_CALL_READ_MQ (arguments [5, 300, 64])] m₂).any fun m₃ =>
          block .message_queue 0 ∈ m₃.list .mq_list ∧
          ((trial_from constants.toConfig always [.syscall DSOS_CALL_SPAWN (arguments [1, 2])] m₃).any fun m₄ =>
            block .message_queue 0 ∈ m₄.list .mq_list ∧ m₄.list (.waiting_to_write (block .message_queue 0)) = [] ∧
            ((trial_from constants.toConfig always [.syscall DSOS_CALL_READ_MQ (arguments [5, 300, 64])] m₄).any fun m₅ =>
              block .message_queue 0 ∈ m₅.list .mq_list ∧ block .pcb 0 ∈ m₅.list .waiting_list) = true) = true) =
                true) = true) = true :=
  observe always [] (by decide +kernel)

theorem calls_complete_once_two : ∃ past m, past.length = 4 ∧ block .pcb 0 ∈ m.list .waiting_list ∧
    Life constants.toConfig (block .message_queue 0) past m ∧
    CompletesOnce constants.toConfig (block .message_queue 0) past m := by
  obtain ⟨m, reach, absent, calls⟩ := calls_return
  obtain ⟨m₁, opens, present₁, readers₁, writers₁, calls⟩ := trial_step calls
  obtain ⟨m₂, writes, present₂, writers₂, calls⟩ := trial_step calls
  obtain ⟨m₃, reads, present₃, calls⟩ := trial_step calls
  obtain ⟨m₄, spawns, present₄, writers₄, calls⟩ := trial_step calls
  obtain ⟨m₅, waits, present₅, asleep⟩ := trial_step calls
  have life : Life constants.toConfig (block .message_queue 0) _ m₅ :=
    .step (.step (.step (.step (.opened reach.reachable absent opens present₁) writes present₂) reads present₃) spawns
      present₄) waits present₅
  refine ⟨_, m₅, rfl, asleep, life, calls_complete_once constants life fun t there => ?_⟩
  simp only [List.mem_append, List.mem_singleton, List.not_mem_nil, false_or] at there
  obtain (((rfl | rfl) | rfl) | rfl) := there
  · exact fun args => ⟨fun _ _ _ => writers₁, fun _ _ => readers₁⟩
  · exact fun args => ⟨fun _ _ _ => writers₂, fun call => (by cases call)⟩
  · exact fun args => ⟨fun _ call => (by cases call), fun call => (by cases call)⟩
  · exact fun args => ⟨fun _ _ _ => writers₄, fun call => (by cases call)⟩

/-- The first process reads an empty queue, its child writes to it, and the first process runs again. -/
def reader_woken : Observed always fun m => block .message_queue 0 ∉ m.list .mq_list ∧
    ((trial_from constants.toConfig always [.syscall DSOS_CALL_OPEN_MQ (arguments [5, 1])] m).any fun m₁ =>
      block .message_queue 0 ∈ m₁.list .mq_list ∧
      ((trial_from constants.toConfig always [.syscall DSOS_CALL_SPAWN (arguments [1, 2])] m₁).any fun m₂ =>
        block .message_queue 0 ∈ m₂.list .mq_list ∧ m₂.store.running = some (block .pcb 0) ∧
        m₂.queue 5 = some (block .message_queue 0) ∧ m₂.list (.messages (block .message_queue 0)) = [] ∧
        ((trial_from constants.toConfig always [.syscall DSOS_CALL_READ_MQ (arguments [5, 300, 64])] m₂).any fun m₃ =>
          block .message_queue 0 ∈ m₃.list .mq_list ∧
          ((trial_from constants.toConfig always [.syscall DSOS_CALL_WRITE_MQ (arguments [5, 100, 3])] m₃).any fun m₄ =>
            block .message_queue 0 ∈ m₄.list .mq_list ∧
            ((trial_from constants.toConfig always [.tick] m₄).any fun m₅ =>
              block .message_queue 0 ∈ m₅.list .mq_list ∧ m₅.store.running = some (block .pcb 0)) = true) = true) =
                true) = true) = true :=
  observe always [] (by decide +kernel)

/-- The read of the first process returns without a message. -/
theorem read_returns_empty : ¬ ∀ (q : Addr) (past : List Transition) (m : Kernel), Life constants.toConfig q past m →
    CompletesOnce constants.toConfig q past m := by
  intro every
  obtain ⟨m, reach, absent, calls⟩ := reader_woken
  obtain ⟨m₁, opens, present₁, calls⟩ := trial_step calls
  obtain ⟨m₂, spawns, present₂, runs, found, empty, calls⟩ := trial_step calls
  obtain ⟨m₃, reads, present₃, calls⟩ := trial_step calls
  obtain ⟨m₄, writes, present₄, calls⟩ := trial_step calls
  obtain ⟨m₅, ticks, present₅, again⟩ := trial_step calls
  have life : Life constants.toConfig (block .message_queue 0) _ m₅ :=
    .step (.step (.step (.step (.opened reach.reachable absent opens present₁) spawns present₂) reads present₃)
      writes present₄) ticks present₅
  have id : int32 (arguments [5, 300, 64] 0) = 5 := by decide
  have calls : (⟨m₂, .syscall DSOS_CALL_READ_MQ (arguments [5, 300, 64]), m₃⟩ : Transition).Calls DSOS_CALL_READ_MQ
      (block .message_queue 0) := ⟨rfl, by rw [id]; exact found⟩
  have proper : (⟨m₂, .syscall DSOS_CALL_READ_MQ (arguments [5, 300, 64]), m₃⟩ : Transition).Proper constants.toConfig := by
    refine fun args => ⟨fun call => (by cases call), fun call => ?_⟩
    cases call
    decide
  have returns : (⟨m₂, .syscall DSOS_CALL_READ_MQ (arguments [5, 300, 64]), m₃⟩ : Transition).Returns
      [⟨m₃, .syscall DSOS_CALL_WRITE_MQ (arguments [5, 100, 3]), m₄⟩, ⟨m₄, .tick, m₅⟩] :=
    ⟨⟨m₄, .tick, m₅⟩, by simp, again.trans runs.symm⟩
  have taken := ((every _ _ _ life).reads [⟨m₁, .syscall DSOS_CALL_SPAWN (arguments [1, 2]), m₂⟩] _ _ rfl calls proper).mp returns
  rw [Transition.taken_none] at taken
  · cases taken
  · rintro args x - ⟨-, first, -⟩
    have first : x ∈ (m₂.list (.messages (block .message_queue 0))).head? := first
    rw [empty] at first
    cases first

end DisastrOS
