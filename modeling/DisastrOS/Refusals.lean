import DisastrOS.Opening
import DisastrOS.Transfer

/-! What a call has done that answers a negative code.

It has done nothing, with one exception: an open that creates its object and
finds no free descriptor leaves the object behind.
-/

set_option autoImplicit false

namespace DisastrOS

open Refinement
open Relation (ReflTransGen)

/-- The global list of the objects from a pool. -/
def Pool.objects : Pool → Head
  | .message_queue => .mq_list
  | _ => .resources_list

section
variable (c : Config) (m m' : Kernel) (r : Addr) (num : Int) (args : Nat → Int)

/-- The call changed nothing but its own record in the PCB of the caller. -/
structure Unchanged : Prop where
  store : m'.store = (m.store.entered r num args).setPCB r fun p =>
    { p with syscall_retvalue := (m'.store.pcb r).syscall_retvalue }
  lists : ∀ h, m'.list h = m.list h
  allocated : ∀ x, m'.Allocated c x ↔ m.Allocated c x

/-- The call has created the object `o`, for which there is no descriptor. -/
structure LeavesObject (p : Pool) (o : Addr) : Prop where
  creates : CreatesObject m num args p
  spent : (m.data.pools .descriptor).size = 0
  answer : (m'.store.pcb r).syscall_retvalue = DSOS_ERESOURCENOFD
  grown : m'.list p.objects = m.list p.objects ++ [o]
  born : ¬ m.Allocated c o ∧ m'.Allocated c o
  unused : m'.list (.descriptors_ptrs o) = []

end

/-- How a call ends that comes back to its caller. -/
inductive Returned (c : Config) (r : Addr) (k : Scene) (creates : Pool → Prop) : Scene → Prop where
  | refused {value : Int} (negative : value < 0) : Returned c r k creates (k.answer r value)
  | acts {k' : Scene} {h : Head} (changed : k'.seq h ≠ k.seq h)
      (answer : 0 ≤ (k'.store.pcb r).syscall_retvalue) : Returned c r k creates k'
  | leaves {k' : Scene} {p : Pool} {o : Addr} (create : creates p) (spent : k.free .descriptor = [])
      (answer : (k'.store.pcb r).syscall_retvalue = DSOS_ERESOURCENOFD)
      (grown : k'.seq p.objects = k.seq p.objects ++ [o]) (born : ¬ k.Live c o ∧ k'.Live c o)
      (unused : k'.seq (.descriptors_ptrs o) = []) : Returned c r k creates k'

section
variable {c : Config} {k k' : Scene} {r n : Addr} {creates : Pool → Prop}

theorem Coherent.next_other {gone : Pointer} (inv : Coherent c (some r) gone k)
    (ready : (k.seq .ready_list).head? = some n) : n ≠ r := by
  rintro rfl
  cases (inv.processes.not_waiting rfl).symm.trans (inv.sound.first ready)

theorem NewChild.returned {finish : Addr → Scene → Scene}
    (same : ∀ p j, (finish p j).seq = j.seq ∧
      ((finish p j).store.pcb r).syscall_retvalue = (j.store.pcb r).syscall_retvalue)
    (inv : Coherent c (some r) none k) (ends : NewChild finish r k (.done () k')) : Returned c r k creates k' := by
  cases ends with
  | @child p e pcb unspent ptr =>
    obtain ⟨alive, pool⟩ := inv.processes.runs rfl
    have bound := inv.pids.range alive pool
    have other : r ≠ p := by
      rintro rfl
      exact (inv.sound.top pcb).2.2 alive
    refine .acts (h := .children r) ?_ ?_
    · rw [(same p _).1]
      simp [Scene.newChild, other]
    · rw [(same p _).2]
      simp [Scene.newChild]
      omega

theorem Wait.returned (inv : Coherent c (some r) none k) (ends : Wait r k (.done () k'))
    (back : k'.store.running = some r) : Returned c r k creates k' := by
  cases ends with
  | childless nobody => exact .refused (by decide)
  | @reaps e z found child zombie =>
    have member : e ∈ k.seq (.children r) := by
      rcases Option.or_eq_some_iff.mp found with scanned | ⟨-, last⟩
      · exact List.mem_of_find?_eq_some scanned
      · exact List.mem_of_getLast? last
    obtain ⟨⟨z', names, alive, pool, -⟩, -⟩ := inv.tree.entry (inv.sound.mem_seq.mp member)
    cases child.symm.trans names
    refine .acts (h := .children r) (fun same => ?_) ?_
    · have gone : (k.seq (.children r)).erase e = k.seq (.children r) := by simpa [Scene.reap] using same
      exact List.erase_eq_self_iff.mp gone member
    · have answer := (inv.pids.range alive pool).1
      simpa [Scene.reap] using answer
  | blocks found child alive ready =>
    have other := inv.next_other ready
    cases back
    exact absurd rfl other

theorem Sleep.returned (inv : Coherent c (some r) none k) (ends : Sleep r k (.done () k'))
    (back : k'.store.running = some r) : Returned c r k creates k' := by
  cases ends with
  | refused full => exact .refused (by decide)
  | dozes timer time ready =>
    have other := inv.next_other ready
    cases back
    exact absurd rfl other
  | allSleep timer time idle => cases back

theorem Exit.gone (inv : Coherent c (some r) none k) (ends : Exit r k (.done () k')) : k'.store.running ≠ some r := by
  intro back
  cases ends with
  | buried init reparents parent unawaited ready =>
    have other := (reparents.coherent inv init).1.next_other ready
    cases back
    exact other rfl
  | resumes init reparents parent awaited entry drops closed =>
    have resumption := reparents.resumption inv init parent awaited entry
    cases back
    cases resumption.zombie.symm.trans resumption.blocked.1

theorem OpenDescriptor.returned {o : Addr} {resource mq : Pointer} (inv : Coherent c (some r) none k)
    (ends : OpenDescriptor r o resource mq k (.done () k')) : Returned c r k creates k' := by
  cases ends with
  | refused full => exact .refused (by decide)
  | opened des unspent ptr =>
    refine .acts (h := .descriptors r) ?_ ?_
    · simp [Scene.openDescriptor]
    · simpa [Scene.openDescriptor] using inv.descriptors.counter r

theorem OpenDescriptor.returned_new {o : Addr} {resource mq : Pointer} {p : Pool} {j : Scene}
    (inv : Coherent c (some r) none k) (create : creates p) (which : p = .message_queue ∨ p = .resource)
    (top : (k.free p).head? = some o) (grown : j.seq p.objects = k.seq p.objects ++ [o])
    (alive : j.Live c o) (unused : j.seq (.descriptors_ptrs o) = []) (free : j.free .descriptor = k.free .descriptor)
    (pcb : j.store.pcb = k.store.pcb) (ends : OpenDescriptor r o resource mq j (.done () k')) :
    Returned c r k creates k' := by
  cases ends with
  | refused full =>
    refine .leaves (p := p) (o := o) create (free ▸ full) ?_ grown ⟨(inv.sound.top top).2.2, alive⟩ unused
    simp
  | @opened d e des unspent ptr =>
    have kept : (j.openDescriptor r o d e resource mq).seq p.objects = j.seq p.objects := by
      rcases which with rfl | rfl <;> simp [Scene.openDescriptor, Pool.objects]
    refine .acts (h := p.objects) ?_ ?_
    · rw [kept, grown]
      simp
    · have counter := inv.descriptors.counter r
      rw [← pcb] at counter
      simpa [Scene.openDescriptor] using counter

theorem OpenResource.returned (inv : Coherent c (some r) none k)
    (creating : hasFlag (k.intArg r 2) DSOS_CREATE → k.resource (k.intArg r 0) = none → creates .resource)
    (ends : OpenResource r k (.done () k')) : Returned c r k creates k' := by
  cases ends with
  | taken | unknown | mistyped | shared => exact .refused (by decide)
  | @creates x _ create absent top opens =>
    have alive : (k.newResource x (k.intArg r 0) (k.intArg r 1)).Live c x :=
      (Scene.live_alloc inv.sound top).mpr (.inl rfl)
    refine opens.returned_new inv (creating create absent) (.inr rfl) top ?_ alive ?_ ?_ rfl
    · simp [Scene.newResource, Pool.objects]
    · simp [Scene.newResource]
    · simp [Scene.newResource]
  | opens old found type free opens => exact opens.returned inv

theorem OpenMessageQueue.returned (inv : Coherent c (some r) none k)
    (creating : k.intArg r 1 = DSOS_CREATE → k.queue (k.intArg r 0) = none → creates .message_queue)
    (ends : OpenMessageQueue r k (.done () k')) : Returned c r k creates k' := by
  cases ends with
  | taken | unknown | shared => exact .refused (by decide)
  | @creates q _ create absent top opens =>
    have alive : (k.newQueue q (k.intArg r 0)).Live c q := (Scene.live_alloc inv.sound top).mpr (.inl rfl)
    refine opens.returned_new inv (creating create absent) (.inl rfl) top ?_ alive ?_ ?_ rfl
    · simp [Scene.newQueue, Pool.objects]
    · simp [Scene.newQueue]
    · simp [Scene.newQueue]
  | opens old found free opens => exact opens.returned inv

theorem Close.returned {object : Pool} {which : Descriptor → Pointer} (ends : Close object which r k (.done () k')) :
    Returned c r k creates k' := by
  cases ends with
  | unknown absent => exact .refused (by decide)
  | @closed d o e found kind ptr =>
    have member := List.mem_of_find?_eq_some found
    refine .acts (h := .descriptors r) (fun same => ?_) (by simp [Scene.closeDescriptor])
    have gone : (k.seq (.descriptors r)).erase d = k.seq (.descriptors r) := by
      simpa [Scene.closeDescriptor, Scene.dropDescriptor] using same
    exact List.erase_eq_self_iff.mp gone member

theorem Destroy.returned {global : Head} {find : Scene → Int → Pointer}
    (finds : ∀ id x, find k id = some x → x ∈ k.seq global) (ends : Destroy global find r k (.done () k')) :
    Returned c r k creates k' := by
  cases ends with
  | unknown | used => exact .refused (by decide)
  | @destroyed x found closed =>
    have member := finds _ x found
    refine .acts (h := global) (fun same => ?_) (by simp [Scene.destroy])
    have gone : (k.seq global).erase x = k.seq global := by simpa [Scene.destroy] using same
    exact List.erase_eq_self_iff.mp gone member

theorem Suspend.gone {mq : Pointer} {waiting : Addr → Head} (inv : Coherent c (some r) none k)
    (ends : Suspend r mq waiting k (.done () k')) : k'.store.running ≠ some r := by
  cases ends with
  | suspended ptr found ready =>
    have other := inv.next_other ready
    intro back
    cases back
    exact other rfl

theorem Read.returned (inv : Coherent c (some r) none k) (lengths : k.Lengths) (ends : Read r k (.done () k'))
    (back : k'.store.running = some r) : Returned c r k creates k' := by
  cases ends with
  | waits empty suspends => exact absurd back (suspends.gone inv)
  | short => exact .refused (by decide)
  | @takes q x j found first fits wakes user =>
    have member := List.mem_of_mem_head? first
    have woken := wakes.woken (inv.moved (.take (inv.sound.first first)))
    obtain ⟨pcb, store, -⟩ := woken.store
    refine .acts (h := .messages q) (fun same => ?_) ?_
    · have kept := woken.others (.messages q) (by simp) (by simp) (by simp)
      have gone : (k.seq (.messages q)).erase x = k.seq (.messages q) := by simpa [Scene.finishRead, kept] using same
      exact List.erase_eq_self_iff.mp gone member
    · have long := lengths q x member
      simpa [Scene.finishRead, store] using long

theorem Write.returned (inv : Coherent c (some r) none k)
    (positive : ∀ q, k.intArg r 2 ≤ c.MAX_LEN_MESSAGE → k.queue (k.intArg r 0) = some q →
      (k.store.mq q).num_written ≠ c.MAX_NUM_MESSAGES → 0 ≤ k.intArg r 2)
    (ends : Write c r k (.done () k')) (back : k'.store.running = some r) : Returned c r k creates k' := by
  cases ends with
  | tooLong | unknown => exact .refused (by decide)
  | waits fits found full suspends => exact absurd back (suspends.gone inv)
  | @writes q x j fits found room block user wakes =>
    have woken := wakes.woken (inv.moved (.post (k.arg r 1) block fits))
    refine .acts (h := .messages q) (fun same => ?_) ?_
    · have kept := woken.others (.messages q) (by simp) (by simp) (by simp)
      simp [Scene.finishWrite, kept, Scene.post] at same
    · have long := positive q fits found room
      simpa [Scene.finishWrite] using long

end

/-! ## The system calls -/

section
variable {c : Config} {m m' : Kernel} {k k' : Scene} {r : Addr} {num : Int} {args : Nat → Int}

theorem handler_returned {H : Addr → Scene → Ending → Prop} (shows : Shows c m k)
    (inv : Coherent c k.store.running none k) (runs : k.store.running = some r) (lengths : k.Lengths)
    (stores : StoresLength c m (.syscall num args)) (handler : Handles c num = some H)
    (other : num ≠ DSOS_CALL_PREEMPT) (ends : H r (k.enter r num args) (.done () k'))
    (back : k'.store.running = some r) : Returned c r (k.enter r num args) (CreatesObject m num args) k' := by
  have entered := inv.entered runs num args
  cases handler_entry handler with
  | preempt => exact absurd rfl other
  | fork => exact NewChild.returned (fun _ _ => ⟨rfl, rfl⟩) entered ends
  | spawn =>
    refine NewChild.returned ?_ entered ends
    intro p j
    by_cases same : r = p <;> simp [same]
  | wait => exact Wait.returned entered ends back
  | exit => exact absurd back (Exit.gone entered ends)
  | sleep => exact Sleep.returned entered ends back
  | openResource =>
    refine OpenResource.returned entered (fun create absent => .inr ⟨rfl, rfl, ?_, ?_⟩) ends
    · rwa [intArg_enter (by decide)] at create
    · rw [intArg_enter (by decide)] at absent
      rw [shows.resource]
      exact absent
  | closeResource | closeMessageQueue => exact Close.returned ends
  | destroyResource => exact Destroy.returned (fun id x found => List.mem_of_find?_eq_some found) ends
  | shutdown => cases ends
  | openMessageQueue =>
    refine OpenMessageQueue.returned entered (fun create absent => .inl ⟨rfl, rfl, ?_, ?_⟩) ends
    · rwa [intArg_enter (by decide)] at create
    · rw [queue_enter (by decide)] at absent
      rwa [shows.queue]
  | write =>
    have size : (k.enter r DSOS_CALL_WRITE_MQ args).intArg r 2 = int32 (args 2) := intArg_enter (by decide)
    refine Write.returned entered (fun q fits found room => ?_) ends back
    rw [size] at fits ⊢
    rw [queue_enter (by decide)] at found
    refine stores args rfl fits ⟨q, ?_, ?_⟩
    · rw [shows.queue, found]
    · rw [shows.store]
      exact room
  | read =>
    refine Read.returned entered (fun q x member => ?_) ends back
    simpa [Scene.enter] using lengths q x member
  | destroyMessageQueue => exact Destroy.returned (fun id q found => List.mem_of_find?_eq_some found) ends

theorem Reacts.returned (shows : Shows c m k) (inv : Coherent c k.store.running none k) (lengths : k.Lengths)
    (stores : StoresLength c m (.syscall num args)) (range : 0 ≤ num ∧ num ≤ DSOS_MAX_SYSCALLS)
    (other : num ≠ DSOS_CALL_PREEMPT) (runs : k.store.running = some r) (back : k'.store.running = some r)
    (reacts : Reacts c k (.syscall num args) (.done () k')) :
    Returned c r (k.enter r num args) (CreatesObject m num args) k' := by
  cases reacts with
  | outOfRange _ outside => omega
  | unknown running inside absent =>
    cases runs.symm.trans running
    exact .refused (by decide)
  | handled running handler ends logged =>
    cases runs.symm.trans running
    exact handler_returned shows inv runs lengths stores handler other ends back

theorem Returned.refusal (returned : Returned c r (k.enter r num args) (CreatesObject m num args) k')
    (shows : Shows c m k) (shows' : Shows c m' k') (negative : (m'.store.pcb r).syscall_retvalue < 0) :
    Unchanged c m m' r num args ∨ ∃ p o, LeavesObject c m m' r num args p o := by
  cases returned with
  | @refused value below =>
    refine .inl ⟨?_, fun h => ?_, fun x => ?_⟩
    · rw [shows'.store, shows.entered]
      simp [Scene.answer]
    · rw [shows'.list, shows.list]
      rfl
    · rw [shows'.allocated, shows.allocated]
      rfl
  | acts changed answer =>
    rw [shows'.store] at negative
    omega
  | @leaves _ p o create spent answer grown born unused =>
    refine .inr ⟨p, o, create, ?_, ?_, ?_, ?_, ?_⟩
    · rw [shows.size]
      simpa using spent
    · rw [shows'.store, answer]
    · rw [shows'.list, shows.list]
      exact grown
    · rw [shows'.allocated, shows.allocated]
      exact born
    · rw [shows'.list]
      exact unused

theorem Returned.idle (returned : Returned c r (k.enter r num args) (CreatesObject m num args) k')
    (shows : Shows c m k) (shows' : Shows c m' k') (unchanged : Unchanged c m m' r num args) :
    (m'.store.pcb r).syscall_retvalue < 0 := by
  cases returned with
  | refused below =>
    rw [shows'.store]
    simpa using below
  | @acts _ h changed answer =>
    have same := unchanged.lists h
    rw [shows'.list, shows.list] at same
    exact absurd same changed
  | @leaves _ p o create spent answer grown born unused =>
    have same := unchanged.lists p.objects
    rw [shows'.list, shows.list] at same
    -- a list that has grown is not the list it was
    have longer : k.seq p.objects ++ [o] = k.seq p.objects := grown.symm.trans same
    simp at longer

end

/-- A call that comes back to its caller answers a negative code exactly if it has done nothing,
or has left an object without a descriptor behind. -/
theorem refusals_change_nothing (c : Constants) {m m' : Kernel} {r : Addr} {num : Int} {args : Nat → Int}
    (reach : ReachableWith c.toConfig (StoresLength c.toConfig) m) (runs : m.store.running = some r)
    (range : 0 ≤ num ∧ num ≤ DSOS_MAX_SYSCALLS) (other : num ≠ DSOS_CALL_PREEMPT)
    (stores : StoresLength c.toConfig m (.syscall num args)) (step : Step c.toConfig m (.syscall num args) m')
    (back : m'.store.running = some r) :
    (m'.store.pcb r).syscall_retvalue < 0 ↔
      Unchanged c.toConfig m m' r num args ∨ ∃ p o, LeavesObject c.toConfig m m' r num args p o := by
  obtain ⟨k, shows, inv, counted, lengths⟩ := reach.shows (J := Scene.Lengths) Fresh.lengths
    fun shows inv counted stores holds reacts => reacts.lengths shows inv counted stores holds
  obtain ⟨k', shows', reacts⟩ := step.reacts shows inv
  rw [shows.store] at runs
  rw [shows'.store] at back
  have returned := reacts.returned shows inv lengths stores range other runs back
  constructor
  · exact returned.refusal shows shows'
  · rintro (unchanged | ⟨p, o, left⟩)
    · exact returned.idle shows shows' unchanged
    · rw [left.answer]
      decide

instance (c : Config) (m : Kernel) : ∀ e, Decidable (StoresLength c m e)
  | .syscall num args => decidable_of_iff
      (num = DSOS_CALL_WRITE_MQ → int32 (args 2) ≤ c.MAX_LEN_MESSAGE →
        (∃ q ∈ m.queue (int32 (args 0)), (m.store.mq q).num_written ≠ c.MAX_NUM_MESSAGES) → 0 ≤ int32 (args 2))
      ⟨fun stores _ same => by cases same; exact stores rfl, fun stores same => by subst same; exact stores args rfl⟩
  | .user _ | .tick | .proceed => .isTrue fun _ same => by cases same

/-- The first process has a queue with a message. -/
def message_kept : Observed (StoresLength constants.toConfig) fun m => m.store.running = some (block .pcb 0) ∧
    (m.data.pools .descriptor).size = 2047 ∧ m.list (.messages (block .message_queue 0)) = [block .message 0] ∧
    ((trial_from constants.toConfig always [.syscall DSOS_CALL_OPEN_MQ (arguments [5, 1])] m).any fun m' =>
      m'.store.running = some (block .pcb 0) ∧ (m'.store.pcb (block .pcb 0)).syscall_retvalue = -8) = true :=
  observe (StoresLength constants.toConfig)
    [.syscall DSOS_CALL_OPEN_MQ (arguments [5, 1]), .syscall DSOS_CALL_WRITE_MQ (arguments [5, 100, 3])]
    (by decide +kernel)

theorem refusals_change_nothing_created : ∃ m m', Reachable constants.toConfig m ∧
    Step constants.toConfig m (.syscall DSOS_CALL_OPEN_MQ (arguments [5, 1])) m' ∧
    m'.list (.messages (block .message_queue 0)) = [block .message 0] := by
  obtain ⟨m, reached, runs, left, written, seen⟩ := message_kept
  obtain ⟨m', step, back, answer⟩ := trial_step seen
  have stores : StoresLength constants.toConfig m (.syscall DSOS_CALL_OPEN_MQ (arguments [5, 1])) := by
    intro args same
    cases same
  have outcome := (refusals_change_nothing constants reached runs (by decide) (by decide) stores step back).mp
    (by rw [answer]; decide)
  rcases outcome with unchanged | ⟨p, o, object⟩
  · exact ⟨m, m', reached.reachable, step, (unchanged.lists _).trans written⟩
  · have spent := object.spent
    rw [left] at spent
    cases spent

end DisastrOS
