import DisastrOS.Exhaustion
import DisastrOS.Opening
import DisastrOS.Releasing

/-! Whether a call leaves somebody running.

Each blocking handler takes the next process from `ready_list` without asking
whether there is one.
-/

set_option autoImplicit false

namespace DisastrOS

open Refinement
open Relation (ReflTransGen)

section
variable (c : Config) (m : Kernel) (r : Addr) (num : Int) (args : Nat → Int)

/-- The call meets no NULL process, and when it returns a process runs: the caller,
or one that was ready, or one that the call has woken. -/
structure SomebodyRuns : Prop where
  safe : ∀ stop, Halts c m (.syscall num args) stop → stop ≠ .detachNull ∧ stop ≠ .null .pcb
  runs : ∀ m', Step c m (.syscall num args) m' → ∃ n, m'.store.running = some n ∧
    m'.Allocated c n ∧ n.pool = .pcb ∧ (n = r ∨ n ∈ m.list .ready_list ∨ n ∈ m.list .waiting_list)

/-- Without a parent only `init` may exit, into its endless loop. Another process may exit if its
parent waits and has it among its children, or if its parent does not wait and some process is ready. -/
structure CanExit : Prop where
  init : (m.store.pcb r).parent = none → m.store.init_pcb = some r ∧ m.list (.children r) ≠ []
  listed : ∀ q, WaitingParent m r q → ∃ e ∈ m.list (.children q), m.store.pcb_ptr e = some r
  ready : (m.store.pcb r).parent ≠ none → (∀ q, ¬ WaitingParent m r q) → m.list .ready_list ≠ []

/-- The call reads an empty queue, writes a full one, sleeps, or waits for a child that lives. -/
def Suspending : Prop :=
  (num = DSOS_CALL_WAIT ∧ ∃ z ∈ m.awaitedProcess args, (m.store.pcb z).status ≠ .Zombie) ∨
  (num = DSOS_CALL_SLEEP ∧ (m.data.pools .timer_item).size ≠ 0) ∨
  (num = DSOS_CALL_READ_MQ ∧ (m.data.pools .pcb_ptr).size ≠ 0 ∧
    ∃ q ∈ m.queue (int32 (args 0)), m.list (.messages q) = []) ∨
  (num = DSOS_CALL_WRITE_MQ ∧ int32 (args 2) ≤ c.MAX_LEN_MESSAGE ∧ (m.data.pools .pcb_ptr).size ≠ 0 ∧
    ∃ q ∈ m.queue (int32 (args 0)), (m.store.mq q).num_written = c.MAX_NUM_MESSAGES)

/-- There is a block for a new process, a process that is ready when the caller goes
to sleep, and one to run when the caller exits. -/
structure CanGoOn : Prop where
  block : num = DSOS_CALL_FORK ∨ num = DSOS_CALL_SPAWN → (m.data.pools .pcb).size ≠ 0
  ready : Suspending c m num args → m.list .ready_list ≠ []
  exit : num = DSOS_CALL_EXIT → CanExit m r

end

def Goes (k : Scene) (r : Addr) : Ending → Prop
  | .done _ k' => ∃ n, k'.store.running = some n ∧
      (n = r ∨ k.place n = .linked .ready_list ∨ k.place n = .linked .waiting_list)
  | .fault stop => stop ≠ .detachNull ∧ stop ≠ .null .pcb
  | _ => True

section
variable {c : Config} {k k' : Scene} {r : Addr} {ending : Ending}

@[simp] theorem goes_done : Goes k r (.done () k') ↔ ∃ n, k'.store.running = some n ∧
    (n = r ∨ k.place n = .linked .ready_list ∨ k.place n = .linked .waiting_list) := Iff.rfl

@[simp] theorem goes_fault {stop : Stop} : Goes k r (.fault stop) ↔ stop ≠ .detachNull ∧ stop ≠ .null .pcb := Iff.rfl

@[simp] theorem goes_exhausted : Goes k r .exhausted ↔ True := Iff.rfl

theorem Goes.stays (runs : k'.store.running = some r) : Goes k r (.done () k') := ⟨r, runs, .inl rfl⟩

theorem Schedule.goes (inv : Coherent c (some r) none k) (runs : k.store.running = some r)
    (ends : Schedule r k ending) : Goes k r ending := by
  cases ends with
  | alone wakes idle => exact .stays (wakes.running.trans runs)
  | @rotates k' n wakes ready =>
    refine ⟨n, rfl, .inr ?_⟩
    obtain ⟨prev, rounds⟩ := wakes.1
    obtain ⟨inv', ready'⟩ := (WakeRound.chain (A := fun _ tag => tag = .elapsed) (fun _ => rfl) inv (by simp) rounds).1.keeps
      (J := fun P => (∀ x, P.scene.place x = .linked .ready_list →
        k.place x = .linked .ready_list ∨ k.place x = .linked .waiting_list) ∧
        ∀ x, P.scene.place x = .linked .waiting_list → k.place x = .linked .waiting_list) inv
      (fun ok inv' move holds => by
        subst ok
        cases move with
        | @wakeSleeper k' ru go prev t p first due names after =>
          obtain ⟨p', names', blocked⟩ := inv'.timers.owner (inv'.sound.first first)
          cases names.symm.trans names'
          constructor
          · intro x there
            by_cases woken : x = p
            · subst woken
              exact .inr (holds.2 _ blocked.1)
            · refine holds.1 x ?_
              simp [Scene.wakeSleeper, woken, Function.update_apply] at there
              grind
          · intro x there
            refine holds.2 x ?_
            simp [Scene.wakeSleeper, Function.update_apply] at there
            grind)
      ⟨fun _ => .inl, fun _ => id⟩
    exact ready'.1 n (inv'.sound.first ready)

theorem NewChild.goes {finish : Addr → Scene → Scene} (same : ∀ p k, (finish p k).store.running = k.store.running)
    (runs : k.store.running = some r) (ends : NewChild finish r k ending) : Goes k r ending ↔ k.free .pcb ≠ [] := by
  cases ends with
  | noPCB full => simp [full]
  | overflow pcb spent =>
    have some_left := List.ne_nil_of_mem (List.mem_of_mem_head? pcb)
    simpa using some_left
  | noPCBPtr pcb unspent full =>
    have some_left := List.ne_nil_of_mem (List.mem_of_mem_head? pcb)
    simpa using some_left
  | child pcb unspent ptr =>
    have some_left := List.ne_nil_of_mem (List.mem_of_mem_head? pcb)
    exact iff_of_true (.stays ((same _ _).trans runs)) some_left

theorem Wait.goes (sound : k.Sound c) (runs : k.store.running = some r) (ends : Wait r k ending) :
    Goes k r ending ↔ ((∃ e z, k.awaited r (k.intArg r 0) = some e ∧ k.store.pcb_ptr e = some z ∧
      (k.store.pcb z).status ≠ .Zombie) → k.seq .ready_list ≠ []) := by
  cases ends with
  | childless none =>
    refine iff_of_true (.stays runs) ?_
    rintro ⟨e, z, found, -⟩
    simp [Scene.awaited, none] at found
  | reaps found child zombie =>
    refine iff_of_true (.stays (by simpa [Scene.reap] using runs)) ?_
    rintro ⟨e, z, found', child', alive⟩
    cases found.symm.trans found'
    cases child.symm.trans child'
    exact absurd zombie alive
  | blocks found child alive ready =>
    have some_ready := List.ne_nil_of_mem (List.mem_of_mem_head? ready)
    exact iff_of_true ⟨_, rfl, .inr (.inl (sound.first ready))⟩ fun _ => some_ready
  | stuck found child alive idle => simpa [idle] using ⟨_, found, _, child, alive⟩

theorem Sleep.goes (sound : k.Sound c) (runs : k.store.running = some r) (ends : Sleep r k ending) :
    Goes k r ending ↔ (k.free .timer_item ≠ [] → k.seq .ready_list ≠ []) := by
  cases ends with
  | refused full => exact iff_of_true (.stays runs) fun left => absurd full left
  | dozes timer time ready =>
    have some_ready := List.ne_nil_of_mem (List.mem_of_mem_head? ready)
    exact iff_of_true ⟨_, rfl, .inr (.inl (sound.first ready))⟩ fun _ => some_ready
  | allSleep timer time idle =>
    have some_left := List.ne_nil_of_mem (List.mem_of_mem_head? timer)
    simp [idle, some_left]

theorem Suspend.goes {waiting : Addr → Head} {mq : Pointer} (sound : k.Sound c) (ends : Suspend r mq waiting k ending) :
    Goes k r ending ↔ (k.free .pcb_ptr ≠ [] → mq ≠ none → k.seq .ready_list ≠ []) := by
  cases ends with
  | noPtr full => simp [full]
  | noQueue ptr absent => simp [absent]
  | stuck ptr found idle =>
    have some_left := List.ne_nil_of_mem (List.mem_of_mem_head? ptr)
    simp [idle, some_left, found]
  | suspended ptr found ready =>
    have some_ready := List.ne_nil_of_mem (List.mem_of_mem_head? ready)
    exact iff_of_true ⟨_, rfl, .inr (.inl (sound.first ready))⟩ fun _ _ => some_ready

theorem Read.goes (sound : k.Sound c) (runs : k.store.running = some r) (ends : Read r k ending) :
    Goes k r ending ↔ (k.free .pcb_ptr ≠ [] → (∃ q, k.queue (k.intArg r 0) = some q ∧ k.seq (.messages q) = []) →
      k.seq .ready_list ≠ []) := by
  have unasked {q x : Addr} (found : k.queue (k.intArg r 0) = some q) (first : (k.seq (.messages q)).head? = some x) :
      ¬ ∃ q, k.queue (k.intArg r 0) = some q ∧ k.seq (.messages q) = [] := by
    rintro ⟨q', found', empty⟩
    cases found.symm.trans found'
    simp [empty] at first
  cases ends with
  | waits empty suspends =>
    rw [suspends.goes sound]
    refine forall_congr' fun _ => ⟨fun goes asked => ?_, fun goes known => ?_⟩
    · obtain ⟨q, found, -⟩ := asked
      exact goes (by simp [found])
    · obtain ⟨q, found⟩ := Option.ne_none_iff_exists'.mp known
      exact goes ⟨q, found, empty q found⟩
  | short found first long => exact iff_of_true (.stays runs) fun _ asked => absurd asked (unasked found first)
  | nullUser found first fits wakes null =>
    exact iff_of_true ⟨nofun, nofun⟩ fun _ asked => absurd asked (unasked found first)
  | takes found first fits wakes user =>
    exact iff_of_true (.stays (wakes.running.trans runs)) fun _ asked => absurd asked (unasked found first)

theorem Write.goes (sound : k.Sound c) (runs : k.store.running = some r) (ends : Write c r k ending) :
    Goes k r ending ↔ (k.intArg r 2 ≤ c.MAX_LEN_MESSAGE → k.free .pcb_ptr ≠ [] →
      (∃ q, k.queue (k.intArg r 0) = some q ∧ (k.store.mq q).num_written = c.MAX_NUM_MESSAGES) →
      k.seq .ready_list ≠ []) := by
  have unasked {q : Addr} (found : k.queue (k.intArg r 0) = some q)
      (room : (k.store.mq q).num_written ≠ c.MAX_NUM_MESSAGES) :
      ¬ ∃ q, k.queue (k.intArg r 0) = some q ∧ (k.store.mq q).num_written = c.MAX_NUM_MESSAGES := by
    rintro ⟨q', found', full⟩
    cases found.symm.trans found'
    exact room full
  cases ends with
  | tooLong long => exact iff_of_true (.stays runs) fun fits => absurd fits (not_le.mpr long)
  | unknown fits absent =>
    apply iff_of_true (.stays runs)
    intro _ _ asked
    obtain ⟨q, found, -⟩ := asked
    cases absent.symm.trans found
  | waits fits found full suspends =>
    rw [suspends.goes sound]
    exact ⟨fun goes _ left _ => goes left (by simp), fun goes left _ => goes fits left ⟨_, found, full⟩⟩
  | noBlock fits found room spent => exact iff_of_true ⟨nofun, nofun⟩ fun _ _ asked => absurd asked (unasked found room)
  | nullUser fits found room block null =>
    exact iff_of_true ⟨nofun, nofun⟩ fun _ _ asked => absurd asked (unasked found room)
  | writes fits found room block user wakes =>
    exact iff_of_true (.stays (wakes.running.trans runs)) fun _ _ asked => absurd asked (unasked found room)

/-! ## The handlers that do not block -/

theorem OpenDescriptor.goes {o : Addr} {resource mq : Pointer} {k₀ : Scene} (runs : k.store.running = some r)
    (ends : OpenDescriptor r o resource mq k ending) : Goes k₀ r ending := by
  cases ends with
  | refused full => exact .stays runs
  | overflow des spent => exact ⟨nofun, nofun⟩
  | noPtr des unspent full => exact ⟨nofun, nofun⟩
  | opened des unspent ptr => exact .stays runs

theorem OpenResource.goes (runs : k.store.running = some r) (ends : OpenResource r k ending) : Goes k r ending := by
  cases ends with
  | taken create found => exact .stays runs
  | exhausted create absent full => exact ⟨nofun, nofun⟩
  | @creates x _ create absent top opens =>
    have created : (k.newResource x (k.intArg r 0) (k.intArg r 1)).store.running = some r := runs
    exact opens.goes created
  | unknown old absent => exact .stays runs
  | mistyped old found type => exact .stays runs
  | shared old found type exclusive used => exact .stays runs
  | opens old found type free opens => exact opens.goes runs

theorem OpenMessageQueue.goes (runs : k.store.running = some r) (ends : OpenMessageQueue r k ending) :
    Goes k r ending := by
  cases ends with
  | taken create found => exact .stays runs
  | exhausted create absent full => exact ⟨nofun, nofun⟩
  | @creates q _ create absent top opens =>
    have created : (k.newQueue q (k.intArg r 0)).store.running = some r := runs
    exact opens.goes created
  | unknown old absent => exact .stays runs
  | shared exclusive found used => exact .stays runs
  | opens old found free opens => exact opens.goes runs

theorem Close.goes {object : Pool} {which : Descriptor → Pointer} (other : object ≠ .pcb)
    (runs : k.store.running = some r) (ends : Close object which r k ending) : Goes k r ending := by
  cases ends with
  | unknown absent => exact .stays runs
  | otherKind found kind => simpa using other
  | closed found kind ptr => exact .stays runs

theorem Destroy.goes {global : Head} {find : Scene → Int → Pointer} (runs : k.store.running = some r)
    (ends : Destroy global find r k ending) : Goes k r ending := by
  cases ends with
  | unknown absent => exact .stays runs
  | used found open_ => exact .stays runs
  | destroyed found closed => exact .stays runs

/-! ## The exit -/

/-- `init` gives its children to itself for ever. -/
theorem Reparents.childless (reparents : Reparents r r k k') : k.seq (.children r) = [] := by
  obtain ⟨rounds, done⟩ := reparents
  by_contra children
  suffices some_left : k'.seq (.children r) ≠ [] from some_left done
  clear done
  induction rounds with
  | refl => exact children
  | tail _ round ih =>
    cases round
    simp [Scene.reparent]

theorem Exit.goes {m : Kernel} {args : Nat → Int} (shows : Shows c m k) (inv : Coherent c k.store.running none k)
    (lineage : k.Lineage) (runs : k.store.running = some r) (ends : Exit r (k.enter r DSOS_CALL_EXIT args) ending) :
    Goes k r ending ↔ CanExit m r := by
  have entered := inv.entered runs DSOS_CALL_EXIT args
  have given {i : Addr} {j : Scene} (init : k.store.init_pcb = some i)
      (reparents : Reparents r i (k.enter r DSOS_CALL_EXIT args) j) :
      Scene.Frame [.pcb_ptr] (k.enter r DSOS_CALL_EXIT args) j :=
    (reparents.coherent entered init).2
  have named {q : Addr} (parent : ((k.enter r DSOS_CALL_EXIT args).store.pcb r).parent = some q) :
      (m.store.pcb r).parent = some q := by
    rw [shows.store]
    simpa [Scene.enter] using parent
  have child {q : Addr} (parent : (m.store.pcb r).parent = some q) : (m.store.pcb r).parent ≠ none := by
    rw [parent]
    exact Option.some_ne_none q
  -- the parent waits when `internal_exit` looks, exactly if it waited before
  have waiting {i q : Addr} {j : Scene} (init : k.store.init_pcb = some i)
      (reparents : Reparents r i (k.enter r DSOS_CALL_EXIT args) j) (parent : (m.store.pcb r).parent = some q) :
      (j.bury r q).AwaitsDeath q ((k.enter r DSOS_CALL_EXIT args).store.pcb r).pid ↔ WaitingParent m r q := by
    have pid : ((k.enter r DSOS_CALL_EXIT args).store.pcb r).pid = (k.store.pcb r).pid := by simp [Scene.enter]
    rw [WaitingParent, and_iff_right parent, shows.store]
    constructor
    · intro awaits
      have asked := AwaitsDeath.before (given init reparents) (by simp) awaits
      exact AwaitsDeath.of_enter (runs ▸ inv) (pid ▸ asked)
    · intro awaits
      have differs : q ≠ r := by
        rintro rfl
        cases (inv.processes.not_waiting runs).symm.trans (inv.processes.waits awaits.1)
      refine AwaitsDeath.after (given init reparents) (by simp) differs ?_
      simpa [Scene.AwaitsDeath, Scene.enter, differs] using awaits
  have listed {i q e : Addr} {j : Scene} (init : k.store.init_pcb = some i)
      (reparents : Reparents r i (k.enter r DSOS_CALL_EXIT args) j)
      (parent : ((k.enter r DSOS_CALL_EXIT args).store.pcb r).parent = some q)
      (awaited : (j.bury r q).AwaitsDeath q ((k.enter r DSOS_CALL_EXIT args).store.pcb r).pid)
      (entry : (j.bury r q).entry q ((k.enter r DSOS_CALL_EXIT args).store.pcb r).pid = some e) : CanExit m r := by
    obtain ⟨-, -, linked, names⟩ := reparents.resumed entered init parent awaited entry
    have some_parent : (k.store.pcb r).parent ≠ none := by
      rw [← shows.store, named parent]
      exact Option.some_ne_none q
    obtain ⟨there, names'⟩ := parent_before inv lineage runs init reparents linked names some_parent
    refine ⟨fun init' => absurd init' (child (named parent)), fun q' waits => ?_, fun _ unawaited => ?_⟩
    · cases (named parent).symm.trans waits.1
      exact ⟨e, shows.mem_list.mpr there, shows.store ▸ names'⟩
    · exact absurd ((waiting init reparents (named parent)).mp awaited) (unawaited q)
  cases ends with
  | forever init children =>
    have init : k.store.init_pcb = some r := init
    have orphan : (m.store.pcb r).parent = none := shows.store ▸ inv.tree.init_parent init
    refine iff_of_true trivial ⟨fun _ => ⟨shows.store ▸ init, ?_⟩, fun q waits => ?_, fun created => ?_⟩
    · rw [shows.list]
      exact children
    · exact absurd orphan (child waits.1)
    · exact absurd orphan created
  | @orphan i j init reparents parent =>
    have orphan : (m.store.pcb r).parent = none := by
      rw [shows.store]
      simpa [Scene.enter] using parent
    apply iff_of_false (by simp)
    intro can
    obtain ⟨first, children⟩ := can.init orphan
    have same : m.store.init_pcb = some i := shows.store ▸ init
    cases first.symm.trans same
    refine children ?_
    rw [shows.list]
    exact reparents.childless
  | @buried i q n j init reparents parent unawaited ready =>
    have ready' : (k.seq .ready_list).head? = some n := by
      rw [(given init reparents).seq (by simp [Head.kind])] at ready
      exact ready
    have first := inv.sound.first ready'
    refine iff_of_true ⟨n, rfl, .inr (.inl first)⟩ ⟨fun init' => ?_, fun q' waits => ?_, fun _ _ => ?_⟩
    · exact absurd init' (child (named parent))
    · cases (named parent).symm.trans waits.1
      exact absurd ((waiting init reparents (named parent)).mpr waits) unawaited
    · exact List.ne_nil_of_mem (shows.mem_list.mpr first)
  | @stuck i q j init reparents parent unawaited idle =>
    apply iff_of_false (by simp)
    intro can
    refine can.ready (child (named parent)) (fun q' waits => ?_) ?_
    · cases (named parent).symm.trans waits.1
      exact unawaited ((waiting init reparents (named parent)).mpr waits)
    · rw [(given init reparents).seq (by simp [Head.kind])] at idle
      rw [shows.list]
      exact idle
  | @stray i q j init reparents parent awaited absent =>
    apply iff_of_false (by simp)
    intro can
    have waits := (waiting init reparents (named parent)).mp awaited
    obtain ⟨e, there, names⟩ := can.listed q waits
    have differs : q ≠ r := by
      rintro rfl
      have asleep := waits.2.1
      rw [shows.store] at asleep
      cases (inv.processes.not_waiting runs).symm.trans (inv.processes.waits asleep)
    rw [shows.store] at names
    exact reparents.listed entered init differs (shows.mem_list.mp there) names absent
  | otherKind init reparents parent awaited entry drops first resource =>
    exact iff_of_true (by simp) (listed init reparents parent awaited entry)
  | @resumes i q e j j' init reparents parent awaited entry drops closed =>
    have waits := (waiting init reparents (named parent)).mp awaited
    have asleep := waits.2.1
    rw [shows.store] at asleep
    exact iff_of_true ⟨q, rfl, .inr (.inr (inv.processes.waits asleep))⟩ (listed init reparents parent awaited entry)

theorem canGoOn_iff {m : Kernel} {num : Int} {args : Nat → Int}
    (plain : num ∉ [DSOS_CALL_FORK, DSOS_CALL_SPAWN, DSOS_CALL_EXIT]) :
    CanGoOn c m r num args ↔ (Suspending c m num args → m.list .ready_list ≠ []) := by
  simp only [List.mem_cons, List.not_mem_nil, or_false, not_or] at plain
  obtain ⟨fork, spawn, exit⟩ := plain
  constructor
  · intro can
    exact can.ready
  · intro ready
    exact ⟨fun calls => absurd calls (by simp [fork, spawn]), ready, fun calls => absurd calls exit⟩

theorem CanGoOn.other {m : Kernel} {num : Int} {args : Nat → Int}
    (plain : num ∉ [DSOS_CALL_FORK, DSOS_CALL_SPAWN, DSOS_CALL_EXIT])
    (running : num ∉ [DSOS_CALL_WAIT, DSOS_CALL_SLEEP, DSOS_CALL_READ_MQ, DSOS_CALL_WRITE_MQ]) :
    CanGoOn c m r num args := by
  rw [canGoOn_iff plain]
  intro suspends
  simp only [List.mem_cons, List.not_mem_nil, or_false, not_or] at running
  obtain ⟨wait, sleep, read, write⟩ := running
  simp [Suspending, wait, sleep, read, write] at suspends

theorem canGoOn_child {m : Kernel} {num : Int} {args : Nat → Int}
    (creates : num = DSOS_CALL_FORK ∨ num = DSOS_CALL_SPAWN) :
    CanGoOn c m r num args ↔ (m.data.pools .pcb).size ≠ 0 := by
  constructor
  · intro can
    exact can.block creates
  · intro left
    refine ⟨fun _ => left, fun suspends => ?_, fun calls => ?_⟩
    · rcases creates with rfl | rfl <;> rcases suspends with ⟨call, -⟩ | ⟨call, -⟩ | ⟨call, -⟩ | ⟨call, -⟩ <;>
        exact absurd call (by decide)
    · rcases creates with rfl | rfl <;> exact absurd calls (by decide)

theorem canGoOn_exit {m : Kernel} {args : Nat → Int} : CanGoOn c m r DSOS_CALL_EXIT args ↔ CanExit m r := by
  constructor
  · intro can
    exact can.exit rfl
  · intro can
    refine ⟨fun calls => absurd calls (by decide), fun suspends => ?_, fun _ => can⟩
    rcases suspends with ⟨call, -⟩ | ⟨call, -⟩ | ⟨call, -⟩ | ⟨call, -⟩ <;> exact absurd call (by decide)

theorem suspending_wait {m : Kernel} {args : Nat → Int} : Suspending c m DSOS_CALL_WAIT args ↔
    ∃ z ∈ m.awaitedProcess args, (m.store.pcb z).status ≠ .Zombie := by
  simp [Suspending, DSOS_CALL_WAIT, DSOS_CALL_SLEEP, DSOS_CALL_READ_MQ, DSOS_CALL_WRITE_MQ]

theorem suspending_sleep {m : Kernel} {args : Nat → Int} : Suspending c m DSOS_CALL_SLEEP args ↔
    (m.data.pools .timer_item).size ≠ 0 := by
  simp [Suspending, DSOS_CALL_WAIT, DSOS_CALL_SLEEP, DSOS_CALL_READ_MQ, DSOS_CALL_WRITE_MQ]

theorem suspending_read {m : Kernel} {args : Nat → Int} : Suspending c m DSOS_CALL_READ_MQ args ↔
    (m.data.pools .pcb_ptr).size ≠ 0 ∧ ∃ q ∈ m.queue (int32 (args 0)), m.list (.messages q) = [] := by
  simp [Suspending, DSOS_CALL_WAIT, DSOS_CALL_SLEEP, DSOS_CALL_READ_MQ, DSOS_CALL_WRITE_MQ]

theorem suspending_write {m : Kernel} {args : Nat → Int} : Suspending c m DSOS_CALL_WRITE_MQ args ↔
    int32 (args 2) ≤ c.MAX_LEN_MESSAGE ∧ (m.data.pools .pcb_ptr).size ≠ 0 ∧
      ∃ q ∈ m.queue (int32 (args 0)), (m.store.mq q).num_written = c.MAX_NUM_MESSAGES := by
  simp [Suspending, DSOS_CALL_WAIT, DSOS_CALL_SLEEP, DSOS_CALL_READ_MQ, DSOS_CALL_WRITE_MQ]

/-- A call goes on exactly if its state and its arguments allow it. -/
theorem handler_goes {m : Kernel} {num : Int} {args : Nat → Int} {H : Addr → Scene → Ending → Prop}
    (shows : Shows c m k) (inv : Coherent c k.store.running none k) (lineage : k.Lineage)
    (runs : k.store.running = some r) (handler : Handles c num = some H) (ends : H r (k.enter r num args) ending) :
    Goes k r ending ↔ CanGoOn c m r num args := by
  have inv' := inv.entered runs num args
  have running : (k.enter r num args).store.running = some r := runs
  have sound : (k.enter r num args).Sound c := inv'.sound
  -- entering the call moves nobody
  have same : Goes k r ending ↔ Goes (k.enter r num args) r ending := Iff.rfl
  cases handler_entry handler with
  | preempt => exact iff_of_true (same.mpr (ends.goes inv' running)) (.other (by decide) (by decide))
  | fork =>
    rw [canGoOn_child (.inl rfl), shows.size_zero]
    exact same.trans (NewChild.goes (fun _ _ => rfl) running ends)
  | spawn =>
    rw [canGoOn_child (.inr rfl), shows.size_zero]
    refine same.trans (NewChild.goes ?_ running ends)
    intro p j
    rfl
  | wait =>
    rw [canGoOn_iff (by decide), suspending_wait, shows.list]
    have pid : (k.enter r DSOS_CALL_WAIT args).intArg r 0 = int32 (args 0) := intArg_enter (by decide)
    refine same.trans ((Wait.goes sound running ends).trans (imp_congr_left ?_))
    rw [pid, awaited_enter, shows.store]
    constructor
    · rintro ⟨e, z, found, names, alive⟩
      have names : k.store.pcb_ptr e = some z := names
      refine ⟨z, ?_, by simpa using alive⟩
      simp [Kernel.awaitedProcess, shows.store, shows.awaited, runs, found, names]
    · rintro ⟨z, asked, alive⟩
      simp only [Kernel.awaitedProcess, shows.store, shows.awaited, runs, Option.bind_some, Option.mem_def,
        Option.bind_eq_some_iff] at asked
      obtain ⟨e, found, names⟩ := asked
      exact ⟨e, z, found, names, by simpa using alive⟩
  | exit =>
    rw [canGoOn_exit]
    exact Exit.goes shows inv lineage runs ends
  | sleep =>
    rw [canGoOn_iff (by decide), suspending_sleep, shows.size_zero, shows.list]
    exact same.trans (Sleep.goes sound running ends)
  | openResource => exact iff_of_true (same.mpr (OpenResource.goes running ends)) (.other (by decide) (by decide))
  | closeResource => exact iff_of_true (same.mpr (Close.goes (by simp) running ends)) (.other (by decide) (by decide))
  | destroyResource => exact iff_of_true (same.mpr (Destroy.goes running ends)) (.other (by decide) (by decide))
  | shutdown =>
    cases ends
    exact iff_of_true ⟨nofun, nofun⟩ (.other (by decide) (by decide))
  | openMessageQueue =>
    exact iff_of_true (same.mpr (OpenMessageQueue.goes running ends)) (.other (by decide) (by decide))
  | closeMessageQueue =>
    exact iff_of_true (same.mpr (Close.goes (by simp) running ends)) (.other (by decide) (by decide))
  | write =>
    rw [canGoOn_iff (by decide), suspending_write, shows.size_zero, shows.list, shows.queue, shows.store]
    have id : (k.enter r DSOS_CALL_WRITE_MQ args).intArg r 0 = int32 (args 0) := intArg_enter (by decide)
    have length : (k.enter r DSOS_CALL_WRITE_MQ args).intArg r 2 = int32 (args 2) := intArg_enter (by decide)
    refine same.trans ((Write.goes sound running ends).trans ?_)
    rw [id, length, and_imp, and_imp]
    rfl
  | read =>
    rw [canGoOn_iff (by decide), suspending_read, shows.size_zero, shows.list, shows.queue]
    have id : (k.enter r DSOS_CALL_READ_MQ args).intArg r 0 = int32 (args 0) := intArg_enter (by decide)
    refine same.trans ((Read.goes sound running ends).trans ?_)
    rw [id, and_imp]
    simp only [shows.list]
    rfl
  | destroyMessageQueue => exact iff_of_true (same.mpr (Destroy.goes running ends)) (.other (by decide) (by decide))

theorem Reacts.goes {m : Kernel} {num : Int} {args : Nat → Int} (shows : Shows c m k)
    (inv : Coherent c k.store.running none k) (lineage : k.Lineage) (runs : k.store.running = some r)
    (can : CanGoOn c m r num args) (reacts : Reacts c k (.syscall num args) ending) : Goes k r ending := by
  cases reacts with
  | nobody idle => cases runs.symm.trans idle
  | outOfRange running range => exact .stays runs
  | outOfBounds running bound => exact ⟨nofun, nofun⟩
  | unknown running range absent => exact .stays runs
  | handled running handler ends logged =>
    cases runs.symm.trans running
    exact (handler_goes shows inv lineage runs handler ends).mpr can
  | unlogged running handler ends logs idle =>
    cases runs.symm.trans running
    obtain ⟨n, next, -⟩ := (handler_goes shows inv lineage runs handler ends).mpr can
    cases next.symm.trans idle
  | stopped running handler stops =>
    cases runs.symm.trans running
    exact (handler_goes shows inv lineage runs handler stops).mpr can
  | diverges running handler loops => trivial

theorem Reacts.can_go_on {m : Kernel} {num : Int} {args : Nat → Int} (shows : Shows c m k)
    (inv : Coherent c k.store.running none k) (lineage : k.Lineage) (runs : k.store.running = some r)
    (goes : Goes k r ending) (reacts : Reacts c k (.syscall num args) ending) : CanGoOn c m r num args := by
  cases handler : Handles c num with
  | none =>
    refine .other (fun there => ?_) (fun there => ?_)
    · simp only [List.mem_cons, List.not_mem_nil, or_false] at there
      rcases there with rfl | rfl | rfl <;> cases handler
    · simp only [List.mem_cons, List.not_mem_nil, or_false] at there
      rcases there with rfl | rfl | rfl | rfl <;> cases handler
  | some H =>
    have inside := handler_range handler
    have ends : H r (k.enter r num args) ending := by
      cases reacts with
      | nobody idle => cases runs.symm.trans idle
      | outOfRange running range => omega
      | outOfBounds running bound => omega
      | unknown running range absent => cases absent.symm.trans handler
      | handled running same ends logged =>
        cases runs.symm.trans running
        cases handler.symm.trans same
        exact ends
      | unlogged running same ends logs idle => exact absurd rfl goes.2
      | stopped running same stops =>
        cases runs.symm.trans running
        cases handler.symm.trans same
        exact stops
      | diverges running same loops =>
        cases runs.symm.trans running
        cases handler.symm.trans same
        exact loops
    exact (handler_goes shows inv lineage runs handler ends).mp goes

theorem Shows.leaves_somebody {m : Kernel} {num : Int} {args : Nat → Int} (shows : Shows c m k)
    (inv : Coherent c k.store.running none k) (counted : Counted c k) (lineage : k.Lineage)
    (runs : k.store.running = some r) : SomebodyRuns c m r num args ↔ CanGoOn c m r num args := by
  constructor
  · rintro ⟨safe, goes⟩
    rcases shows.outcome inv (.syscall num args) with
      ⟨m', k', step, shows', reacts⟩ | ⟨stop, halts, reacts⟩ | loops
    · obtain ⟨n, next, -, -, known⟩ := goes m' step
      rw [shows'.store] at next
      rw [shows.mem_list, shows.mem_list] at known
      have ending : Goes k r (.done () k') := ⟨n, next, known⟩
      exact reacts.can_go_on shows inv lineage runs ending
    · have ending : Goes k r (.fault stop) := safe stop halts
      exact reacts.can_go_on shows inv lineage runs ending
    · have ending : Goes k r .exhausted := trivial
      exact loops.can_go_on shows inv lineage runs ending
  · intro can
    constructor
    · intro stop halts
      exact (halts.reacts shows inv).goes shows inv lineage runs can
    · intro m' step
      obtain ⟨k', shows', reacts⟩ := step.reacts shows inv
      obtain ⟨n, next, known⟩ := reacts.goes shows inv lineage runs can
      obtain ⟨alive, pool⟩ := ((reacts.chain inv counted).coherent inv).processes.runs next
      refine ⟨n, ?_, (shows'.allocated n).mpr alive, pool, ?_⟩
      · rw [shows'.store]
        exact next
      · rw [shows.mem_list, shows.mem_list]
        exact known

end

/-- A call leaves somebody running exactly if it can go on. -/
theorem somebody_runs (c : Constants) {m : Kernel} (reach : Reachable c.toConfig m) {r : Addr}
    (runs : m.store.running = some r) (num : Int) (args : Nat → Int) :
    SomebodyRuns c.toConfig m r num args ↔ CanGoOn c.toConfig m r num args := by
  obtain ⟨k, shows, inv, counted, lineage⟩ := reach.lineage
  exact shows.leaves_somebody inv counted lineage (shows.store ▸ runs)

/-- The first process runs alone, and has created a queue. -/
def runs_alone : Observed always fun m => m.store.running = some (block .pcb 0) ∧
    m.list .ready_list = [] ∧ (m.data.pools .pcb).size ≠ 0 ∧ (m.data.pools .pcb_ptr).size ≠ 0 ∧
    m.queue 5 = some (block .message_queue 0) ∧ m.list (.messages (block .message_queue 0)) = [] :=
  observe always [.syscall DSOS_CALL_OPEN_MQ (arguments [5, 1])] (by decide +kernel)

theorem somebody_runs_first : ∃ m, Reachable constants.toConfig m ∧ m.store.running = some (block .pcb 0) ∧
    SomebodyRuns constants.toConfig m (block .pcb 0) DSOS_CALL_SPAWN (arguments [1, 2]) := by
  obtain ⟨m, reach, runs, -, left, -⟩ := runs_alone
  refine ⟨m, reach.reachable, runs, ?_⟩
  exact (somebody_runs constants reach.reachable runs _ _).mpr ((canGoOn_child (.inr rfl)).mpr left)

/-- It reads from the queue, which is empty. -/
theorem nobody_to_run : ¬ ∀ m r, Reachable constants.toConfig m → m.store.running = some r →
    ∀ num args, SomebodyRuns constants.toConfig m r num args := by
  intro every
  obtain ⟨m, reach, runs, idle, -, wrappers, found, empty⟩ := runs_alone
  obtain ⟨k, shows, inv, counted, lineage⟩ := reach.reachable.lineage
  have id : int32 (arguments [5, 2000, 64] 0) = 5 := by decide
  have suspends : Suspending constants.toConfig m DSOS_CALL_READ_MQ (arguments [5, 2000, 64]) := by
    refine suspending_read.mpr ⟨wrappers, _, ?_, empty⟩
    rw [id, found]
    rfl
  have goes := every m _ reach.reachable runs DSOS_CALL_READ_MQ (arguments [5, 2000, 64])
  exact ((shows.leaves_somebody inv counted lineage (shows.store ▸ runs)).mp goes).ready suspends idle

end DisastrOS
