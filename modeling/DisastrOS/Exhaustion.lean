import DisastrOS.Responses

/-! What the kernel does when it runs out of processes and wrappers. -/

set_option autoImplicit false

namespace DisastrOS

open Refinement

section
variable (c : Config) (m : Kernel) (r : Addr) (num : Int) (args : Nat → Int)

/-- One process `p` is created, with `e` for it in the children of the caller. -/
def Creates : Prop :=
  ∃ m' p e, Step c m (.syscall num args) m' ∧ p.pool = .pcb ∧ e.pool = .pcb_ptr ∧
    ¬ m.Allocated c p ∧ ¬ m.Allocated c e ∧ (∀ x, m'.Allocated c x ↔ x = p ∨ x = e ∨ m.Allocated c x) ∧
    m'.list (.children r) = m.list (.children r) ++ [e] ∧ m'.store.pcb_ptr e = some p ∧
    m'.list .ready_list = m.list .ready_list ++ [p] ∧
    m'.list (.children p) = [] ∧ m'.list (.descriptors p) = [] ∧
    (∀ h, h ≠ .children r → h ≠ .ready_list → h ≠ .children p → h ≠ .descriptors p → m'.list h = m.list h) ∧
    m'.store.running = some r ∧ (m'.store.pcb p).parent = some r ∧ (m'.store.pcb p).status = .Ready ∧
    (m'.store.pcb p).pid = m.store.last_pid ∧ m'.store.last_pid = m.store.last_pid + 1 ∧
    (m'.store.pcb r).syscall_retvalue = (m'.store.pcb p).pid

/-- The call answers `DSOS_ESPAWN` with all lists, pools and `last_pid` unchanged. -/
def RefusesChild : Prop :=
  ∃ m', Step c m (.syscall num args) m' ∧ m'.store.running = some r ∧
    (m'.store.pcb r).syscall_retvalue = DSOS_ESPAWN ∧ (∀ h, m'.list h = m.list h) ∧
    (∀ x, m'.Allocated c x ↔ m.Allocated c x) ∧ m'.store.last_pid = m.store.last_pid

/-- The call answers a negative code and the caller runs on. -/
def GivesUp : Prop :=
  ∃ m', Step c m (.syscall num args) m' ∧ m'.store.running = some r ∧
    (m'.store.pcb r).syscall_retvalue < 0

/-- A `read` finds the queue without a message. -/
def MustWaitToRead : Prop := ∃ q, m.queue (int32 (args 0)) = some q ∧ m.list (.messages q) = []

/-- A `write` finds the queue without room. -/
def MustWaitToWrite : Prop :=
  int32 (args 2) ≤ c.MAX_LEN_MESSAGE ∧
    ∃ q, m.queue (int32 (args 0)) = some q ∧ (m.store.mq q).num_written = c.MAX_NUM_MESSAGES

/-- Both pools have a block, but `last_pid++` overflows, which C leaves undefined. -/
def PidOverflows : Prop :=
  (m.data.pools .pcb).size ≠ 0 ∧ (m.data.pools .pcb_ptr).size ≠ 0 ∧ Halts c m (.syscall num args) .overflow

/-- Neither `PCB_alloc` nor `PCBPtr_alloc` writes to NULL. -/
def NeverNull (e : Event) : Prop := ¬ Halts c m e (.null .pcb) ∧ ¬ Halts c m e (.null .pcb_ptr)

/-- What a call that needs a process or a wrapper should do. -/
structure CallReports : Prop where
  child : num = DSOS_CALL_FORK ∨ num = DSOS_CALL_SPAWN →
    Creates c m r num args ∨ RefusesChild c m r num args ∨ PidOverflows c m num args
  read : num = DSOS_CALL_READ_MQ → MustWaitToRead m args →
    Suspends c m r num args .waiting_to_read ∨ GivesUp c m r num args
  write : num = DSOS_CALL_WRITE_MQ → MustWaitToWrite c m args →
    Suspends c m r num args .waiting_to_write ∨ GivesUp c m r num args
  never : num = DSOS_CALL_FORK ∨ num = DSOS_CALL_SPAWN ∨ num = DSOS_CALL_READ_MQ ∨ num = DSOS_CALL_WRITE_MQ →
    NeverNull c m (.syscall num args)

/-- Whoever needs a process or a wrapper gets it or is told that there is none. -/
def ReportsExhaustion : Event → Prop
  | .syscall num args => ∀ r, m.store.running = some r → CallReports c m r num args
  | .proceed => NeverNull c m .proceed
  | _ => True

/-- A `read` finds no message, nor perhaps a queue. -/
def FindsNothing : Prop := ∀ q, m.queue (int32 (args 0)) = some q → m.list (.messages q) = []

/-- The pools have the blocks that the event takes, and a caller that has to wait
leaves somebody to run. -/
def BlocksLeft : Event → Prop
  | .syscall num args => m.store.running ≠ none →
      (num = DSOS_CALL_FORK ∨ num = DSOS_CALL_SPAWN →
        (m.data.pools .pcb).size ≠ 0 ∧ (m.data.pools .pcb_ptr).size ≠ 0) ∧
      (num = DSOS_CALL_READ_MQ → FindsNothing m args → (m.data.pools .pcb_ptr).size ≠ 0) ∧
      (num = DSOS_CALL_WRITE_MQ → MustWaitToWrite c m args → (m.data.pools .pcb_ptr).size ≠ 0) ∧
      (num = DSOS_CALL_READ_MQ ∧ MustWaitToRead m args ∨ num = DSOS_CALL_WRITE_MQ ∧ MustWaitToWrite c m args →
        m.list .ready_list ≠ [])
  | .proceed => m.store.running = none → (m.data.pools .pcb).size ≠ 0
  | _ => True

end

section
variable {c : Config} {m m' : Kernel} {k k' : Scene} {r : Addr} {num : Int} {args : Nat → Int}

theorem Shows.some_free (shows : Shows c m k) {p : Pool} :
    (m.data.pools p).size ≠ 0 ↔ ∃ x, (k.free p).head? = some x := by
  rw [shows.size]
  cases k.free p with
  | nil => simp
  | cons x rest =>
    have some_left : ((rest.length + 1 : Nat) : Int) ≠ 0 := by omega
    simpa using some_left

theorem Shows.creates {p e : Addr} (shows : Shows c m k) (inv : Coherent c k.store.running none k)
    (runs : k.store.running = some r) (step : Step c m (.syscall num args) m')
    (pcb : (k.free .pcb).head? = some p) (ptr : (k.free .pcb_ptr).head? = some e) (shows' : Shows c m' k')
    (ends : k' = (k.enter r num args).newChild r p e ∨
      ∃ f : PCB → Context, k' = ((k.enter r num args).newChild r p e).setPCB p fun q =>
        { q with cpu_state := f q }) : Creates c m r num args := by
  obtain ⟨pool, -, fresh⟩ := inv.sound.top pcb
  obtain ⟨pool', -, fresh'⟩ := inv.sound.top ptr
  have other : r ≠ p := by
    rintro rfl
    exact fresh (inv.processes.runs runs).1
  have shape : k'.toShape = ((k.enter r num args).newChild r p e).toShape := by
    rcases ends with rfl | ⟨f, rfl⟩ <;> rfl
  have seq (h : Head) : m'.list h = ((k.enter r num args).newChild r p e).seq h := by
    rw [shows'.list, shape]
  have alive (x : Addr) : k'.Live c x ↔ x = p ∨ x = e ∨ k.Live c x := by
    have top : ((k.alloc .pcb).free .pcb_ptr).head? = some e := by simpa using ptr
    have made : k'.Live c x ↔ ((k.alloc .pcb).alloc .pcb_ptr).Live c x := by
      rw [Scene.Live, shape]
      rfl
    rw [made, Scene.live_alloc (inv.sound.alloc) top, Scene.live_alloc inv.sound pcb]
    tauto
  refine ⟨m', p, e, step, pool, pool', fun old => fresh ((shows.allocated p).mp old),
    fun old => fresh' ((shows.allocated e).mp old), fun x => ?_, ?_, ?_, ?_, ?_, ?_, fun h _ _ _ _ => ?_, ?_⟩
  · rw [shows'.allocated, shows.allocated, alive]
  · rw [seq, shows.list]
    simp [Scene.newChild, other]
  · rw [shows'.store]
    rcases ends with rfl | ⟨f, rfl⟩ <;> simp [Scene.newChild]
  · rw [seq, shows.list]
    simp [Scene.newChild]
  · rw [seq]
    simp [Scene.newChild, Ne.symm other]
  · rw [seq]
    simp [Scene.newChild]
  · rw [seq, shows.list]
    simp [Scene.newChild, *]
  · rw [shows'.store, shows.store]
    rcases ends with rfl | ⟨f, rfl⟩ <;> simp [Scene.newChild, Scene.enter, runs]

theorem child_handler (calls : num = DSOS_CALL_FORK ∨ num = DSOS_CALL_SPAWN) :
    ∃ finish : Addr → Addr → Scene → Scene, Handles c num = some (fun r => NewChild (finish r) r) ∧
      ∀ r p k, finish r p k = k ∨ ∃ f : PCB → Context, finish r p k = k.setPCB p fun q =>
        { q with cpu_state := f q } := by
  rcases calls with rfl | rfl
  · exact ⟨fun _ _ k => k, rfl, fun _ _ _ => .inl rfl⟩
  · exact ⟨fun r p k => k.setPCB p fun q =>
      { q with cpu_state := .made q.pid (k.arg r 0) (k.arg r 1) }, rfl, fun _ _ _ => .inr ⟨_, rfl⟩⟩

theorem WakeWriters.running {q : Addr} (wakes : WakeWriters q k k') : k'.store.running = k.store.running := by
  obtain ⟨rounds, -⟩ := wakes
  induction rounds with
  | refl => rfl
  | tail _ round same =>
    cases round
    exact same

theorem WakeReaders.running {q : Addr} (wakes : WakeReaders q k k') : k'.store.running = k.store.running := by
  obtain ⟨rounds, -⟩ := wakes
  induction rounds with
  | refl => rfl
  | tail _ round same =>
    cases round
    exact same

theorem NewChild.running {finish : Addr → Scene → Scene} (same : ∀ p k, (finish p k).store.running = k.store.running)
    (ends : NewChild finish r k (.done () k')) : k'.store.running = k.store.running := by
  cases ends with
  | child pcb unspent ptr => exact same _ _

theorem Step.child_blocks (shows : Shows c m k) (inv : Coherent c k.store.running none k)
    (runs : k.store.running = some r) (calls : num = DSOS_CALL_FORK ∨ num = DSOS_CALL_SPAWN)
    (step : Step c m (.syscall num args) m') :
    (m.data.pools .pcb).size ≠ 0 ∧ (m.data.pools .pcb_ptr).size ≠ 0 := by
  obtain ⟨finish, handler, -⟩ := child_handler (c := c) calls
  obtain ⟨k', -, ends⟩ := step.handled shows inv runs handler
  cases ends with
  | child pcb unspent ptr => exact ⟨shows.some_free.mpr ⟨_, pcb⟩, shows.some_free.mpr ⟨_, ptr⟩⟩

theorem Shows.child_created (shows : Shows c m k) (inv : Coherent c k.store.running none k)
    (runs : k.store.running = some r) (calls : num = DSOS_CALL_FORK ∨ num = DSOS_CALL_SPAWN)
    (processes : (m.data.pools .pcb).size ≠ 0) (wrappers : (m.data.pools .pcb_ptr).size ≠ 0) :
    Creates c m r num args ∨ m.store.last_pid = INT_MAX ∧ Halts c m (.syscall num args) .overflow := by
  obtain ⟨finish, handler, finishes⟩ := child_handler (c := c) calls
  obtain ⟨p, pcb⟩ := shows.some_free.mp processes
  obtain ⟨e, ptr⟩ := shows.some_free.mp wrappers
  rw [shows.store]
  rcases shows.handled inv runs handler args with ⟨m', k', step, shows', ends⟩ | ⟨stop, halts, stops⟩ | ⟨k', ends, idle⟩ | loops
  · cases ends with
    | child pcb unspent ptr => exact .inl (shows.creates inv runs step pcb ptr shows' (finishes _ _ _))
  · -- each way to stop needs a pool or a counter that is used up
    cases stops with
    | noPCB full =>
      have full : k.free .pcb = [] := full
      simp [full] at pcb
    | overflow pcb spent => exact .inr ⟨spent, halts⟩
    | noPCBPtr pcb unspent full =>
      have full : k.free .pcb_ptr = [] := full
      simp [full] at ptr
  · have still := ends.running fun p k => by
      rcases finishes r p k with same | ⟨f, same⟩ <;> simp [same]
    cases runs.symm.trans (still.symm.trans idle)
  · cases loops

theorem Shows.waits {H : Addr → Scene → Ending → Prop} {waiting : Addr → Head} {callNum : Int} {q : Addr}
    (shows : Shows c m k) (inv : Coherent c k.store.running none k) (runs : k.store.running = some r)
    (handler : Handles c num = some H) (which : WaitsIn waiting callNum)
    (found : k.queue (int32 (args 0)) = some q)
    (must : ∀ ending, H r (k.enter r num args) ending → Suspend r (some q) waiting (k.enter r num args) ending) :
    ((∃ m', Step c m (.syscall num args) m') →
      (m.data.pools .pcb_ptr).size ≠ 0 ∧ m.list .ready_list ≠ []) ∧
    ((m.data.pools .pcb_ptr).size ≠ 0 → m.list .ready_list ≠ [] → Suspends c m r num args waiting) := by
  constructor
  · rintro ⟨m', step⟩
    obtain ⟨k', -, ends⟩ := step.handled shows inv runs handler
    cases must _ ends with
    | suspended ptr mq ready =>
      refine ⟨shows.some_free.mpr ⟨_, ptr⟩, ?_⟩
      rw [shows.list]
      exact List.ne_nil_of_mem (List.mem_of_mem_head? ready)
  · intro wrappers some_ready
    obtain ⟨w, ptr⟩ := shows.some_free.mp wrappers
    rw [shows.list] at some_ready
    rcases shows.handled inv runs handler args with ⟨m', k', step, shows', ends⟩ | ⟨stop, -, stops⟩ | ⟨k', ends, idle⟩ | loops
    · cases must _ ends with
      | suspended ptr mq ready =>
        cases mq
        exact shows.suspends inv runs step which found ptr ready shows'
    · cases must _ stops with
      | noPtr full =>
        have full : k.free .pcb_ptr = [] := full
        simp [full] at ptr
      | noQueue ptr absent => cases absent
      | stuck ptr found idle => exact absurd idle some_ready
    · cases must _ ends with
      | suspended ptr mq ready => cases idle
    · cases must _ loops

theorem Shows.read_waits (shows : Shows c m k) (inv : Coherent c k.store.running none k)
    (runs : k.store.running = some r) (wait : MustWaitToRead m args) :
    ((∃ m', Step c m (.syscall DSOS_CALL_READ_MQ args) m') →
      (m.data.pools .pcb_ptr).size ≠ 0 ∧ m.list .ready_list ≠ []) ∧
    ((m.data.pools .pcb_ptr).size ≠ 0 → m.list .ready_list ≠ [] →
      Suspends c m r DSOS_CALL_READ_MQ args .waiting_to_read) := by
  obtain ⟨q, found, empty⟩ := wait
  rw [shows.queue] at found
  rw [shows.list] at empty
  have named : (k.enter r DSOS_CALL_READ_MQ args).queue
      ((k.enter r DSOS_CALL_READ_MQ args).intArg r 0) = some q := (queue_enter (by decide)).trans found
  have vacant {q' x : Addr} (same : (k.enter r DSOS_CALL_READ_MQ args).queue
      ((k.enter r DSOS_CALL_READ_MQ args).intArg r 0) = some q')
      (first : ((k.enter r DSOS_CALL_READ_MQ args).seq (.messages q')).head? = some x) : False := by
    cases named.symm.trans same
    have first : (k.seq (.messages q)).head? = some x := first
    simp [empty] at first
  apply shows.waits inv runs rfl .read found
  intro ending reads
  cases reads with
  | waits _ suspends => rwa [named] at suspends
  | short found first => exact (vacant found first).elim
  | nullUser found first => exact (vacant found first).elim
  | takes found first => exact (vacant found first).elim

theorem Shows.write_waits (shows : Shows c m k) (inv : Coherent c k.store.running none k)
    (runs : k.store.running = some r) (wait : MustWaitToWrite c m args) :
    ((∃ m', Step c m (.syscall DSOS_CALL_WRITE_MQ args) m') →
      (m.data.pools .pcb_ptr).size ≠ 0 ∧ m.list .ready_list ≠ []) ∧
    ((m.data.pools .pcb_ptr).size ≠ 0 → m.list .ready_list ≠ [] →
      Suspends c m r DSOS_CALL_WRITE_MQ args .waiting_to_write) := by
  obtain ⟨length, q, found, full⟩ := wait
  rw [shows.queue] at found
  rw [shows.store] at full
  have size : (k.enter r DSOS_CALL_WRITE_MQ args).intArg r 2 = int32 (args 2) := intArg_enter (by decide)
  have named : (k.enter r DSOS_CALL_WRITE_MQ args).queue
      ((k.enter r DSOS_CALL_WRITE_MQ args).intArg r 0) = some q := (queue_enter (by decide)).trans found
  have roomless {q' : Addr} (same : (k.enter r DSOS_CALL_WRITE_MQ args).queue
      ((k.enter r DSOS_CALL_WRITE_MQ args).intArg r 0) = some q')
      (room : ((k.enter r DSOS_CALL_WRITE_MQ args).store.mq q').num_written ≠ c.MAX_NUM_MESSAGES) : False := by
    cases named.symm.trans same
    exact room full
  apply shows.waits inv runs rfl .write found
  intro ending writes
  cases writes with
  | tooLong long =>
    rw [size] at long
    omega
  | unknown fits absent => cases named.symm.trans absent
  | waits fits same full suspends =>
    cases named.symm.trans same
    exact suspends
  | noBlock fits same room => exact (roomless same room).elim
  | nullUser fits same room => exact (roomless same room).elim
  | writes fits same room => exact (roomless same room).elim

/-! ## NULL -/

theorem taker_busy {H : Addr → Scene → Ending → Prop} (runs : k.store.running = some r)
    (calls : num = DSOS_CALL_FORK ∨ num = DSOS_CALL_SPAWN ∨ num = DSOS_CALL_READ_MQ ∨ num = DSOS_CALL_WRITE_MQ)
    (handler : Handles c num = some H) (ends : H r (k.enter r num args) (.done () k')) :
    k'.store.running ≠ none := by
  have busy {j : Scene} (same : j.store.running = k.store.running) : j.store.running ≠ none := by
    rw [same, runs]
    nofun
  rcases calls with rfl | rfl | rfl | rfl <;> cases handler
  · exact busy (NewChild.running (k := k.enter r DSOS_CALL_FORK args) (fun _ _ => rfl) ends)
  · exact busy (NewChild.running (k := k.enter r DSOS_CALL_SPAWN args) (by intros; rfl) ends)
  · cases ends with
    | waits empty suspends =>
      cases suspends
      nofun
    | short found first long => exact busy rfl
    | takes found first fits wakes user => exact busy wakes.running
  · cases ends with
    | tooLong long => exact busy rfl
    | unknown fits absent => exact busy rfl
    | waits fits found full suspends =>
      cases suspends
      nofun
    | writes fits found room block user wakes => exact busy wakes.running

theorem Halts.taker {stop : Stop} {H : Addr → Scene → Ending → Prop} (shows : Shows c m k)
    (inv : Coherent c k.store.running none k) (runs : k.store.running = some r)
    (calls : num = DSOS_CALL_FORK ∨ num = DSOS_CALL_SPAWN ∨ num = DSOS_CALL_READ_MQ ∨ num = DSOS_CALL_WRITE_MQ)
    (handler : Handles c num = some H) (halts : Halts c m (.syscall num args) stop) :
    H r (k.enter r num args) (.fault stop) := by
  rcases (halts.reacts shows inv).handler_fault handler runs with stops | ⟨k', ends, idle⟩
  · exact stops
  · exact absurd idle (taker_busy runs calls handler ends)

theorem Shows.child_never (shows : Shows c m k) (inv : Coherent c k.store.running none k)
    (runs : k.store.running = some r) (calls : num = DSOS_CALL_FORK ∨ num = DSOS_CALL_SPAWN)
    (processes : (m.data.pools .pcb).size ≠ 0) (wrappers : (m.data.pools .pcb_ptr).size ≠ 0) :
    NeverNull c m (.syscall num args) := by
  obtain ⟨finish, handler, -⟩ := child_handler (c := c) calls
  obtain ⟨p, pcb⟩ := shows.some_free.mp processes
  obtain ⟨e, ptr⟩ := shows.some_free.mp wrappers
  have taker : num = DSOS_CALL_FORK ∨ num = DSOS_CALL_SPAWN ∨ num = DSOS_CALL_READ_MQ ∨ num = DSOS_CALL_WRITE_MQ := by
    tauto
  constructor
  · intro halts
    cases halts.taker shows inv runs taker handler with
    | noPCB full =>
      have full : k.free .pcb = [] := full
      simp [full] at pcb
  · intro halts
    cases halts.taker shows inv runs taker handler with
    | noPCBPtr pcb' unspent full =>
      have full : k.free .pcb_ptr = [] := full
      simp [full] at ptr

theorem Suspend.never {mq : Pointer} {waiting : Addr → Head} {p : Pool} (suspends : Suspend r mq waiting k (.fault (.null p)))
    (wrappers : k.free .pcb_ptr ≠ []) : p = .message_queue := by
  cases suspends with
  | noPtr full => exact absurd full wrappers
  | noQueue ptr absent => rfl

theorem Shows.wrappers_left (shows : Shows c m k) : (m.data.pools .pcb_ptr).size ≠ 0 ↔ k.free .pcb_ptr ≠ [] := by
  rw [shows.some_free]
  cases k.free .pcb_ptr <;> simp

theorem Shows.read_never (shows : Shows c m k) (inv : Coherent c k.store.running none k)
    (runs : k.store.running = some r) (left : FindsNothing m args → (m.data.pools .pcb_ptr).size ≠ 0) :
    NeverNull c m (.syscall DSOS_CALL_READ_MQ args) := by
  have never {p : Pool} (halts : Halts c m (.syscall DSOS_CALL_READ_MQ args) (.null p)) : p = .message_queue := by
    cases halts.taker shows inv runs (by decide) rfl with
    | waits empty suspends =>
      refine suspends.never (shows.wrappers_left.mp (left fun q found => ?_))
      rw [shows.queue] at found
      rw [shows.list]
      exact empty q ((queue_enter (by decide)).trans found)
  exact ⟨fun halts => absurd (never halts) (by decide), fun halts => absurd (never halts) (by decide)⟩

theorem Shows.write_never (shows : Shows c m k) (inv : Coherent c k.store.running none k)
    (runs : k.store.running = some r) (left : MustWaitToWrite c m args → (m.data.pools .pcb_ptr).size ≠ 0) :
    NeverNull c m (.syscall DSOS_CALL_WRITE_MQ args) := by
  have size : (k.enter r DSOS_CALL_WRITE_MQ args).intArg r 2 = int32 (args 2) := intArg_enter (by decide)
  have never {p : Pool} (halts : Halts c m (.syscall DSOS_CALL_WRITE_MQ args) (.null p)) : p = .message_queue := by
    cases halts.taker shows inv runs (by decide) rfl with
    | @waits q ending fits found full suspends =>
      refine suspends.never (shows.wrappers_left.mp (left ⟨size ▸ fits, q, ?_, ?_⟩))
      · rw [shows.queue]
        exact (queue_enter (by decide)).symm.trans found
      · rw [shows.store]
        exact full
  exact ⟨fun halts => absurd (never halts) (by decide), fun halts => absurd (never halts) (by decide)⟩

theorem Shows.read_null (shows : Shows c m k) (inv : Coherent c k.store.running none k)
    (runs : k.store.running = some r) (nothing : FindsNothing m args) (spent : k.free .pcb_ptr = []) :
    Halts c m (.syscall DSOS_CALL_READ_MQ args) (.null .pcb_ptr) := by
  have stops {ending : Ending} (ends : Read r (k.enter r DSOS_CALL_READ_MQ args) ending) :
      ending = .fault (.null .pcb_ptr) := by
    have vacant {q x : Addr} (found : (k.enter r DSOS_CALL_READ_MQ args).queue
        ((k.enter r DSOS_CALL_READ_MQ args).intArg r 0) = some q)
        (first : ((k.enter r DSOS_CALL_READ_MQ args).seq (.messages q)).head? = some x) : False := by
      rw [queue_enter (by decide), ← shows.queue] at found
      have first : (k.seq (.messages q)).head? = some x := first
      rw [← shows.list, nothing q found] at first
      cases first
    cases ends with
    | waits empty suspends =>
      cases suspends with
      | noPtr full => rfl
      | noQueue ptr absent => simp [spent] at ptr
      | stuck ptr found idle => simp [spent] at ptr
      | suspended ptr found ready => simp [spent] at ptr
    | short found first => exact (vacant found first).elim
    | nullUser found first => exact (vacant found first).elim
    | takes found first => exact (vacant found first).elim
  have handler : Handles c DSOS_CALL_READ_MQ = some Read := rfl
  rcases shows.handled inv runs handler args with
    ⟨m', k', -, -, ends⟩ | ⟨stop, halts, ends⟩ | ⟨k', ends, -⟩ | ends
  · cases stops ends
  · cases stops ends
    exact halts
  · cases stops ends
  · cases stops ends

theorem Shows.proceed_never (shows : Shows c m k) (inv : Coherent c k.store.running none k) :
    NeverNull c m .proceed ↔ (m.store.running = none → (m.data.pools .pcb).size ≠ 0) := by
  rw [shows.store, shows.some_free]
  constructor
  · intro never idle
    rcases shows.outcome inv .proceed with ⟨m', k', -, -, reacts⟩ | ⟨stop, halts, reacts⟩ | loops
    · cases reacts with
      | proceeds ends =>
        cases ends with
        | resumes running => cases idle.symm.trans running
        | restarts idle pcb => exact ⟨_, pcb⟩
    · cases reacts with
      | proceeds ends =>
        cases ends with
        | noContext running => cases idle.symm.trans running
        | noPCB idle full => exact absurd halts never.1
        | overflow idle pcb spent => exact ⟨_, pcb⟩
    · cases loops with
      | proceeds ends => cases ends
  · intro left
    refine ⟨fun halts => ?_, fun halts => ?_⟩
    · cases halts.reacts shows inv with
      | proceeds ends =>
        cases ends with
        | noPCB idle full =>
          obtain ⟨p, pcb⟩ := left idle
          simp [full] at pcb
    · cases halts.reacts shows inv with
      | proceeds ends => cases ends

/-- A call that reports as it should has found the blocks it takes. -/
theorem CallReports.blocks_left (reports : CallReports c m r num args) (shows : Shows c m k)
    (inv : Coherent c k.store.running none k) (runs : k.store.running = some r) :
    BlocksLeft c m (.syscall num args) := by
  obtain ⟨child, read, write, never⟩ := reports
  have wait (calls : num = DSOS_CALL_READ_MQ) (must : MustWaitToRead m args) : m.list .ready_list ≠ [] := by
    subst calls
    refine ((shows.read_waits inv runs must).1 ?_).2
    rcases read rfl must with ⟨m', q, w, n, step, -⟩ | ⟨m', step, -⟩ <;> exact ⟨m', step⟩
  have room (calls : num = DSOS_CALL_WRITE_MQ) (must : MustWaitToWrite c m args) :
      (m.data.pools .pcb_ptr).size ≠ 0 ∧ m.list .ready_list ≠ [] := by
    subst calls
    refine (shows.write_waits inv runs must).1 ?_
    rcases write rfl must with ⟨m', q, w, n, step, -⟩ | ⟨m', step, -⟩ <;> exact ⟨m', step⟩
  refine fun _ => ⟨fun calls => ?_, ?_, fun calls must => (room calls must).1, ?_⟩
  · rcases child calls with ⟨m', p, e, step, -⟩ | ⟨m', step, -⟩ | ⟨processes, wrappers, -⟩
    · exact step.child_blocks shows inv runs calls
    · exact step.child_blocks shows inv runs calls
    · exact ⟨processes, wrappers⟩
  · rintro rfl nothing
    rw [shows.wrappers_left]
    exact fun spent => (never (by decide)).2 (shows.read_null inv runs nothing spent)
  · rintro (⟨calls, must⟩ | ⟨calls, must⟩)
    · exact wait calls must
    · exact (room calls must).2

theorem MustWaitToRead.finds_nothing (must : MustWaitToRead m args) : FindsNothing m args := by
  obtain ⟨q, found, empty⟩ := must
  intro q' found'
  cases found.symm.trans found'
  exact empty

theorem Shows.call_reports (shows : Shows c m k) (inv : Coherent c k.store.running none k)
    (runs : k.store.running = some r) (left : BlocksLeft c m (.syscall num args)) : CallReports c m r num args := by
  obtain ⟨child, read, write, ready⟩ := left (by simp [shows.store, runs])
  constructor
  case child =>
    intro calls
    obtain ⟨processes, wrappers⟩ := child calls
    rcases shows.child_created inv runs calls processes wrappers with made | ⟨-, halts⟩
    · exact .inl made
    · exact .inr (.inr ⟨processes, wrappers, halts⟩)
  case read =>
    rintro rfl must
    exact .inl ((shows.read_waits inv runs must).2 (read rfl must.finds_nothing) (ready (.inl ⟨rfl, must⟩)))
  case write =>
    rintro rfl must
    exact .inl ((shows.write_waits inv runs must).2 (write rfl must) (ready (.inr ⟨rfl, must⟩)))
  case never =>
    rintro (calls | calls | rfl | rfl)
    · exact shows.child_never inv runs (.inl calls) (child (.inl calls)).1 (child (.inl calls)).2
    · exact shows.child_never inv runs (.inr calls) (child (.inr calls)).1 (child (.inr calls)).2
    · exact shows.read_never inv runs (read rfl)
    · exact shows.write_never inv runs (write rfl)

end

/-- Exhaustion is reported exactly when nothing is exhausted. -/
theorem exhaustion_reported (c : Constants) {m : Kernel} (reach : Reachable c.toConfig m) (e : Event) :
    ReportsExhaustion c.toConfig m e ↔ BlocksLeft c.toConfig m e := by
  obtain ⟨k, shows, inv, -⟩ := reach.shows
  cases e with
  | user memory => exact Iff.rfl
  | tick => exact Iff.rfl
  | proceed => exact shows.proceed_never inv
  | syscall num args =>
    constructor
    · intro reports somebody
      obtain ⟨r, runs⟩ := Option.ne_none_iff_exists'.mp somebody
      exact (reports r runs).blocks_left shows inv (shows.store ▸ runs) somebody
    · intro left r runs
      exact shows.call_reports inv (shows.store ▸ runs) left

/-- The first process, with all but its own block free. -/
def first_alone : Observed always fun m => m.store.running = some (block .pcb 0) ∧
    (m.data.pools .pcb).size = 2047 ∧ (m.data.pools .pcb_ptr).size = 2048 ∧ m.store.last_pid = 1 :=
  observe always [] (by decide +kernel)

theorem exhaustion_reported_first : ∃ m, Reachable constants.toConfig m ∧
    m.store.running = some (block .pcb 0) ∧
    ReportsExhaustion constants.toConfig m (.syscall DSOS_CALL_SPAWN (arguments [1, 2])) := by
  obtain ⟨m, reached, runs, processes, wrappers, -⟩ := first_alone
  have left : BlocksLeft constants.toConfig m (.syscall DSOS_CALL_SPAWN (arguments [1, 2])) := by
    rintro -
    refine ⟨fun _ => ⟨by omega, by omega⟩, fun call => absurd call (by decide), fun call => absurd call (by decide), ?_⟩
    rintro (⟨call, -⟩ | ⟨call, -⟩) <;> exact absurd call (by decide)
  exact ⟨m, reached.reachable, runs, (exhaustion_reported constants reached.reachable _).mpr left⟩

theorem first_spawns (n : Nat) (small : n ≤ 2047) : ∃ m, Reachable constants.toConfig m ∧
    m.store.running = some (block .pcb 0) ∧ (m.data.pools .pcb).size = 2047 - n ∧
    (m.data.pools .pcb_ptr).size = 2048 - n ∧ m.store.last_pid = 1 + n := by
  -- on the number of calls: each takes a block of both pools and a pid
  induction n with
  | zero =>
    obtain ⟨m, reached, runs, processes, wrappers, pids⟩ := first_alone
    exact ⟨m, reached.reachable, runs, processes, wrappers, pids⟩
  | succ n ih =>
    obtain ⟨m, reach, runs, processes, wrappers, pids⟩ := ih (by omega)
    obtain ⟨k, shows, inv, -⟩ := reach.shows
    rw [shows.store] at runs
    have made : Creates constants.toConfig m (block .pcb 0) DSOS_CALL_SPAWN (arguments [1, 2]) := by
      refine (shows.child_created inv runs (.inr rfl) (by omega) (by omega)).resolve_right fun spent => ?_
      have last := pids.symm.trans spent.1
      rw [INT_MAX] at last
      omega
    obtain ⟨m', p, e, step, -⟩ := made
    obtain ⟨k', shows', ends⟩ := step.handled shows inv runs rfl
    rw [shows.size] at processes wrappers
    rw [shows.store] at pids
    refine ⟨m', .step reach step, ?_⟩
    rw [shows'.size, shows'.size, shows'.store]
    cases ends with
    | child pcb unspent ptr =>
      obtain ⟨free, first⟩ := List.head?_eq_some_iff.mp pcb
      obtain ⟨free', first'⟩ := List.head?_eq_some_iff.mp ptr
      have first : k.free .pcb = _ := first
      have first' : k.free .pcb_ptr = _ := first'
      rw [first, List.length_cons] at processes
      rw [first', List.length_cons] at wrappers
      simp [Scene.newChild, Scene.enter, runs, first, first', pids]
      omega

/-- Its call number 2048 finds no block for a process. -/
theorem exhaustion_fatal : ¬ ∀ m, Reachable constants.toConfig m →
    ∀ e, ReportsExhaustion constants.toConfig m e := by
  intro every
  obtain ⟨m, reach, runs, processes, -⟩ := first_spawns 2047 le_rfl
  obtain ⟨k, shows, inv, -⟩ := reach.shows
  rcases (every m reach (.syscall DSOS_CALL_SPAWN (arguments [1, 2])) _ runs).child (.inr rfl) with
    ⟨m', p, e, step, -⟩ | ⟨m', step, -⟩ | ⟨left, -⟩
  · exact (step.child_blocks shows inv (shows.store ▸ runs) (.inr rfl)).1 processes
  · exact (step.child_blocks shows inv (shows.store ▸ runs) (.inr rfl)).1 processes
  · exact left processes

end DisastrOS
