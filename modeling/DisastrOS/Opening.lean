import DisastrOS.Outstanding
import DisastrOS.Responses

/-! What the two open handlers leave behind, and when they run out of descriptors. -/

set_option autoImplicit false

namespace DisastrOS

open Refinement

def Kernel.resource (m : Kernel) (id : Int) : Pointer :=
  (m.list .resources_list).find? fun x => (m.store.resource x).id = id

section
variable (c : Config) (m : Kernel) (r : Addr) (num : Int) (args : Nat → Int)

/-- The call meets no NULL, and if it answers a negative code it leaves the lists,
the pools and the counters of descriptors as they were. -/
def OpensCleanly : Prop :=
  (∀ stop, Halts c m (.syscall num args) stop →
    stop ≠ .insertNull ∧ stop ≠ .detachNull ∧ ∀ object, stop ≠ .null object) ∧
  ∀ m', Step c m (.syscall num args) m' → (m'.store.pcb r).syscall_retvalue < 0 →
    (∀ h, m'.list h = m.list h) ∧ (∀ x, m'.Allocated c x ↔ m.Allocated c x) ∧
    ∀ p, (m'.store.pcb p).last_fd = (m.store.pcb p).last_fd

/-- The call creates its object, one from the pool `p`. -/
def CreatesObject (p : Pool) : Prop :=
  num = DSOS_CALL_OPEN_MQ ∧ p = .message_queue ∧ int32 (args 1) = DSOS_CREATE ∧
      m.queue (int32 (args 0)) = none ∨
    num = DSOS_CALL_OPEN_RESOURCE ∧ p = .resource ∧ hasFlag (int32 (args 2)) DSOS_CREATE ∧
      m.resource (int32 (args 0)) = none

/-- The call opens an object that exists, neither to create it nor to have it alone. -/
def OpensExisting : Prop :=
  (num = DSOS_CALL_OPEN_MQ ∧ int32 (args 1) ≠ DSOS_CREATE ∧ int32 (args 1) ≠ DSOS_EXCL ∧
      m.queue (int32 (args 0)) ≠ none) ∨
    num = DSOS_CALL_OPEN_RESOURCE ∧ ¬ hasFlag (int32 (args 2)) DSOS_CREATE ∧
      ¬ hasFlag (int32 (args 2)) DSOS_EXCL ∧
      ∃ x, m.resource (int32 (args 0)) = some x ∧ (m.store.resource x).type = int32 (args 1)

/-- No process holds more descriptors than the constants allow, the caller holds
fewer, and a process that has exited holds none. -/
structure WithinLimits : Prop where
  each : ∀ p, (m.list (.descriptors p)).length ≤ c.MAX_NUM_DESCRIPTORS_PER_PROCESS
  caller : (m.list (.descriptors r)).length < c.MAX_NUM_DESCRIPTORS_PER_PROCESS
  closed : ∀ d, d.pool = .descriptor → m.Allocated c d →
    ∃ p, d ∈ m.list (.descriptors p) ∧ m.Allocated c p ∧ p.pool = .pcb ∧ (m.store.pcb p).status ≠ .Zombie

end

/-- How a call of open ends. The object is from the pool `p` and the list `global`;
`new` says that the call creates it. -/
inductive OpenCase (r : Addr) (k : Scene) (p : Pool) (global : Head) (new : Prop) : Ending → Prop where
  | rejected {value : Int} (negative : value < 0) (old : ¬ new) :
      OpenCase r k p global new (.done () (k.answer r value))
  | existing {o : Addr} {resource mq : Pointer} {ending : Ending} (old : ¬ new)
      (opens : OpenDescriptor r o resource mq k ending) : OpenCase r k p global new ending
  | exhausted (create : new) (full : k.free p = []) : OpenCase r k p global new (.fault .insertNull)
  | created {o : Addr} {resource mq : Pointer} {j : Scene} {ending : Ending} (create : new)
      (top : (k.free p).head? = some o) (grown : j.seq global = k.seq global ++ [o])
      (free : ∀ q, q ≠ p → j.free q = k.free q) (pcb : j.store.pcb = k.store.pcb)
      (running : j.store.running = k.store.running)
      (opens : OpenDescriptor r o resource mq j ending) : OpenCase r k p global new ending

section
variable {c : Config} {m m' : Kernel} {k : Scene} {r : Addr} {num : Int} {args : Nat → Int} {ending : Ending}

theorem OpenMessageQueue.case (opens : OpenMessageQueue r k ending) :
    OpenCase r k .message_queue .mq_list
      (k.intArg r 1 = DSOS_CREATE ∧ k.queue (k.intArg r 0) = none) ending := by
  cases opens with
  | taken create found => exact .rejected (by decide) fun new => by simp [found] at new
  | exhausted create absent full => exact .exhausted ⟨create, absent⟩ full
  | creates create absent top opens =>
    refine .created ⟨create, absent⟩ top ?_ (fun q other => ?_) ?_ ?_ opens
    · simp [Scene.newQueue]
    · simp [Scene.newQueue, other]
    · rfl
    · rfl
  | unknown old absent => exact .rejected (by decide) fun new => old new.1
  | shared exclusive found used => exact .rejected (by decide) fun new => by simp [found] at new
  | opens old found free opens => exact .existing (fun new => old new.1) opens

theorem OpenResource.case (opens : OpenResource r k ending) :
    OpenCase r k .resource .resources_list
      (hasFlag (k.intArg r 2) DSOS_CREATE ∧ k.resource (k.intArg r 0) = none) ending := by
  cases opens with
  | taken create found => exact .rejected (by decide) fun new => by simp [found] at new
  | exhausted create absent full => exact .exhausted ⟨create, absent⟩ full
  | creates create absent top opens =>
    refine .created ⟨create, absent⟩ top ?_ (fun q other => ?_) ?_ ?_ opens
    · simp [Scene.newResource]
    · simp [Scene.newResource, other]
    · rfl
    · rfl
  | unknown old absent => exact .rejected (by decide) fun new => old new.1
  | mistyped old found type => exact .rejected (by decide) fun new => old new.1
  | shared old found type exclusive used => exact .rejected (by decide) fun new => old new.1
  | opens old found type free opens => exact .existing (fun new => old new.1) opens

theorem OpenDescriptor.done {o : Addr} {resource mq : Pointer} {k' : Scene}
    (opens : OpenDescriptor r o resource mq k (.done () k')) :
    k.free .descriptor = [] ∧ k' = k.answer r DSOS_ERESOURCENOFD ∨
      k.free .descriptor ≠ [] ∧ k'.store.running = k.store.running ∧
        (k'.store.pcb r).syscall_retvalue = (k.store.pcb r).last_fd := by
  cases opens with
  | refused full => exact .inl ⟨full, rfl⟩
  | opened des unspent ptr =>
    exact .inr ⟨List.ne_nil_of_mem (List.mem_of_mem_head? des), rfl, by simp [Scene.openDescriptor]⟩

theorem OpenDescriptor.fault {o : Addr} {resource mq : Pointer} {stop : Stop}
    (sizes : (k.free .descriptor).length = (k.free .descriptor_ptr).length)
    (opens : OpenDescriptor r o resource mq k (.fault stop)) :
    stop = .overflow ∧ k.free .descriptor ≠ [] := by
  cases opens with
  | overflow des spent => exact ⟨rfl, List.ne_nil_of_mem (List.mem_of_mem_head? des)⟩
  | noPtr des unspent full =>
    rw [full, List.length_nil, List.length_eq_zero_iff] at sizes
    rw [sizes] at des
    cases des

theorem OpenCase.stays {p : Pool} {global : Head} {new : Prop} {k' : Scene}
    (opens : OpenCase r k p global new (.done () k')) : k'.store.running = k.store.running := by
  cases opens with
  | rejected negative old => rfl
  | existing old opens =>
    rcases opens.done with ⟨-, rfl⟩ | ⟨-, same, -⟩
    · rfl
    · exact same
  | created create top grown free pcb running opens =>
    rcases opens.done with ⟨-, rfl⟩ | ⟨-, same, -⟩
    · exact running
    · exact same.trans running

theorem OpenCase.traceless {p : Pool} {global : Head} {new : Prop} {k' : Scene}
    (opens : OpenCase r k p global new (.done () k')) (counter : 0 ≤ (k.store.pcb r).last_fd)
    (object : p ≠ .descriptor) (room : new → k.free .descriptor ≠ [])
    (negative : (k'.store.pcb r).syscall_retvalue < 0) : ∃ value, k' = k.answer r value := by
  cases opens with
  | @rejected value below old => exact ⟨value, rfl⟩
  | existing old opens =>
    rcases opens.done with ⟨-, rfl⟩ | ⟨-, -, value⟩
    · exact ⟨_, rfl⟩
    · omega
  | created create top grown free pcb running opens =>
    rcases opens.done with ⟨full, -⟩ | ⟨-, -, value⟩
    · exact absurd ((free _ (Ne.symm object)).symm.trans full) (room create)
    · rw [pcb] at value
      omega

theorem Shows.size_zero (shows : Shows c m k) {p : Pool} : (m.data.pools p).size ≠ 0 ↔ k.free p ≠ [] := by
  rw [shows.size, ne_eq, Int.natCast_eq_zero, List.length_eq_zero_iff]

/-- An open is clean exactly when there is room for an object that it creates. -/
theorem Shows.opens_cleanly {H : Addr → Scene → Ending → Prop} {p : Pool} {global : Head} {new : Prop}
    (shows : Shows c m k) (inv : Coherent c k.store.running none k) (runs : k.store.running = some r)
    (items : c.num_items .descriptor = c.num_items .descriptor_ptr)
    (handler : Handles c num = some H) (object : p ≠ .descriptor ∧ p ≠ .descriptor_ptr)
    (cases_ : ∀ ending, H r (k.enter r num args) ending → OpenCase r (k.enter r num args) p global new ending) :
    OpensCleanly c m r num args ↔
      (new → (m.data.pools p).size ≠ 0 ∧ (m.data.pools .descriptor).size ≠ 0) := by
  have sizes : ((k.enter r num args).free .descriptor).length = ((k.enter r num args).free .descriptor_ptr).length :=
    inv.descriptors.sizes inv.sound items
  have counter : 0 ≤ ((k.enter r num args).store.pcb r).last_fd := by
    simpa [Scene.enter] using inv.descriptors.counter r
  have busy {k' : Scene} (ends : H r (k.enter r num args) (.done () k')) : k'.store.running ≠ none := by
    rw [(cases_ _ ends).stays]
    intro idle
    cases runs.symm.trans idle
  rw [shows.size_zero, shows.size_zero]
  constructor
  · rintro ⟨stops, traces⟩ create
    -- what the call does, it does in one of four ways; only two of them can create
    rcases shows.handled inv runs handler args with
      ⟨m', k', step, shows', ends⟩ | ⟨stop, halts, stopped⟩ | ⟨k', ends, idle⟩ | loops
    · cases cases_ _ ends with
      | rejected negative old => exact absurd create old
      | existing old opens => exact absurd create old
      | @created o resource mq j _ made top grown free pcb running opens =>
        refine ⟨List.ne_nil_of_mem (List.mem_of_mem_head? top), ?_⟩
        rcases opens.done with ⟨-, rfl⟩ | ⟨some_free, -⟩
        · -- the object stays behind
          have value : (m'.store.pcb r).syscall_retvalue < 0 := by
            rw [shows'.store]
            simp [DSOS_ERESOURCENOFD]
          have lists := (traces m' step value).1 global
          rw [shows'.list, shows.list] at lists
          have same : k.seq global ++ [o] = k.seq global := grown.symm.trans lists
          exact absurd same (by simp)
        · rwa [free _ (Ne.symm object.1)] at some_free
    · cases cases_ _ stopped with
      | existing old opens => exact absurd create old
      | exhausted made full => exact absurd rfl (stops _ halts).1
      | created made top grown free pcb running opens =>
        refine ⟨List.ne_nil_of_mem (List.mem_of_mem_head? top), ?_⟩
        have left := (opens.fault (by rw [free _ (Ne.symm object.1), free _ (Ne.symm object.2), sizes])).2
        rwa [free _ (Ne.symm object.1)] at left
    · exact absurd idle (busy ends)
    · cases cases_ _ loops with
      | existing old opens => cases opens
      | created made top grown free pcb running opens => cases opens
  · intro room
    constructor
    · intro stop halts
      rcases (halts.reacts shows inv).handler_fault handler runs with stopped | ⟨k', ends, idle⟩
      · have overflow : stop = .overflow := by
          cases cases_ _ stopped with
          | existing old opens => exact (opens.fault sizes).1
          | exhausted made full => exact absurd full (room made).1
          | created made top grown free pcb running opens =>
            exact (opens.fault (by rw [free _ (Ne.symm object.1), free _ (Ne.symm object.2), sizes])).1
        simp [overflow]
      · exact absurd idle (busy ends)
    · intro m' step negative
      obtain ⟨k', shows', ends⟩ := step.handled shows inv runs handler
      rw [shows'.store] at negative
      obtain ⟨value, rfl⟩ := (cases_ _ ends).traceless counter object.1 (fun new => (room new).2) negative
      refine ⟨fun h => ?_, fun x => ?_, fun p => ?_⟩
      · rw [shows'.list, shows.list]
        rfl
      · rw [shows'.allocated, shows.allocated]
        rfl
      · rw [shows'.store, shows.store]
        simp [Scene.enter]

theorem Shows.open_queue_case (shows : Shows c m k)
    (ends : OpenMessageQueue r (k.enter r DSOS_CALL_OPEN_MQ args) ending) :
    OpenCase r (k.enter r DSOS_CALL_OPEN_MQ args) .message_queue .mq_list
      (int32 (args 1) = DSOS_CREATE ∧ m.queue (int32 (args 0)) = none) ending := by
  have opened := ends.case
  rw [intArg_enter (by decide), intArg_enter (by decide)] at opened
  rw [shows.queue]
  exact opened

theorem Shows.resource (shows : Shows c m k) (id : Int) : m.resource id = k.resource id := by
  simp only [Kernel.resource, Scene.resource, shows.list, shows.store]

theorem Shows.open_resource_case (shows : Shows c m k)
    (ends : OpenResource r (k.enter r DSOS_CALL_OPEN_RESOURCE args) ending) :
    OpenCase r (k.enter r DSOS_CALL_OPEN_RESOURCE args) .resource .resources_list
      (hasFlag (int32 (args 2)) DSOS_CREATE ∧ m.resource (int32 (args 0)) = none) ending := by
  have opened := ends.case
  rw [intArg_enter (by decide), intArg_enter (by decide)] at opened
  rw [shows.resource]
  exact opened

theorem Shows.never_refused {H : Addr → Scene → Ending → Prop} (shows : Shows c m k)
    (inv : Coherent c k.store.running none k) (runs : k.store.running = some r)
    (handler : Handles c num = some H)
    (must : ∀ ending, H r (k.enter r num args) ending →
      ∃ o resource mq, OpenDescriptor r o resource mq (k.enter r num args) ending) :
    (∀ m', Step c m (.syscall num args) m' → (m'.store.pcb r).syscall_retvalue ≠ DSOS_ERESOURCENOFD) ↔
      (m.data.pools .descriptor).size ≠ 0 := by
  have counter : 0 ≤ ((k.enter r num args).store.pcb r).last_fd := by
    simpa [Scene.enter] using inv.descriptors.counter r
  rw [shows.size_zero]
  constructor
  · intro never full
    have full : (k.enter r num args).free .descriptor = [] := full
    -- with no descriptor left every way out contradicts the assumption
    rcases shows.handled inv runs handler args with
      ⟨m', k', step, shows', ends⟩ | ⟨stop, -, stopped⟩ | ⟨k', ends, idle⟩ | loops
    · obtain ⟨o, resource, mq, opens⟩ := must _ ends
      rcases opens.done with ⟨-, rfl⟩ | ⟨some_free, -⟩
      · refine never m' step ?_
        rw [shows'.store]
        simp
      · exact some_free full
    · obtain ⟨o, resource, mq, opens⟩ := must _ stopped
      cases opens with
      | overflow des =>
        rw [full] at des
        cases des
      | noPtr des =>
        rw [full] at des
        cases des
    · obtain ⟨o, resource, mq, opens⟩ := must _ ends
      rcases opens.done with ⟨-, rfl⟩ | ⟨some_free, -⟩
      · cases runs.symm.trans idle
      · exact some_free full
    · obtain ⟨o, resource, mq, opens⟩ := must _ loops
      cases opens
  · intro some_free m' step
    obtain ⟨k', shows', ends⟩ := step.handled shows inv runs handler
    obtain ⟨o, resource, mq, opens⟩ := must _ ends
    rw [shows'.store]
    rcases opens.done with ⟨full, -⟩ | ⟨-, -, value⟩
    · exact absurd full some_free
    · rw [value, DSOS_ERESOURCENOFD]
      omega

theorem Shows.open_existing_queue (shows : Shows c m k) (old : int32 (args 1) ≠ DSOS_CREATE)
    (exclusive : int32 (args 1) ≠ DSOS_EXCL) (there : m.queue (int32 (args 0)) ≠ none)
    (ends : OpenMessageQueue r (k.enter r DSOS_CALL_OPEN_MQ args) ending) :
    ∃ o resource mq, OpenDescriptor r o resource mq (k.enter r DSOS_CALL_OPEN_MQ args) ending := by
  have id : (k.enter r DSOS_CALL_OPEN_MQ args).intArg r 0 = int32 (args 0) := intArg_enter (by decide)
  have mode : (k.enter r DSOS_CALL_OPEN_MQ args).intArg r 1 = int32 (args 1) := intArg_enter (by decide)
  rw [shows.queue] at there
  cases ends with
  | taken create found => exact absurd (mode.symm.trans create) old
  | exhausted create absent full => exact absurd (mode.symm.trans create) old
  | creates create absent top opens => exact absurd (mode.symm.trans create) old
  | unknown _ absent =>
    rw [id] at absent
    exact absurd absent there
  | shared only found used => exact absurd (mode.symm.trans only) exclusive
  | opens _ found free opens => exact ⟨_, _, _, opens⟩

theorem Shows.open_existing_resource {x : Addr} (shows : Shows c m k)
    (old : ¬ hasFlag (int32 (args 2)) DSOS_CREATE) (exclusive : ¬ hasFlag (int32 (args 2)) DSOS_EXCL)
    (there : m.resource (int32 (args 0)) = some x) (type : (m.store.resource x).type = int32 (args 1))
    (ends : OpenResource r (k.enter r DSOS_CALL_OPEN_RESOURCE args) ending) :
    ∃ o resource mq, OpenDescriptor r o resource mq (k.enter r DSOS_CALL_OPEN_RESOURCE args) ending := by
  have id : (k.enter r DSOS_CALL_OPEN_RESOURCE args).intArg r 0 = int32 (args 0) := intArg_enter (by decide)
  have kind : (k.enter r DSOS_CALL_OPEN_RESOURCE args).intArg r 1 = int32 (args 1) := intArg_enter (by decide)
  have mode : (k.enter r DSOS_CALL_OPEN_RESOURCE args).intArg r 2 = int32 (args 2) := intArg_enter (by decide)
  rw [shows.resource] at there
  rw [shows.store] at type
  cases ends with
  | taken create found => exact absurd (mode ▸ create) old
  | exhausted create absent full => exact absurd (mode ▸ create) old
  | creates create absent top opens => exact absurd (mode ▸ create) old
  | unknown _ absent =>
    rw [id] at absent
    cases there.symm.trans absent
  | mistyped _ found other =>
    rw [id] at found
    cases there.symm.trans found
    exact absurd (type.trans kind.symm) other
  | shared _ found same only used => exact absurd (mode ▸ only) exclusive
  | opens _ found same free opens => exact ⟨_, _, _, opens⟩

end

/-! ## Failed opens -/

/-- What a call of open should do. -/
def OpensLeaveNoTrace (c : Config) (m : Kernel) (r : Addr) (num : Int) (args : Nat → Int) : Prop :=
  num = DSOS_CALL_OPEN_MQ ∨ num = DSOS_CALL_OPEN_RESOURCE → OpensCleanly c m r num args

/-- An object that the call creates has a block, and so has its descriptor. -/
def RoomToCreate (m : Kernel) (num : Int) (args : Nat → Int) : Prop :=
  ∀ p, CreatesObject m num args p → (m.data.pools p).size ≠ 0 ∧ (m.data.pools .descriptor).size ≠ 0

/-- Opens leave no trace exactly when there is room for the object. -/
theorem opens_leave_no_trace (c : Constants) {m : Kernel} (reach : Reachable c.toConfig m) {r : Addr}
    (runs : m.store.running = some r) (num : Int) (args : Nat → Int) :
    OpensLeaveNoTrace c.toConfig m r num args ↔ RoomToCreate m num args := by
  obtain ⟨k, shows, inv, -⟩ := reach.shows
  rw [shows.store] at runs
  have queue : OpensCleanly c.toConfig m r DSOS_CALL_OPEN_MQ args ↔ _ :=
    shows.opens_cleanly inv runs rfl rfl (by decide) fun _ => shows.open_queue_case
  have resource : OpensCleanly c.toConfig m r DSOS_CALL_OPEN_RESOURCE args ↔ _ :=
    shows.opens_cleanly inv runs rfl rfl (by decide) fun _ => shows.open_resource_case
  constructor
  · rintro clean p (⟨rfl, rfl, create, absent⟩ | ⟨rfl, rfl, create, absent⟩)
    · exact queue.mp (clean (.inl rfl)) ⟨create, absent⟩
    · exact resource.mp (clean (.inr rfl)) ⟨create, absent⟩
  · rintro room (rfl | rfl)
    · exact queue.mpr fun new => room _ (.inl ⟨rfl, rfl, new⟩)
    · exact resource.mpr fun new => room _ (.inr ⟨rfl, rfl, new⟩)

/-- The first process, before any queue is created. -/
def no_queue : Observed always fun m => m.store.running = some (block .pcb 0) ∧
    (m.data.pools .message_queue).size = 4 ∧ (m.data.pools .descriptor).size = 2048 :=
  observe always [] (by decide +kernel)

theorem opens_leave_no_trace_first : ∃ m, Reachable constants.toConfig m ∧
    OpensLeaveNoTrace constants.toConfig m (block .pcb 0) DSOS_CALL_OPEN_MQ (arguments [5, 1]) := by
  obtain ⟨m, reached, runs, queues, descriptors⟩ := no_queue
  have room : RoomToCreate m DSOS_CALL_OPEN_MQ (arguments [5, 1]) := by
    rintro p (⟨-, rfl, -⟩ | ⟨call, -⟩)
    · rw [queues, descriptors]
      decide
    · exact absurd call (by decide)
  exact ⟨m, reached.reachable, (opens_leave_no_trace constants reached.reachable runs _ _).mpr room⟩

/-- The first process has created as many queues as there are blocks. -/
def queues_spent : Observed always fun m => m.store.running = some (block .pcb 0) ∧
    m.queue 9 = none ∧ (m.data.pools .message_queue).size = 0 :=
  observe always [.syscall DSOS_CALL_OPEN_MQ (arguments [5, 1]), .syscall DSOS_CALL_OPEN_MQ (arguments [6, 1]),
    .syscall DSOS_CALL_OPEN_MQ (arguments [7, 1]), .syscall DSOS_CALL_OPEN_MQ (arguments [8, 1])]
    (by decide +kernel)

/-- One more stops the kernel. -/
theorem open_inserts_null : ¬ ∀ m, Reachable constants.toConfig m → ∀ r, m.store.running = some r →
    ∀ (num : Int) (args : Nat → Int), OpensLeaveNoTrace constants.toConfig m r num args := by
  intro every
  obtain ⟨m, reached, runs, absent, spent⟩ := queues_spent
  obtain ⟨k, shows, inv, -⟩ := reached.reachable.shows
  have clean := every m reached.reachable _ runs DSOS_CALL_OPEN_MQ (arguments [9, 1]) (.inl rfl)
  have queue : OpensCleanly constants.toConfig m _ DSOS_CALL_OPEN_MQ (arguments [9, 1]) ↔ _ :=
    shows.opens_cleanly inv (shows.store ▸ runs) rfl rfl (by decide) fun _ => shows.open_queue_case
  have create : int32 (arguments [9, 1] 1) = DSOS_CREATE := by decide
  have id : int32 (arguments [9, 1] 0) = 9 := by decide
  exact (queue.mp clean ⟨create, by rw [id, absent]⟩).1 spent

/-! ## Capacity -/

/-- Within the limits, an open of an object that exists finds a descriptor. -/
def CapacityMatches (c : Config) (m : Kernel) (r : Addr) (num : Int) (args : Nat → Int) : Prop :=
  WithinLimits c m r → OpensExisting m num args →
    ∀ m', Step c m (.syscall num args) m' → (m'.store.pcb r).syscall_retvalue ≠ DSOS_ERESOURCENOFD

/-- The descriptors that the processes have open. -/
def Kernel.opened (m : Kernel) : Set Addr := {d | ∃ p, d ∈ m.list (.descriptors p)}

/-- Within the limits, fewer descriptors are open than there can be processes. -/
def FewOpen (c : Config) (m : Kernel) (r : Addr) (num : Int) (args : Nat → Int) : Prop :=
  WithinLimits c m r → OpensExisting m num args → m.opened.ncard < c.MAX_NUM_PROCESSES

section
variable {c : Config} {m : Kernel} {k : Scene} {r : Addr}

theorem Shows.opened (shows : Shows c m k) (within : WithinLimits c m r) :
    m.opened.ncard = (k.outstanding c .descriptor).card := by
  have set : m.opened = {d | m.Allocated c d ∧ d.pool = .descriptor} := by
    ext d
    constructor
    · rintro ⟨p, there⟩
      have linked := shows.mem_list.mp there
      exact ⟨(shows.allocated d).mpr (shows.sound.live linked), shows.sound.kind linked⟩
    · rintro ⟨alive, pool⟩
      obtain ⟨p, there, -⟩ := within.closed d pool alive
      exact ⟨p, there⟩
  rw [set, shows.ncard]

theorem Shows.few_open (shows : Shows c m k) (within : WithinLimits c m r) :
    (m.data.pools .descriptor).size ≠ 0 ↔ m.opened.ncard < c.MAX_NUM_PROCESSES := by
  have total := shows.sound.outstanding_add_free .descriptor
  have items : c.num_items .descriptor = c.MAX_NUM_PROCESSES := rfl
  rw [shows.opened within, shows.size]
  omega

/-- The limits allow less than `MAX_NUM_DESCRIPTORS_PER_PROCESS` descriptors for each process. -/
theorem Shows.opened_lt (shows : Shows c m k) (inv : Coherent c k.store.running none k)
    (runs : k.store.running = some r) (within : WithinLimits c m r) :
    m.opened.ncard < c.MAX_NUM_PROCESSES * c.MAX_NUM_DESCRIPTORS_PER_PROCESS := by
  have owned : k.outstanding c .descriptor ⊆
      (k.outstanding c .pcb).biUnion fun p => (k.seq (.descriptors p)).toFinset := by
    intro d member
    obtain ⟨alive, pool⟩ := Scene.mem_outstanding.mp member
    obtain ⟨p, there, allocated, process, -⟩ := within.closed d pool ((shows.allocated d).mpr alive)
    have listed : d ∈ k.seq (.descriptors p) := shows.sound.mem_seq.mpr (shows.mem_list.mp there)
    exact Finset.mem_biUnion.mpr ⟨p, Scene.mem_outstanding.mpr ⟨(shows.allocated p).mp allocated, process⟩,
      List.mem_toFinset.mpr listed⟩
  have held (p : Addr) : (k.seq (.descriptors p)).toFinset.card ≤ (m.list (.descriptors p)).length := by
    rw [shows.list]
    exact List.toFinset_card_le _
  have runner : r ∈ k.outstanding c .pcb := Scene.mem_outstanding.mpr (inv.processes.runs runs)
  have total := shows.sound.outstanding_add_free .pcb
  have items : c.num_items .pcb = c.MAX_NUM_PROCESSES := rfl
  calc m.opened.ncard = (k.outstanding c .descriptor).card := shows.opened within
    _ ≤ ((k.outstanding c .pcb).biUnion fun p => (k.seq (.descriptors p)).toFinset).card := Finset.card_le_card owned
    _ ≤ ∑ p ∈ k.outstanding c .pcb, (k.seq (.descriptors p)).toFinset.card := Finset.card_biUnion_le
    _ < ∑ _p ∈ k.outstanding c .pcb, c.MAX_NUM_DESCRIPTORS_PER_PROCESS :=
        Finset.sum_lt_sum (fun p _ => (held p).trans (within.each p)) ⟨r, runner, (held r).trans_lt within.caller⟩
    _ = (k.outstanding c .pcb).card * c.MAX_NUM_DESCRIPTORS_PER_PROCESS := Finset.sum_const_nat fun _ _ => rfl
    _ ≤ c.MAX_NUM_PROCESSES * c.MAX_NUM_DESCRIPTORS_PER_PROCESS := Nat.mul_le_mul_right _ (by omega)

end

/-- The capacity matches the limits exactly while fewer descriptors are open than there can be processes;
the limits promise `MAX_NUM_DESCRIPTORS_PER_PROCESS` times as many. -/
theorem descriptor_capacity (c : Constants) {m : Kernel} (reach : Reachable c.toConfig m) {r : Addr}
    (runs : m.store.running = some r) (num : Int) (args : Nat → Int) :
    (CapacityMatches c.toConfig m r num args ↔ FewOpen c.toConfig m r num args) ∧
      (WithinLimits c.toConfig m r →
        m.opened.ncard < c.MAX_NUM_PROCESSES * c.MAX_NUM_DESCRIPTORS_PER_PROCESS) := by
  obtain ⟨k, shows, inv, -⟩ := reach.shows
  rw [shows.store] at runs
  refine ⟨imp_congr_right fun within => imp_congr_right fun existing => ?_, shows.opened_lt inv runs⟩
  rw [← shows.few_open within]
  rcases existing with ⟨rfl, old, exclusive, there⟩ | ⟨rfl, old, exclusive, x, there, type⟩
  · exact shows.never_refused inv runs rfl fun _ => shows.open_existing_queue old exclusive there
  · exact shows.never_refused inv runs rfl fun _ => shows.open_existing_resource old exclusive there type

/-- The first process has created one queue. -/
def one_queue : Observed always fun m => m.store.running = some (block .pcb 0) ∧
    (m.data.pools .descriptor).size = 2047 :=
  observe always [.syscall DSOS_CALL_OPEN_MQ (arguments [5, 1])] (by decide +kernel)

theorem descriptor_capacity_again : ∃ m, Reachable constants.toConfig m ∧
    CapacityMatches constants.toConfig m (block .pcb 0) DSOS_CALL_OPEN_MQ (arguments [5, 0]) := by
  obtain ⟨m, reached, runs, descriptors⟩ := one_queue
  obtain ⟨k, shows, -⟩ := reached.reachable.shows
  refine ⟨m, reached.reachable,
    (descriptor_capacity constants reached.reachable runs _ _).1.mpr fun within _ => (shows.few_open within).mp ?_⟩
  rw [descriptors]
  decide

def one_process : Constants where
  MAX_NUM_PROCESSES := 1
  MAX_NUM_RESOURCES := 1
  MAX_NUM_DESCRIPTORS_PER_PROCESS := 32
  MAX_LEN_MESSAGE := 64
  MAX_NUM_MESSAGEQUEUES := 1
  MAX_NUM_MESSAGES := 1
  MESSAGES_EXTRA := 1
  positive := by decide
  descriptors := by decide
  small := by decide

theorem one_descriptor : ∃ m, Reachable one_process.toConfig m ∧ m.store.running = some (block .pcb 0) ∧
    m.list (.descriptors (block .pcb 0)) = [block .descriptor 0] ∧
    (m.store.pcb (block .pcb 0)).status = .Running ∧ m.queue 5 ≠ none ∧
    (m.data.pools .descriptor).size = 0 := by
  have seen : (((Outcome.result ((disastrOS_start 0 0 false).run heap trial_fuel (boot one_process.toConfig))).bind
      (trial_from one_process.toConfig always [.syscall DSOS_CALL_OPEN_MQ (arguments [5, 1])])).any fun m =>
        m.store.running = some (block .pcb 0) ∧ m.list (.descriptors (block .pcb 0)) = [block .descriptor 0] ∧
        (m.store.pcb (block .pcb 0)).status = .Running ∧ m.queue 5 ≠ none ∧
        (m.data.pools .descriptor).size = 0) = true := by decide +kernel
  obtain ⟨m, run, holds⟩ := (Option.any_eq_true ..).mp seen
  obtain ⟨j, result, rest⟩ := Option.bind_eq_some_iff.mp run
  exact ⟨m, (trial_from_reaches (start_reaches result) rest).reachable, of_decide_eq_true holds⟩

/-- It holds one descriptor of thirty-two, and gets no second one. -/
theorem capacity_mismatch : ¬ ∀ (c : Constants) (m : Kernel), Reachable c.toConfig m →
    ∀ r, m.store.running = some r → ∀ (num : Int) (args : Nat → Int), CapacityMatches c.toConfig m r num args := by
  intro every
  obtain ⟨m, reach, runs, held, status, there, spent⟩ := one_descriptor
  obtain ⟨k, shows, inv, -⟩ := reach.shows
  have few : (blocks one_process.toConfig).card < 32 := by decide +kernel
  have short (h : Head) : (m.list h).length < one_process.MAX_NUM_DESCRIPTORS_PER_PROCESS := by
    rw [shows.list]
    exact lt_of_le_of_lt (inv.sound.length_seq_le h) few
  have within : WithinLimits one_process.toConfig m (block .pcb 0) := by
    refine ⟨fun p => le_of_lt (short _), short _, fun d pool alive => ⟨block .pcb 0, ?_, ?_, rfl, by simp [status]⟩⟩
    · obtain ⟨i, small, same⟩ := mem_blocks.mp ((shows.allocated d).mp alive).1
      rw [pool] at small same
      have only : i = 0 := Nat.lt_one_iff.mp small
      rw [held, same, only, List.mem_singleton]
    · exact (shows.allocated _).mpr (inv.processes.runs (shows.store ▸ runs)).1
  have mode : int32 (arguments [5, 0] 1) = 0 := by decide
  have id : int32 (arguments [5, 0] 0) = 5 := by decide
  have old : int32 (arguments [5, 0] 1) ≠ DSOS_CREATE := by
    rw [mode]
    decide
  have shared : int32 (arguments [5, 0] 1) ≠ DSOS_EXCL := by
    rw [mode]
    decide
  have known : m.queue (int32 (arguments [5, 0] 0)) ≠ none := by rwa [id]
  have finds := every one_process m reach _ runs DSOS_CALL_OPEN_MQ (arguments [5, 0]) within
    (.inl ⟨rfl, old, shared, known⟩)
  have queue : _ ↔ (m.data.pools .descriptor).size ≠ 0 :=
    shows.never_refused inv (shows.store ▸ runs) rfl fun _ => shows.open_existing_queue old shared known
  exact queue.mp finds spent

end DisastrOS
