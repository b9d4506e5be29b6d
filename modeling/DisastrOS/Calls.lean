import Mathlib.Logic.Relation
import DisastrOS.Scene

/-! The outcomes of each handler, and of each event, on scenes. -/

set_option autoImplicit false

namespace DisastrOS

open Refinement

/-- The answer of a handler is in the store, so it ends in a scene or stops the kernel. -/
abbrev Ending := Outcome Stop Scene Unit

namespace Scene
variable (k : Scene)

/-- An argument of the process, as a `long` and as an `int`. -/
def arg (r : Addr) (i : Nat) : Int := (k.store.pcb r).syscall_args i
def intArg (r : Addr) (i : Nat) : Int := int32 (k.arg r i)

/-- The objects that `MessageQueueList_byId`, `ResourceList_byId`, `DescriptorList_byFd`
and `PCBPtr_byPID` find. -/
def queue (id : Int) : Pointer := (k.seq .mq_list).find? fun q => (k.store.mq q).id = id
def resource (id : Int) : Pointer :=
  (k.seq .resources_list).find? fun x => (k.store.resource x).id = id
def descriptor (r : Addr) (fd : Int) : Pointer :=
  (k.seq (.descriptors r)).find? fun d => (k.store.descriptor d).fd = fd
def entry (q : Addr) (pid : Int) : Pointer :=
  (k.seq (.children q)).find? fun e =>
    match k.store.pcb_ptr e with
    | some p => (k.store.pcb p).pid = pid
    | none => false

/-- The timer after which `TimerList_add` links one that is due at `awakening_time`. -/
def placeTimer (awakening_time : Int) : Pointer :=
  ((k.seq .timer_list).takeWhile fun t =>
    (k.store.timer_item t).awakening_time ≤ awakening_time).getLast?

def answers (pid_to_wait : Int) (e : Addr) : Bool :=
  match k.store.pcb_ptr e with
  | some p =>
      pid_to_wait = 0 ∧ (k.store.pcb p).status = .Zombie ∨
        pid_to_wait ≠ 0 ∧ (k.store.pcb p).pid = pid_to_wait
  | none => false

def awaited (r : Addr) (pid_to_wait : Int) : Pointer :=
  ((k.seq (.children r)).find? (k.answers pid_to_wait)).or (k.seq (.children r)).getLast?

/-- `q` is blocked in a `wait` that the death of the process `pid` ends. -/
def AwaitsDeath (q : Addr) (pid : Int) : Prop :=
  (k.store.pcb q).status = .Waiting ∧ (k.store.pcb q).syscall_num = DSOS_CALL_WAIT ∧
    ((k.store.pcb q).syscall_args 0 = 0 ∨ (k.store.pcb q).syscall_args 0 = pid)

end Scene

open Relation (ReflTransGen)

/-! ## Scheduling -/

inductive WakeRound : Scene × Pointer → Scene × Pointer → Prop where
  | wake {k : Scene} {prev : Pointer} {t p : Addr} (timer : (k.seq .timer_list).head? = some t)
      (due : (k.store.timer_item t).awakening_time ≤ k.store.disastrOS_time)
      (owner : (k.store.timer_item t).pcb = some p) :
      WakeRound (k, prev) (k.wakeSleeper prev t p, some p)

/-- Wake every process whose timer has elapsed. -/
def Wakes (k k' : Scene) : Prop :=
  (∃ prev, ReflTransGen WakeRound (k, none) (k', prev)) ∧
    ∀ t, (k'.seq .timer_list).head? = some t →
      k'.store.disastrOS_time < (k'.store.timer_item t).awakening_time

inductive Schedule (r : Addr) (k : Scene) : Ending → Prop where
  | alone {k' : Scene} (wakes : Wakes k k') (idle : k'.seq .ready_list = []) :
      Schedule r k (.done () k')
  | rotates {k' : Scene} {n : Addr} (wakes : Wakes k k')
      (ready : (k'.seq .ready_list).head? = some n) : Schedule r k (.done () (k'.rotate r n))

inductive Sleep (r : Addr) (k : Scene) : Ending → Prop where
  | refused (full : k.free .timer_item = []) : Sleep r k (.done () (k.answer r DSOS_ESLEEP))
  | dozes {t : Addr} (timer : (k.free .timer_item).head? = some t)
      {wake : Int} (time : wake = int32 (k.store.disastrOS_time + k.intArg r 0))
      {n : Addr} (ready : (k.seq .ready_list).head? = some n) :
      Sleep r k (.done () (((k.startTimer (k.placeTimer wake) t r wake).block r).dispatch n id))
  | allSleep {t : Addr} (timer : (k.free .timer_item).head? = some t)
      {wake : Int} (time : wake = int32 (k.store.disastrOS_time + k.intArg r 0))
      (idle : k.seq .ready_list = []) :
      Sleep r k (.done () (((k.startTimer (k.placeTimer wake) t r wake).block r).run none))

/-! ## Processes -/

/-- `finish` is what `internal_spawn` does to the child besides. -/
inductive NewChild (finish : Addr → Scene → Scene) (r : Addr) (k : Scene) : Ending → Prop where
  | noPCB (full : k.free .pcb = []) : NewChild finish r k (.fault (.null .pcb))
  | overflow {p : Addr} (pcb : (k.free .pcb).head? = some p) (spent : k.store.last_pid = INT_MAX) :
      NewChild finish r k (.fault .overflow)
  | noPCBPtr {p : Addr} (pcb : (k.free .pcb).head? = some p) (unspent : k.store.last_pid ≠ INT_MAX)
      (full : k.free .pcb_ptr = []) : NewChild finish r k (.fault (.null .pcb_ptr))
  | child {p e : Addr} (pcb : (k.free .pcb).head? = some p)
      (unspent : k.store.last_pid ≠ INT_MAX) (ptr : (k.free .pcb_ptr).head? = some e) :
      NewChild finish r k (.done () (finish p (k.newChild r p e)))

def Fork : Addr → Scene → Ending → Prop := NewChild fun _ k => k

def Spawn (r : Addr) : Scene → Ending → Prop :=
  NewChild (fun p k => k.setPCB p fun q =>
    { q with cpu_state := .made q.pid (k.arg r 0) (k.arg r 1) }) r

inductive Wait (r : Addr) (k : Scene) : Ending → Prop where
  | childless (none : k.seq (.children r) = []) : Wait r k (.done () (k.answer r DSOS_EWAIT))
  | reaps {e z : Addr} (found : k.awaited r (k.intArg r 0) = some e)
      (child : k.store.pcb_ptr e = some z) (zombie : (k.store.pcb z).status = .Zombie) :
      Wait r k (.done () (k.reap r e z (k.arg r 1)))
  | blocks {e z n : Addr} (found : k.awaited r (k.intArg r 0) = some e)
      (child : k.store.pcb_ptr e = some z) (alive : (k.store.pcb z).status ≠ .Zombie)
      (ready : (k.seq .ready_list).head? = some n) :
      Wait r k (.done () ((k.block r).dispatch n id))
  | stuck {e z : Addr} (found : k.awaited r (k.intArg r 0) = some e)
      (child : k.store.pcb_ptr e = some z) (alive : (k.store.pcb z).status ≠ .Zombie)
      (idle : k.seq .ready_list = []) : Wait r k (.fault .detachNull)

inductive ReparentRound (r i : Addr) (k : Scene) : Scene → Prop where
  | adopt {e p : Addr} (first : (k.seq (.children r)).head? = some e)
      (child : k.store.pcb_ptr e = some p) : ReparentRound r i k (k.reparent r i e p)

/-- What the dying process leaves to `init`, after it stored its exit value. -/
def Reparents (r i : Addr) (k k' : Scene) : Prop :=
  ReflTransGen (ReparentRound r i)
    (k.setPCB r fun p => { p with return_value := int32 (p.syscall_args 0) }) k' ∧
    k'.seq (.children r) = []

inductive DropRound (r : Addr) (k : Scene) : Scene → Prop where
  | drop {d q e : Addr} (first : (k.seq (.descriptors r)).head? = some d)
      (mq : (k.store.descriptor d).mq = some q) (ptr : (k.store.descriptor d).ptr = some e) :
      DropRound r k (k.dropDescriptor r d q e)

inductive Exit (r : Addr) (k : Scene) : Ending → Prop where
  | forever (init : k.store.init_pcb = some r) (children : k.seq (.children r) ≠ []) :
      Exit r k .exhausted
  | orphan {i : Addr} {k' : Scene} (init : k.store.init_pcb = some i) (reparents : Reparents r i k k')
      (parent : (k.store.pcb r).parent = none) : Exit r k (.fault (.null .pcb))
  | buried {i q n : Addr} {k' : Scene} (init : k.store.init_pcb = some i)
      (reparents : Reparents r i k k') (parent : (k.store.pcb r).parent = some q)
      (unawaited : ¬ (k'.bury r q).AwaitsDeath q (k.store.pcb r).pid)
      (ready : (k'.seq .ready_list).head? = some n) :
      Exit r k (.done () ((k'.bury r q).dispatch n fun _ => .Running))
  | stuck {i q : Addr} {k' : Scene} (init : k.store.init_pcb = some i)
      (reparents : Reparents r i k k') (parent : (k.store.pcb r).parent = some q)
      (unawaited : ¬ (k'.bury r q).AwaitsDeath q (k.store.pcb r).pid)
      (idle : k'.seq .ready_list = []) : Exit r k (.fault .detachNull)
  | stray {i q : Addr} {k' : Scene} (init : k.store.init_pcb = some i)
      (reparents : Reparents r i k k') (parent : (k.store.pcb r).parent = some q)
      (awaited : (k'.bury r q).AwaitsDeath q (k.store.pcb r).pid)
      (absent : (k'.bury r q).entry q (k.store.pcb r).pid = none) : Exit r k (.fault .detachNull)
  | otherKind {i q e d : Addr} {k' k'' : Scene} (init : k.store.init_pcb = some i)
      (reparents : Reparents r i k k') (parent : (k.store.pcb r).parent = some q)
      (awaited : (k'.bury r q).AwaitsDeath q (k.store.pcb r).pid)
      (entry : (k'.bury r q).entry q (k.store.pcb r).pid = some e)
      (drops : ReflTransGen (DropRound r) ((k'.bury r q).resumeParent r q e) k'')
      (first : (k''.seq (.descriptors r)).head? = some d)
      (resource : (k''.store.descriptor d).mq = none) : Exit r k (.fault (.null .message_queue))
  | resumes {i q e : Addr} {k' k'' : Scene} (init : k.store.init_pcb = some i)
      (reparents : Reparents r i k k') (parent : (k.store.pcb r).parent = some q)
      (awaited : (k'.bury r q).AwaitsDeath q (k.store.pcb r).pid)
      (entry : (k'.bury r q).entry q (k.store.pcb r).pid = some e)
      (drops : ReflTransGen (DropRound r) ((k'.bury r q).resumeParent r q e) k'')
      (closed : k''.seq (.descriptors r) = []) : Exit r k (.done () (k''.vanish r q))

inductive Shutdown : Addr → Scene → Ending → Prop where
  | exit (r : Addr) (k : Scene) : Shutdown r k (.fault .exit)

/-! ## Resources and descriptors -/

/-- The end of an open that has its object `o`. -/
inductive OpenDescriptor (r o : Addr) (resource mq : Pointer) (k : Scene) : Ending → Prop where
  | refused (full : k.free .descriptor = []) :
      OpenDescriptor r o resource mq k (.done () (k.answer r DSOS_ERESOURCENOFD))
  | overflow {d : Addr} (des : (k.free .descriptor).head? = some d)
      (spent : (k.store.pcb r).last_fd = INT_MAX) :
      OpenDescriptor r o resource mq k (.fault .overflow)
  | noPtr {d : Addr} (des : (k.free .descriptor).head? = some d)
      (unspent : (k.store.pcb r).last_fd ≠ INT_MAX) (full : k.free .descriptor_ptr = []) :
      OpenDescriptor r o resource mq k (.fault .insertNull)
  | opened {d e : Addr} (des : (k.free .descriptor).head? = some d)
      (unspent : (k.store.pcb r).last_fd ≠ INT_MAX)
      (ptr : (k.free .descriptor_ptr).head? = some e) :
      OpenDescriptor r o resource mq k (.done () (k.openDescriptor r o d e resource mq))

inductive OpenResource (r : Addr) (k : Scene) : Ending → Prop where
  | taken {x : Addr} (create : hasFlag (k.intArg r 2) DSOS_CREATE)
      (found : k.resource (k.intArg r 0) = some x) :
      OpenResource r k (.done () (k.answer r DSOS_ERESOURCECREATE))
  | exhausted (create : hasFlag (k.intArg r 2) DSOS_CREATE)
      (absent : k.resource (k.intArg r 0) = none) (full : k.free .resource = []) :
      OpenResource r k (.fault .insertNull)
  | creates {x : Addr} {ending : Ending} (create : hasFlag (k.intArg r 2) DSOS_CREATE)
      (absent : k.resource (k.intArg r 0) = none) (top : (k.free .resource).head? = some x)
      (opens : OpenDescriptor r x (some x) none
        (k.newResource x (k.intArg r 0) (k.intArg r 1)) ending) : OpenResource r k ending
  | unknown (old : ¬ hasFlag (k.intArg r 2) DSOS_CREATE)
      (absent : k.resource (k.intArg r 0) = none) :
      OpenResource r k (.done () (k.answer r DSOS_ERESOURCEOPEN))
  | mistyped {x : Addr} (old : ¬ hasFlag (k.intArg r 2) DSOS_CREATE)
      (found : k.resource (k.intArg r 0) = some x)
      (type : (k.store.resource x).type ≠ k.intArg r 1) :
      OpenResource r k (.done () (k.answer r DSOS_ERESOURCEOPEN))
  | shared {x : Addr} (old : ¬ hasFlag (k.intArg r 2) DSOS_CREATE)
      (found : k.resource (k.intArg r 0) = some x)
      (type : (k.store.resource x).type = k.intArg r 1)
      (exclusive : hasFlag (k.intArg r 2) DSOS_EXCL) (used : k.seq (.descriptors_ptrs x) ≠ []) :
      OpenResource r k (.done () (k.answer r DSOS_ERESOURCENOEXCL))
  | opens {x : Addr} {ending : Ending} (old : ¬ hasFlag (k.intArg r 2) DSOS_CREATE)
      (found : k.resource (k.intArg r 0) = some x)
      (type : (k.store.resource x).type = k.intArg r 1)
      (free : ¬ (hasFlag (k.intArg r 2) DSOS_EXCL ∧ k.seq (.descriptors_ptrs x) ≠ []))
      (opens : OpenDescriptor r x (some x) none k ending) : OpenResource r k ending

/-- `object` and `which` tell a descriptor of a resource from one of a queue. -/
inductive Close (object : Pool) (which : Descriptor → Pointer) (r : Addr) (k : Scene) :
    Ending → Prop where
  | unknown (absent : k.descriptor r (k.intArg r 0) = none) :
      Close object which r k (.done () (k.answer r DSOS_ERESOURCECLOSE))
  | otherKind {d : Addr} (found : k.descriptor r (k.intArg r 0) = some d)
      (other : which (k.store.descriptor d) = none) : Close object which r k (.fault (.null object))
  | closed {d o e : Addr} (found : k.descriptor r (k.intArg r 0) = some d)
      (kind : which (k.store.descriptor d) = some o) (ptr : (k.store.descriptor d).ptr = some e) :
      Close object which r k (.done () (k.closeDescriptor r o d e))

def CloseResource : Addr → Scene → Ending → Prop := Close .resource (·.resource)

/-- `global` is the list the object is looked up in, by `find`. -/
inductive Destroy (global : Head) (find : Scene → Int → Pointer) (r : Addr) (k : Scene) :
    Ending → Prop where
  | unknown (absent : find k (k.intArg r 0) = none) :
      Destroy global find r k (.done () (k.answer r DSOS_ERESOURCECLOSE))
  | used {x : Addr} (found : find k (k.intArg r 0) = some x)
      (open_ : k.seq (.descriptors_ptrs x) ≠ []) :
      Destroy global find r k (.done () (k.answer r DSOS_ERESOURCEINUSE))
  | destroyed {x : Addr} (found : find k (k.intArg r 0) = some x)
      (closed : k.seq (.descriptors_ptrs x) = []) :
      Destroy global find r k (.done () (k.destroy r global x))

def DestroyResource : Addr → Scene → Ending → Prop := Destroy .resources_list Scene.resource

/-! ## Message queues -/

inductive OpenMessageQueue (r : Addr) (k : Scene) : Ending → Prop where
  | taken {q : Addr} (create : k.intArg r 1 = DSOS_CREATE)
      (found : k.queue (k.intArg r 0) = some q) :
      OpenMessageQueue r k (.done () (k.answer r DSOS_ERESOURCECREATE))
  | exhausted (create : k.intArg r 1 = DSOS_CREATE) (absent : k.queue (k.intArg r 0) = none)
      (full : k.free .message_queue = []) : OpenMessageQueue r k (.fault .insertNull)
  | creates {q : Addr} {ending : Ending} (create : k.intArg r 1 = DSOS_CREATE)
      (absent : k.queue (k.intArg r 0) = none) (top : (k.free .message_queue).head? = some q)
      (opens : OpenDescriptor r q none (some q) (k.newQueue q (k.intArg r 0)) ending) :
      OpenMessageQueue r k ending
  | unknown (old : k.intArg r 1 ≠ DSOS_CREATE) (absent : k.queue (k.intArg r 0) = none) :
      OpenMessageQueue r k (.done () (k.answer r DSOS_ERESOURCEOPEN))
  | shared {q : Addr} (exclusive : k.intArg r 1 = DSOS_EXCL)
      (found : k.queue (k.intArg r 0) = some q) (used : k.seq (.descriptors_ptrs q) ≠ []) :
      OpenMessageQueue r k (.done () (k.answer r DSOS_ERESOURCENOEXCL))
  | opens {q : Addr} {ending : Ending} (old : k.intArg r 1 ≠ DSOS_CREATE)
      (found : k.queue (k.intArg r 0) = some q)
      (free : ¬ (k.intArg r 1 = DSOS_EXCL ∧ k.seq (.descriptors_ptrs q) ≠ []))
      (opens : OpenDescriptor r q none (some q) k ending) : OpenMessageQueue r k ending

def CloseMessageQueue : Addr → Scene → Ending → Prop := Close .message_queue (·.mq)

def DestroyMessageQueue : Addr → Scene → Ending → Prop := Destroy .mq_list Scene.queue

inductive Suspend (r : Addr) (mq : Pointer) (waiting : Addr → Head) (k : Scene) :
    Ending → Prop where
  | noPtr (full : k.free .pcb_ptr = []) : Suspend r mq waiting k (.fault (.null .pcb_ptr))
  | noQueue {w : Addr} (ptr : (k.free .pcb_ptr).head? = some w) (absent : mq = none) :
      Suspend r mq waiting k (.fault (.null .message_queue))
  | stuck {w q : Addr} (ptr : (k.free .pcb_ptr).head? = some w) (found : mq = some q)
      (idle : k.seq .ready_list = []) : Suspend r mq waiting k (.fault .detachNull)
  | suspended {w q n : Addr} (ptr : (k.free .pcb_ptr).head? = some w) (found : mq = some q)
      (ready : (k.seq .ready_list).head? = some n) :
      Suspend r mq waiting k
        (.done () ((k.enqueue r w (waiting q)).dispatch n fun _ => .Running))

/-- The loops that wake the processes waiting on a queue. -/
inductive WakeWriterRound (q : Addr) (k : Scene) : Scene → Prop where
  | wake {w p : Addr} (first : (k.seq (.waiting_to_write q)).head? = some w)
      (writer : k.store.pcb_ptr w = some p) : WakeWriterRound q k (k.wakeWriter q w p)

inductive WakeReaderRound (q : Addr) (k : Scene) : Scene → Prop where
  | wake {w p : Addr} (first : (k.seq (.waiting_to_read q)).head? = some w)
      (reader : k.store.pcb_ptr w = some p) :
      WakeReaderRound q k (k.wakeWaiter (.waiting_to_read q) w p)

def WakeWriters (q : Addr) (k k' : Scene) : Prop :=
  ReflTransGen (WakeWriterRound q) k k' ∧ k'.seq (.waiting_to_write q) = []

def WakeReaders (q : Addr) (k k' : Scene) : Prop :=
  ReflTransGen (WakeReaderRound q) k k' ∧ k'.seq (.waiting_to_read q) = []

inductive Read (r : Addr) (k : Scene) : Ending → Prop where
  | waits {ending : Ending} (empty : ∀ q, k.queue (k.intArg r 0) = some q → k.seq (.messages q) = [])
      (suspends : Suspend r (k.queue (k.intArg r 0)) .waiting_to_read k ending) : Read r k ending
  | short {q m : Addr} (found : k.queue (k.intArg r 0) = some q)
      (first : (k.seq (.messages q)).head? = some m)
      (long : (k.store.message m).length > k.intArg r 2) : Read r k (.done () (k.answer r (-15)))
  | nullUser {q m : Addr} {k' : Scene} (found : k.queue (k.intArg r 0) = some q)
      (first : (k.seq (.messages q)).head? = some m)
      (fits : (k.store.message m).length ≤ k.intArg r 2)
      (wakes : WakeWriters q (k.detach (.messages q) m) k')
      (null : 0 < (k.store.message m).length ∧ k.arg r 1 = 0) : Read r k (.fault .nullUser)
  | takes {q m : Addr} {k' : Scene} (found : k.queue (k.intArg r 0) = some q)
      (first : (k.seq (.messages q)).head? = some m)
      (fits : (k.store.message m).length ≤ k.intArg r 2)
      (wakes : WakeWriters q (k.detach (.messages q) m) k')
      (user : ¬ (0 < (k.store.message m).length ∧ k.arg r 1 = 0)) :
      Read r k (.done () (k'.finishRead r q m (k.arg r 1)))

inductive Write (c : Config) (r : Addr) (k : Scene) : Ending → Prop where
  | tooLong (long : k.intArg r 2 > c.MAX_LEN_MESSAGE) : Write c r k (.done () (k.answer r (-146)))
  | unknown (fits : k.intArg r 2 ≤ c.MAX_LEN_MESSAGE) (absent : k.queue (k.intArg r 0) = none) :
      Write c r k (.done () (k.answer r DSOS_ERESOURCENOFD))
  | waits {q : Addr} {ending : Ending} (fits : k.intArg r 2 ≤ c.MAX_LEN_MESSAGE)
      (found : k.queue (k.intArg r 0) = some q)
      (full : (k.store.mq q).num_written = c.MAX_NUM_MESSAGES)
      (suspends : Suspend r (some q) .waiting_to_write k ending) : Write c r k ending
  | noBlock {q : Addr} (fits : k.intArg r 2 ≤ c.MAX_LEN_MESSAGE)
      (found : k.queue (k.intArg r 0) = some q)
      (room : (k.store.mq q).num_written ≠ c.MAX_NUM_MESSAGES) (spent : k.free .message = []) :
      Write c r k (.fault .insertNull)
  | nullUser {q m : Addr} (fits : k.intArg r 2 ≤ c.MAX_LEN_MESSAGE)
      (found : k.queue (k.intArg r 0) = some q)
      (room : (k.store.mq q).num_written ≠ c.MAX_NUM_MESSAGES)
      (block : (k.free .message).head? = some m) (null : 0 < k.intArg r 2 ∧ k.arg r 1 = 0) :
      Write c r k (.fault .nullUser)
  | writes {q m : Addr} {k' : Scene} (fits : k.intArg r 2 ≤ c.MAX_LEN_MESSAGE)
      (found : k.queue (k.intArg r 0) = some q)
      (room : (k.store.mq q).num_written ≠ c.MAX_NUM_MESSAGES)
      (block : (k.free .message).head? = some m) (user : ¬ (0 < k.intArg r 2 ∧ k.arg r 1 = 0))
      (wakes : WakeReaders q (k.post q m (k.arg r 1) (k.intArg r 2)) k') :
      Write c r k (.done () (k'.finishWrite r q (k.intArg r 2)))

/-! ## Events -/

/-- The outcomes of the handler that `syscall_vector` names. -/
def Handles (c : Config) (n : Int) : Option (Addr → Scene → Ending → Prop) :=
  if n = DSOS_CALL_PREEMPT then some Schedule
  else if n = DSOS_CALL_FORK then some Fork
  else if n = DSOS_CALL_SPAWN then some Spawn
  else if n = DSOS_CALL_WAIT then some Wait
  else if n = DSOS_CALL_EXIT then some Exit
  else if n = DSOS_CALL_SLEEP then some Sleep
  else if n = DSOS_CALL_OPEN_RESOURCE then some OpenResource
  else if n = DSOS_CALL_CLOSE_RESOURCE then some CloseResource
  else if n = DSOS_CALL_DESTROY_RESOURCE then some DestroyResource
  else if n = DSOS_CALL_SHUTDOWN then some Shutdown
  else if n = DSOS_CALL_OPEN_MQ then some OpenMessageQueue
  else if n = DSOS_CALL_CLOSE_MQ then some CloseMessageQueue
  else if n = DSOS_CALL_WRITE_MQ then some (Write c)
  else if n = DSOS_CALL_READ_MQ then some Read
  else if n = DSOS_CALL_DESTROY_MQ then some DestroyMessageQueue
  else none

/-- The entries of `Handles`. -/
inductive Entry (c : Config) : Int → (Addr → Scene → Ending → Prop) → Prop where
  | preempt : Entry c DSOS_CALL_PREEMPT Schedule
  | fork : Entry c DSOS_CALL_FORK Fork
  | spawn : Entry c DSOS_CALL_SPAWN Spawn
  | wait : Entry c DSOS_CALL_WAIT Wait
  | exit : Entry c DSOS_CALL_EXIT Exit
  | sleep : Entry c DSOS_CALL_SLEEP Sleep
  | openResource : Entry c DSOS_CALL_OPEN_RESOURCE OpenResource
  | closeResource : Entry c DSOS_CALL_CLOSE_RESOURCE CloseResource
  | destroyResource : Entry c DSOS_CALL_DESTROY_RESOURCE DestroyResource
  | shutdown : Entry c DSOS_CALL_SHUTDOWN Shutdown
  | openMessageQueue : Entry c DSOS_CALL_OPEN_MQ OpenMessageQueue
  | closeMessageQueue : Entry c DSOS_CALL_CLOSE_MQ CloseMessageQueue
  | write : Entry c DSOS_CALL_WRITE_MQ (Write c)
  | read : Entry c DSOS_CALL_READ_MQ Read
  | destroyMessageQueue : Entry c DSOS_CALL_DESTROY_MQ DestroyMessageQueue

theorem handler_entry {c : Config} {n : Int} {H : Addr → Scene → Ending → Prop}
    (handler : Handles c n = some H) : Entry c n H := by
  have entry {p : Prop} [Decidable p] {H' : Addr → Scene → Ending → Prop} {rest : Option (Addr → Scene → Ending → Prop)}
      (here : p → H' = H → Entry c n H) (others : rest = some H → Entry c n H) :
      (if p then some H' else rest) = some H → Entry c n H := by
    intro found
    split at found
    · exact here ‹p› (Option.some.inj found)
    · exact others found
  revert handler
  unfold Handles
  iterate 15 refine entry (by rintro rfl rfl; constructor) ?_
  exact nofun

/-- The arguments are stored and the context of the caller is saved. -/
def Scene.enter (k : Scene) (r : Addr) (num : Int) (args : Nat → Int) : Scene :=
  k.setPCB r fun p =>
    { p with
      syscall_args := storeArgs p.syscall_args args (syscall_numarg num)
      syscall_num := num
      cpu_state := .swapped p.pid }

def Scene.tick (k : Scene) (r : Addr) : Scene :=
  (k.setPCB r fun p => { p with cpu_state := .swapped p.pid }).update fun s =>
    { s with disastrOS_time := int32 (s.disastrOS_time + 1) }

/-- The processor leaves the kernel. -/
inductive Proceeds (k : Scene) : Ending → Prop where
  | resumes {r : Addr} (running : k.store.running = some r) (set : (k.store.pcb r).cpu_state ≠ .unset) :
      Proceeds k (.done () k)
  | noContext {r : Addr} (running : k.store.running = some r) (unset : (k.store.pcb r).cpu_state = .unset) :
      Proceeds k (.fault .noContext)
  | noPCB (idle : k.store.running = none) (full : k.free .pcb = []) : Proceeds k (.fault (.null .pcb))
  | overflow {p : Addr} (idle : k.store.running = none) (pcb : (k.free .pcb).head? = some p)
      (spent : k.store.last_pid = INT_MAX) : Proceeds k (.fault .overflow)
  | restarts {p : Addr} (idle : k.store.running = none) (pcb : (k.free .pcb).head? = some p)
      (unspent : k.store.last_pid ≠ INT_MAX) : Proceeds k (.done () (k.restart p))

inductive Reacts (c : Config) (k : Scene) : Event → Ending → Prop where
  | user (memory : Int → UInt8) :
      Reacts c k (.user memory) (.done () (k.update fun s => { s with memory := memory }))
  | nobody {num : Int} {args : Nat → Int} (idle : k.store.running = none) :
      Reacts c k (.syscall num args) (.fault .assertion)
  | outOfRange {num : Int} {args : Nat → Int} {r : Addr} (running : k.store.running = some r)
      (range : num < 0 ∨ num > DSOS_MAX_SYSCALLS) : Reacts c k (.syscall num args) (.done () k)
  | outOfBounds {num : Int} {args : Nat → Int} {r : Addr} (running : k.store.running = some r)
      (bound : num = DSOS_MAX_SYSCALLS) : Reacts c k (.syscall num args) (.fault .outOfBounds)
  | unknown {num : Int} {args : Nat → Int} {r : Addr} (running : k.store.running = some r)
      (range : 0 ≤ num ∧ num < DSOS_MAX_SYSCALLS) (absent : Handles c num = none) :
      Reacts c k (.syscall num args)
        (.done () ((k.enter r num args).answer r DSOS_ESYSCALL_NOT_IMPLEMENTED))
  | handled {num : Int} {args : Nat → Int} {r : Addr} {k' : Scene}
      {H : Addr → Scene → Ending → Prop} (running : k.store.running = some r)
      (handler : Handles c num = some H) (ends : H r (k.enter r num args) (.done () k'))
      (logged : k'.store.log_file = true → k'.store.running ≠ none) :
      Reacts c k (.syscall num args) (.done () k')
  | unlogged {num : Int} {args : Nat → Int} {r : Addr} {k' : Scene}
      {H : Addr → Scene → Ending → Prop} (running : k.store.running = some r)
      (handler : Handles c num = some H) (ends : H r (k.enter r num args) (.done () k'))
      (logs : k'.store.log_file = true) (idle : k'.store.running = none) :
      Reacts c k (.syscall num args) (.fault (.null .pcb))
  | stopped {num : Int} {args : Nat → Int} {r : Addr} {stop : Stop}
      {H : Addr → Scene → Ending → Prop} (running : k.store.running = some r)
      (handler : Handles c num = some H) (stops : H r (k.enter r num args) (.fault stop)) :
      Reacts c k (.syscall num args) (.fault stop)
  | diverges {num : Int} {args : Nat → Int} {r : Addr}
      {H : Addr → Scene → Ending → Prop} (running : k.store.running = some r)
      (handler : Handles c num = some H) (loops : H r (k.enter r num args) .exhausted) :
      Reacts c k (.syscall num args) .exhausted
  | tick {r : Addr} {k' : Scene} (running : k.store.running = some r)
      (schedules : Schedule r (k.tick r) (.done () k')) : Reacts c k .tick (.done () k')
  | lateTick (idle : k.store.running = none) : Reacts c k .tick (.fault (.null .pcb))
  | proceeds {ending : Ending} (proceeds : Proceeds k ending) : Reacts c k .proceed ending

end DisastrOS
