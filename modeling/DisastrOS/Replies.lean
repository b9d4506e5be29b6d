import DisastrOS.Behaviour
import DisastrOS.Lifetimes
import DisastrOS.Wakeups

/-! What the handler of every system call replies, told from the state it is called in.

A handler reads the lists, the pools and the records of the caller before it changes
them. Its reply is a function of these.
-/

set_option autoImplicit false

namespace DisastrOS

open Refinement
open Relation (ReflTransGen)

/-- What becomes of the caller: it runs on with an answer, goes to sleep, is dead,
stops the kernel or makes it loop. When nobody is left to run while it sleeps, a
first process starts over with the given pid. -/
inductive Reply where
  | returns (value : Int)
  | waits (next : Pointer)
  | dies (next : Addr)
  | startsOver (pid : Int)
  | stops (stop : Stop)
  | loops
  deriving DecidableEq

instance (m : Kernel) (r q : Addr) : Decidable (WaitingParent m r q) :=
  inferInstanceAs (Decidable (_ ∧ _ ∧ _ ∧ (_ ∨ _)))

namespace Kernel
variable (c : Config) (m : Kernel) (r : Addr) (args : Nat → Int)

def childReply : Reply :=
  if (m.data.pools .pcb).size = 0 then .stops (.null .pcb)
  else if m.store.last_pid = INT_MAX then .stops .overflow
  else if (m.data.pools .pcb_ptr).size = 0 then .stops (.null .pcb_ptr)
  else .returns m.store.last_pid

def waitReply : Reply :=
  match m.awaitedProcess args with
  | none => .returns DSOS_EWAIT
  | some z =>
    if (m.store.pcb z).status = .Zombie then .returns (m.store.pcb z).pid
    else if m.list .ready_list = [] then .stops .detachNull
    else .waits (m.list .ready_list).head?

/-- When nobody is left to run, the line in the log after the handler has no process to name. -/
def sleepReply : Reply :=
  if (m.data.pools .timer_item).size = 0 then .returns DSOS_ESLEEP
  else if m.list .ready_list = [] ∧ m.store.log_file = true then .stops (.null .pcb)
  else .waits (m.list .ready_list).head?

def exitReply : Reply :=
  match (m.store.pcb r).parent with
  | none => if m.store.init_pcb = some r ∧ m.list (.children r) ≠ [] then .loops else .stops (.null .pcb)
  | some q =>
    if WaitingParent m r q then
      if ∀ e ∈ m.list (.children q), m.store.pcb_ptr e ≠ some r then .stops .detachNull
      else if ∃ d ∈ m.list (.descriptors r), (m.store.descriptor d).mq = none then .stops (.null .message_queue)
      else .dies q
    else match (m.list .ready_list).head? with
    | none => .stops .detachNull
    | some n => .dies n

def descriptorReply : Reply :=
  if (m.data.pools .descriptor).size = 0 then .returns DSOS_ERESOURCENOFD
  else if (m.store.pcb r).last_fd = INT_MAX then .stops .overflow
  else .returns (m.store.pcb r).last_fd

def openResourceReply : Reply :=
  match m.resource (int32 (args 0)) with
  | none =>
    if ¬ hasFlag (int32 (args 2)) DSOS_CREATE then .returns DSOS_ERESOURCEOPEN
    else if (m.data.pools .resource).size = 0 then .stops .insertNull
    else m.descriptorReply r
  | some x =>
    if hasFlag (int32 (args 2)) DSOS_CREATE then .returns DSOS_ERESOURCECREATE
    else if (m.store.resource x).type ≠ int32 (args 1) then .returns DSOS_ERESOURCEOPEN
    else if hasFlag (int32 (args 2)) DSOS_EXCL ∧ m.list (.descriptors_ptrs x) ≠ [] then .returns DSOS_ERESOURCENOEXCL
    else m.descriptorReply r

def openQueueReply : Reply :=
  match m.queue (int32 (args 0)) with
  | none =>
    if int32 (args 1) ≠ DSOS_CREATE then .returns DSOS_ERESOURCEOPEN
    else if (m.data.pools .message_queue).size = 0 then .stops .insertNull
    else m.descriptorReply r
  | some q =>
    if int32 (args 1) = DSOS_CREATE then .returns DSOS_ERESOURCECREATE
    else if int32 (args 1) = DSOS_EXCL ∧ m.list (.descriptors_ptrs q) ≠ [] then .returns DSOS_ERESOURCENOEXCL
    else m.descriptorReply r

def closeReply (object : Pool) (which : Descriptor → Pointer) : Reply :=
  match m.descriptor r (int32 (args 0)) with
  | none => .returns DSOS_ERESOURCECLOSE
  | some d => if which (m.store.descriptor d) = none then .stops (.null object) else .returns 0

def destroyReply (found : Pointer) : Reply :=
  match found with
  | none => .returns DSOS_ERESOURCECLOSE
  | some x => if m.list (.descriptors_ptrs x) = [] then .returns 0 else .returns DSOS_ERESOURCEINUSE

def suspendReply (mq : Pointer) : Reply :=
  if (m.data.pools .pcb_ptr).size = 0 then .stops (.null .pcb_ptr)
  else if mq = none then .stops (.null .message_queue)
  else if m.list .ready_list = [] then .stops .detachNull
  else .waits (m.list .ready_list).head?

def readReply : Reply :=
  match (m.queue (int32 (args 0))).bind fun q => (m.list (.messages q)).head? with
  | none => m.suspendReply (m.queue (int32 (args 0)))
  | some x =>
    if (m.store.message x).length > int32 (args 2) then .returns (-15)
    else if 0 < (m.store.message x).length ∧ args 1 = 0 then .stops .nullUser
    else .returns (m.store.message x).length

def writeReply : Reply :=
  if int32 (args 2) > c.MAX_LEN_MESSAGE then .returns (-146)
  else match m.queue (int32 (args 0)) with
  | none => .returns DSOS_ERESOURCENOFD
  | some q =>
    if (m.store.mq q).num_written = c.MAX_NUM_MESSAGES then m.suspendReply (some q)
    else if (m.data.pools .message).size = 0 then .stops .insertNull
    else if 0 < int32 (args 2) ∧ args 1 = 0 then .stops .nullUser
    else .returns (int32 (args 2))

/-- The reply of the handler of a system call but `preempt`. -/
def reply (num : Int) : Reply :=
  if num = DSOS_CALL_FORK ∨ num = DSOS_CALL_SPAWN then m.childReply
  else if num = DSOS_CALL_WAIT then m.waitReply args
  else if num = DSOS_CALL_EXIT then m.exitReply r
  else if num = DSOS_CALL_SLEEP then m.sleepReply
  else if num = DSOS_CALL_OPEN_RESOURCE then m.openResourceReply r args
  else if num = DSOS_CALL_CLOSE_RESOURCE then m.closeReply r args .resource (·.resource)
  else if num = DSOS_CALL_DESTROY_RESOURCE then m.destroyReply (m.resource (int32 (args 0)))
  else if num = DSOS_CALL_SHUTDOWN then .stops .exit
  else if num = DSOS_CALL_OPEN_MQ then m.openQueueReply r args
  else if num = DSOS_CALL_CLOSE_MQ then m.closeReply r args .message_queue (·.mq)
  else if num = DSOS_CALL_WRITE_MQ then m.writeReply c args
  else if num = DSOS_CALL_READ_MQ then m.readReply args
  else if num = DSOS_CALL_DESTROY_MQ then m.destroyReply (m.queue (int32 (args 0)))
  else if num = DSOS_MAX_SYSCALLS then .stops .outOfBounds
  else .returns DSOS_ESYSCALL_NOT_IMPLEMENTED

end Kernel

/-- The ending gives the caller `r` the reply. -/
inductive Gives (c : Config) (r : Addr) : Ending → Reply → Prop where
  | returns {k : Scene} {value : Int} (runs : k.store.running = some r)
      (answer : (k.store.pcb r).syscall_retvalue = value) : Gives c r (.done () k) (.returns value)
  | waits {k : Scene} (asleep : r ∈ k.seq .waiting_list) : Gives c r (.done () k) (.waits k.store.running)
  | dies {k : Scene} {n : Addr} (runs : k.store.running = some n) (dead : ¬ k.Alive c r) :
      Gives c r (.done () k) (.dies n)
  | stops (stop : Stop) : Gives c r (.fault stop) (.stops stop)
  | loops : Gives c r .exhausted .loops

section
variable {c : Config} {m : Kernel} {k k' : Scene} {r n : Addr} {num value : Int} {args : Nat → Int} {ending : Ending}

/-! ## The handlers -/

theorem Gives.returned (runs : k'.store.running = some r) (answer : (k'.store.pcb r).syscall_retvalue = value) :
    Gives c r (Ending.logged (.done () k')) (.returns value) := by
  rw [Ending.logged, if_neg (by simp [runs])]
  exact .returns runs answer

theorem Gives.answered (runs : k.store.running = some r) :
    Gives c r (Ending.logged (.done () (k.answer r value))) (.returns value) := by
  refine .returned ?_ (by simp)
  exact runs

theorem Gives.suspended (next : k'.store.running = some n) (asleep : r ∈ k'.seq .waiting_list) :
    Gives c r (Ending.logged (.done () k')) (.waits (some n)) := by
  rw [Ending.logged, if_neg (by simp [next]), ← next]
  exact .waits asleep

theorem Gives.died (next : k'.store.running = some n) (dead : ¬ k'.Alive c r) :
    Gives c r (Ending.logged (.done () k')) (.dies n) := by
  rw [Ending.logged, if_neg (by simp [next])]
  exact .dies next dead

theorem Shows.pool_empty (shows : Shows c m k) {p : Pool} (full : k.free p = []) : (m.data.pools p).size = 0 := by
  rw [shows.size, full]
  rfl

theorem Shows.pool_left {x : Addr} (shows : Shows c m k) {p : Pool} (top : (k.free p).head? = some x) :
    (m.data.pools p).size ≠ 0 := shows.some_free.mpr ⟨x, top⟩

theorem Shows.somebody_ready (shows : Shows c m k) (ready : (k.seq .ready_list).head? = some n) :
    m.list .ready_list ≠ [] ∧ (m.list .ready_list).head? = some n := by
  rw [shows.list]
  exact ⟨List.ne_nil_of_mem (List.mem_of_mem_head? ready), ready⟩

theorem NewChild.gives {finish : Addr → Scene → Scene} (shows : Shows c m k) (runs : k.store.running = some r)
    (same : ∀ p j, (finish p j).store.running = j.store.running ∧
      ((finish p j).store.pcb r).syscall_retvalue = (j.store.pcb r).syscall_retvalue)
    (ends : NewChild finish r (k.enter r num args) ending) : Gives c r ending.logged m.childReply := by
  unfold Kernel.childReply
  rw [shows.store]
  cases ends with
  | noPCB full =>
    rw [if_pos (shows.pool_empty full)]
    exact .stops _
  | overflow pcb spent =>
    have spent : k.store.last_pid = INT_MAX := spent
    rw [if_neg (shows.pool_left pcb), if_pos spent]
    exact .stops _
  | noPCBPtr pcb unspent full =>
    have unspent : k.store.last_pid ≠ INT_MAX := unspent
    rw [if_neg (shows.pool_left pcb), if_neg unspent, if_pos (shows.pool_empty full)]
    exact .stops _
  | child pcb unspent ptr =>
    have unspent : k.store.last_pid ≠ INT_MAX := unspent
    rw [if_neg (shows.pool_left pcb), if_neg unspent, if_neg (shows.pool_left ptr)]
    apply Gives.returned
    · rw [(same _ _).1]
      exact runs
    · rw [(same _ _).2]
      simp [Scene.newChild, Scene.enter]

theorem Wait.gives (shows : Shows c m k) (runs : k.store.running = some r)
    (ends : Wait r (k.enter r DSOS_CALL_WAIT args) ending) : Gives c r ending.logged (m.waitReply args) := by
  have pid : (k.enter r DSOS_CALL_WAIT args).intArg r 0 = int32 (args 0) := intArg_enter (by decide)
  have asked : m.awaitedProcess args = (k.awaited r (int32 (args 0))).bind k.store.pcb_ptr := by
    simp [Kernel.awaitedProcess, shows.store, shows.awaited, runs]
  unfold Kernel.waitReply
  rw [asked, shows.store]
  cases ends with
  | childless nobody =>
    have nobody : k.seq (.children r) = [] := nobody
    have absent : k.awaited r (int32 (args 0)) = none := by simp [Scene.awaited, nobody]
    rw [absent]
    exact .answered runs
  | @reaps e z found child zombie =>
    rw [pid, awaited_enter] at found
    have child : k.store.pcb_ptr e = some z := child
    rw [status_enter] at zombie
    simp only [found, child, Option.bind_some, if_pos zombie]
    apply Gives.returned
    · simpa [Scene.reap, Scene.enter] using runs
    · simp [Scene.reap, Scene.enter]
  | @blocks e z n found child alive ready =>
    rw [pid, awaited_enter] at found
    have child : k.store.pcb_ptr e = some z := child
    rw [status_enter] at alive
    obtain ⟨some_ready, next⟩ := shows.somebody_ready ready
    simp only [found, child, Option.bind_some, if_neg alive, if_neg some_ready, next]
    apply Gives.suspended
    · rfl
    · simp [Scene.dispatch, Scene.block]
  | @stuck e z found child alive idle =>
    rw [pid, awaited_enter] at found
    have child : k.store.pcb_ptr e = some z := child
    rw [status_enter] at alive
    have idle' : m.list .ready_list = [] := (shows.list _).trans idle
    simp only [found, child, Option.bind_some, if_neg alive, if_pos idle']
    exact .stops _

theorem Sleep.gives (shows : Shows c m k) (runs : k.store.running = some r)
    (ends : Sleep r (k.enter r DSOS_CALL_SLEEP args) ending) : Gives c r ending.logged m.sleepReply := by
  unfold Kernel.sleepReply
  cases ends with
  | refused full =>
    rw [if_pos (shows.pool_empty full)]
    exact .answered runs
  | dozes timer time ready =>
    obtain ⟨some_ready, next⟩ := shows.somebody_ready ready
    rw [if_neg (shows.pool_left timer), if_neg fun idle => some_ready idle.1, next]
    apply Gives.suspended
    · rfl
    · simp [Scene.dispatch, Scene.block, Scene.startTimer]
  | allSleep timer time idle =>
    have idle' : m.list .ready_list = [] := (shows.list _).trans idle
    rw [if_neg (shows.pool_left timer), shows.store, idle', Ending.logged]
    by_cases logs : k.store.log_file = true
    · rw [if_pos ⟨logs, rfl⟩, if_pos ⟨rfl, logs⟩]
      exact .stops _
    · rw [if_neg fun both => logs both.1, if_neg fun both => logs both.2]
      apply Gives.waits
      simp [Scene.block, Scene.startTimer]

theorem Reparents.entered {i q e : Addr} {j : Scene} (shows : Shows c m k) (inv : Coherent c k.store.running none k)
    (lineage : k.Lineage) (runs : k.store.running = some r) (init : k.store.init_pcb = some i)
    (reparents : Reparents r i (k.enter r DSOS_CALL_EXIT args) j)
    (parent : ((k.enter r DSOS_CALL_EXIT args).store.pcb r).parent = some q)
    (awaited : (j.bury r q).AwaitsDeath q ((k.enter r DSOS_CALL_EXIT args).store.pcb r).pid)
    (entry : (j.bury r q).entry q ((k.enter r DSOS_CALL_EXIT args).store.pcb r).pid = some e) :
    e ∈ m.list (.children q) ∧ m.store.pcb_ptr e = some r := by
  have entered := inv.entered runs DSOS_CALL_EXIT args
  obtain ⟨-, -, linked, names⟩ := reparents.resumed entered init parent awaited entry
  have some_parent : (k.store.pcb r).parent ≠ none := by
    rw [show (k.store.pcb r).parent = some q by simpa [Scene.enter] using parent]
    exact Option.some_ne_none q
  obtain ⟨there, names'⟩ := parent_before inv lineage runs init reparents linked names some_parent
  exact ⟨shows.mem_list.mpr there, shows.store ▸ names'⟩

theorem DropRound.rest {i q e : Addr} {j j' : Scene} (shows : Shows c m k) (inv : Coherent c k.store.running none k)
    (runs : k.store.running = some r) (init : k.store.init_pcb = some i)
    (reparents : Reparents r i (k.enter r DSOS_CALL_EXIT args) j)
    (parent : ((k.enter r DSOS_CALL_EXIT args).store.pcb r).parent = some q)
    (awaited : (j.bury r q).AwaitsDeath q ((k.enter r DSOS_CALL_EXIT args).store.pcb r).pid)
    (entry : (j.bury r q).entry q ((k.enter r DSOS_CALL_EXIT args).store.pcb r).pid = some e)
    (drops : ReflTransGen (DropRound r) ((j.bury r q).resumeParent r q e) j') :
    j'.store.descriptor = m.store.descriptor ∧ ∃ dropped,
      m.list (.descriptors r) = dropped ++ j'.seq (.descriptors r) ∧ ∀ d ∈ dropped, (m.store.descriptor d).mq ≠ none := by
  obtain ⟨resumed, frame, -⟩ := reparents.resumed (inv.entered runs DSOS_CALL_EXIT args) init parent awaited entry
  obtain ⟨-, store, -⟩ := drops_frame resumed drops
  obtain ⟨dropped, whole, queues, -⟩ := DropRound.releases resumed drops
  have descriptor : ((j.bury r q).resumeParent r q e).store.descriptor = m.store.descriptor := by
    rw [frame.descriptor (by simp), shows.store]
    rfl
  refine ⟨(congrArg Store.descriptor store).trans descriptor, dropped, ?_, fun d member => ?_⟩
  · rw [shows.list, ← whole, frame.seq (by simp [Head.kind])]
    rfl
  · rw [← descriptor]
    exact queues d member

theorem Exit.gives (shows : Shows c m k) (inv : Coherent c k.store.running none k) (lineage : k.Lineage)
    (runs : k.store.running = some r) (ends : Exit r (k.enter r DSOS_CALL_EXIT args) ending) :
    Gives c r ending.logged (m.exitReply r) := by
  have entered := inv.entered runs DSOS_CALL_EXIT args
  obtain ⟨i₀, init₀, -, -, orphan₀⟩ := inv.tree.init
  have dead : ∀ j, ending = .done () j → ¬ j.Alive c r := by
    rintro j rfl
    exact ends.dead entered
  have named {q : Addr} (parent : ((k.enter r DSOS_CALL_EXIT args).store.pcb r).parent = some q) :
      (m.store.pcb r).parent = some q := by
    rw [shows.store]
    simpa [Scene.enter] using parent
  unfold Kernel.exitReply
  cases ends with
  | forever init children =>
    have init : k.store.init_pcb = some r := init
    cases init.symm.trans init₀
    have orphan : (m.store.pcb r).parent = none := by rwa [shows.store]
    have loops : m.store.init_pcb = some r ∧ m.list (.children r) ≠ [] := by
      rw [shows.store, shows.list]
      exact ⟨init, children⟩
    simp only [orphan, if_pos loops]
    exact .loops
  | @orphan i j init reparents parent =>
    have orphan : (m.store.pcb r).parent = none := by
      rw [shows.store]
      simpa [Scene.enter] using parent
    have stops : ¬ (m.store.init_pcb = some r ∧ m.list (.children r) ≠ []) := by
      rintro ⟨first, children⟩
      rw [shows.store] at first
      cases first.symm.trans init
      exact children ((shows.list _).trans reparents.childless)
    simp only [orphan, if_neg stops]
    exact .stops _
  | @buried i q n j init reparents parent unawaited ready =>
    have unasked : ¬ WaitingParent m r q :=
      fun asks => unawaited ((reparents.awaits_iff shows inv runs init (named parent)).mpr asks)
    rw [(reparents.coherent entered init).2.seq (by simp [Head.kind])] at ready
    obtain ⟨-, next⟩ := shows.somebody_ready ready
    simp only [named parent, if_neg unasked, next]
    exact .died rfl (dead _ rfl)
  | @stuck i q j init reparents parent unawaited idle =>
    have unasked : ¬ WaitingParent m r q :=
      fun asks => unawaited ((reparents.awaits_iff shows inv runs init (named parent)).mpr asks)
    rw [(reparents.coherent entered init).2.seq (by simp [Head.kind])] at idle
    have idle : m.list .ready_list = [] := (shows.list _).trans idle
    simp only [named parent, if_neg unasked, idle, List.head?_nil]
    exact .stops _
  -- the parent waits, but `init` has adopted the entry
  | @stray i q j init reparents parent awaited absent =>
    have asks := (reparents.awaits_iff shows inv runs init (named parent)).mp awaited
    have unlisted : ∀ e ∈ m.list (.children q), m.store.pcb_ptr e ≠ some r := by
      intro e there names
      have differs : q ≠ r := by
        rintro rfl
        have asleep := asks.2.1
        rw [shows.store] at asleep
        cases (inv.processes.not_waiting runs).symm.trans (inv.processes.waits asleep)
      rw [shows.store] at names
      exact reparents.listed entered init differs (shows.mem_list.mp there) names absent
    simp only [named parent, if_pos asks, if_pos unlisted]
    exact .stops _
  -- a descriptor of a resource has no queue, which stops the loop over the descriptors
  | @otherKind i q e d j j' init reparents parent awaited entry drops first resource =>
    have asks := (reparents.awaits_iff shows inv runs init (named parent)).mp awaited
    obtain ⟨there, names⟩ := reparents.entered shows inv lineage runs init parent awaited entry
    obtain ⟨same, dropped, whole, -⟩ := DropRound.rest shows inv runs init reparents parent awaited entry drops
    have listed : ¬ ∀ e ∈ m.list (.children q), m.store.pcb_ptr e ≠ some r := fun none => none e there names
    have other : ∃ d ∈ m.list (.descriptors r), (m.store.descriptor d).mq = none := by
      refine ⟨d, ?_, same ▸ resource⟩
      rw [whole]
      exact List.mem_append_right _ (List.mem_of_mem_head? first)
    simp only [named parent, if_pos asks, if_neg listed, if_pos other]
    exact .stops _
  | @resumes i q e j j' init reparents parent awaited entry drops closed =>
    have asks := (reparents.awaits_iff shows inv runs init (named parent)).mp awaited
    obtain ⟨there, names⟩ := reparents.entered shows inv lineage runs init parent awaited entry
    obtain ⟨same, dropped, whole, queues⟩ := DropRound.rest shows inv runs init reparents parent awaited entry drops
    have listed : ¬ ∀ e ∈ m.list (.children q), m.store.pcb_ptr e ≠ some r := fun none => none e there names
    have all : ¬ ∃ d ∈ m.list (.descriptors r), (m.store.descriptor d).mq = none := by
      rintro ⟨d, member, other⟩
      rw [whole, closed, List.append_nil] at member
      exact queues d member other
    simp only [named parent, if_pos asks, if_neg listed, if_neg all]
    exact .died rfl (dead _ rfl)

theorem OpenDescriptor.gives {o : Addr} {resource mq : Pointer} {j : Scene}
    (ends : OpenDescriptor r o resource mq j ending) (shows : Shows c m k)
    (sizes : (k.free .descriptor).length = (k.free .descriptor_ptr).length)
    (free : ∀ p, p ≠ .resource → p ≠ .message_queue → j.free p = k.free p)
    (last : (j.store.pcb r).last_fd = (k.store.pcb r).last_fd) (runs : j.store.running = some r) :
    Gives c r ending.logged (m.descriptorReply r) := by
  have des : j.free .descriptor = k.free .descriptor := free _ (by simp) (by simp)
  have ptr : j.free .descriptor_ptr = k.free .descriptor_ptr := free _ (by simp) (by simp)
  unfold Kernel.descriptorReply
  rw [shows.store]
  cases ends with
  | refused full =>
    rw [des] at full
    rw [if_pos (shows.pool_empty full)]
    exact .answered runs
  | overflow top spent =>
    rw [des] at top
    rw [last] at spent
    rw [if_neg (shows.pool_left top), if_pos spent]
    exact .stops _
  | noPtr top unspent full =>
    rw [← des, ← ptr] at sizes
    have stops : OpenDescriptor r o resource mq j (.fault .insertNull) := .noPtr top unspent full
    exact absurd stops (OpenDescriptor.no_null sizes)
  | opened top unspent left =>
    rw [des] at top
    rw [last] at unspent
    rw [if_neg (shows.pool_left top), if_neg unspent]
    apply Gives.returned
    · simpa [Scene.openDescriptor] using runs
    · simp [Scene.openDescriptor, last]

theorem OpenResource.gives (shows : Shows c m k) (runs : k.store.running = some r)
    (sizes : (k.free .descriptor).length = (k.free .descriptor_ptr).length)
    (ends : OpenResource r (k.enter r DSOS_CALL_OPEN_RESOURCE args) ending) :
    Gives c r ending.logged (m.openResourceReply r args) := by
  have id : (k.enter r DSOS_CALL_OPEN_RESOURCE args).intArg r 0 = int32 (args 0) := intArg_enter (by decide)
  have type : (k.enter r DSOS_CALL_OPEN_RESOURCE args).intArg r 1 = int32 (args 1) := intArg_enter (by decide)
  have flags : (k.enter r DSOS_CALL_OPEN_RESOURCE args).intArg r 2 = int32 (args 2) := intArg_enter (by decide)
  have same (id : Int) : (k.enter r DSOS_CALL_OPEN_RESOURCE args).resource id = m.resource id := (shows.resource id).symm
  have seq (h : Head) : (k.enter r DSOS_CALL_OPEN_RESOURCE args).seq h = m.list h := (shows.list h).symm
  have kind (x : Addr) : ((k.enter r DSOS_CALL_OPEN_RESOURCE args).store.resource x).type = (m.store.resource x).type := by
    rw [shows.store]
    rfl
  have last : ((k.enter r DSOS_CALL_OPEN_RESOURCE args).store.pcb r).last_fd = (k.store.pcb r).last_fd := by
    simp [Scene.enter]
  unfold Kernel.openResourceReply
  cases ends with
  | taken create found =>
    rw [id, same] at found
    rw [flags] at create
    simp only [found, if_pos create]
    exact .answered runs
  | exhausted create absent full =>
    rw [id, same] at absent
    rw [flags] at create
    simp only [absent, if_neg (not_not_intro create), if_pos (shows.pool_empty full)]
    exact .stops _
  -- the resource is new, so nobody else has it open
  | creates create absent top opens =>
    rw [id, same] at absent
    rw [flags] at create
    simp only [absent, if_neg (not_not_intro create), if_neg (shows.pool_left top)]
    refine opens.gives shows sizes (fun p other _ => ?_) last runs
    simp [Scene.newResource, other]
  | unknown old absent =>
    rw [id, same] at absent
    rw [flags] at old
    simp only [absent, if_pos old]
    exact .answered runs
  | mistyped old found differs =>
    rw [id, same] at found
    rw [flags] at old
    rw [kind, type] at differs
    simp only [found, if_neg old, if_pos differs]
    exact .answered runs
  | shared old found agrees exclusive used =>
    rw [id, same] at found
    rw [flags] at old exclusive
    rw [kind, type] at agrees
    rw [seq] at used
    simp only [found, if_neg old, if_neg (not_not_intro agrees), if_pos (And.intro exclusive used)]
    exact .answered runs
  | opens old found agrees free opens =>
    rw [id, same] at found
    rw [flags] at old
    rw [kind, type] at agrees
    rw [flags, seq] at free
    simp only [found, if_neg old, if_neg (not_not_intro agrees), if_neg free]
    exact opens.gives shows sizes (fun _ _ _ => rfl) last runs

theorem OpenMessageQueue.gives (shows : Shows c m k) (runs : k.store.running = some r)
    (sizes : (k.free .descriptor).length = (k.free .descriptor_ptr).length)
    (ends : OpenMessageQueue r (k.enter r DSOS_CALL_OPEN_MQ args) ending) :
    Gives c r ending.logged (m.openQueueReply r args) := by
  have id : (k.enter r DSOS_CALL_OPEN_MQ args).intArg r 0 = int32 (args 0) := intArg_enter (by decide)
  have flags : (k.enter r DSOS_CALL_OPEN_MQ args).intArg r 1 = int32 (args 1) := intArg_enter (by decide)
  have same (id : Int) : (k.enter r DSOS_CALL_OPEN_MQ args).queue id = m.queue id := (shows.queue id).symm
  have seq (h : Head) : (k.enter r DSOS_CALL_OPEN_MQ args).seq h = m.list h := (shows.list h).symm
  have last : ((k.enter r DSOS_CALL_OPEN_MQ args).store.pcb r).last_fd = (k.store.pcb r).last_fd := by
    simp [Scene.enter]
  unfold Kernel.openQueueReply
  cases ends with
  | taken create found =>
    rw [id, same] at found
    rw [flags] at create
    simp only [found, if_pos create]
    exact .answered runs
  | exhausted create absent full =>
    rw [id, same] at absent
    rw [flags] at create
    simp only [absent, if_neg (not_not_intro create), if_pos (shows.pool_empty full)]
    exact .stops _
  | creates create absent top opens =>
    rw [id, same] at absent
    rw [flags] at create
    simp only [absent, if_neg (not_not_intro create), if_neg (shows.pool_left top)]
    refine opens.gives shows sizes (fun p _ other => ?_) last runs
    simp [Scene.newQueue, other]
  | unknown old absent =>
    rw [id, same] at absent
    rw [flags] at old
    simp only [absent, if_pos old]
    exact .answered runs
  | shared exclusive found used =>
    rw [id, same] at found
    rw [flags] at exclusive
    rw [seq] at used
    have old : int32 (args 1) ≠ DSOS_CREATE := by
      rw [exclusive]
      decide
    simp only [found, if_neg old, if_pos (And.intro exclusive used)]
    exact .answered runs
  | opens old found free opens =>
    rw [id, same] at found
    rw [flags] at old
    rw [flags, seq] at free
    simp only [found, if_neg old, if_neg free]
    exact opens.gives shows sizes (fun _ _ _ => rfl) last runs

theorem Close.gives {object : Pool} {which : Descriptor → Pointer} (shows : Shows c m k)
    (runs : k.store.running = some r) (stored : 0 < syscall_numarg num)
    (ends : Close object which r (k.enter r num args) ending) :
    Gives c r ending.logged (m.closeReply r args object which) := by
  have fd : (k.enter r num args).intArg r 0 = int32 (args 0) := intArg_enter stored
  have same (fd : Int) : (k.enter r num args).descriptor r fd = m.descriptor r fd := (shows.descriptor fd).symm
  have kind (d : Addr) : (k.enter r num args).store.descriptor d = m.store.descriptor d := by
    rw [shows.store]
    rfl
  unfold Kernel.closeReply
  cases ends with
  | unknown absent =>
    rw [fd, same] at absent
    rw [absent]
    exact .answered runs
  | otherKind found other =>
    rw [fd, same] at found
    rw [kind] at other
    simp only [found, if_pos other]
    exact .stops _
  | @closed d o e found of ptr =>
    rw [fd, same] at found
    rw [kind] at of
    have some_object : which (m.store.descriptor d) ≠ none := by simp [of]
    simp only [found, if_neg some_object]
    exact .answered runs

theorem Destroy.gives {global : Head} {find : Scene → Int → Pointer} {found : Pointer} (shows : Shows c m k)
    (runs : k.store.running = some r)
    (named : find (k.enter r num args) ((k.enter r num args).intArg r 0) = found)
    (ends : Destroy global find r (k.enter r num args) ending) :
    Gives c r ending.logged (m.destroyReply found) := by
  have seq (h : Head) : (k.enter r num args).seq h = m.list h := (shows.list h).symm
  subst named
  unfold Kernel.destroyReply
  cases ends with
  | unknown absent =>
    rw [absent]
    exact .answered runs
  | used found open_ =>
    rw [seq] at open_
    simp only [found, if_neg open_]
    exact .answered runs
  | destroyed found closed =>
    rw [seq] at closed
    simp only [found, if_pos closed]
    exact .answered runs

theorem Suspend.gives {mq : Pointer} {waiting : Addr → Head} (shows : Shows c m k) (which : ∀ q, waiting q ≠ .waiting_list)
    (ends : Suspend r mq waiting (k.enter r num args) ending) : Gives c r ending.logged (m.suspendReply mq) := by
  unfold Kernel.suspendReply
  cases ends with
  | noPtr full =>
    rw [if_pos (shows.pool_empty full)]
    exact .stops _
  | noQueue ptr absent =>
    rw [if_neg (shows.pool_left ptr), if_pos absent]
    exact .stops _
  | stuck ptr found idle =>
    have idle : m.list .ready_list = [] := (shows.list _).trans idle
    rw [if_neg (shows.pool_left ptr), if_neg (by simp [found]), if_pos idle]
    exact .stops _
  | suspended ptr found ready =>
    obtain ⟨some_ready, next⟩ := shows.somebody_ready ready
    rw [if_neg (shows.pool_left ptr), if_neg (by simp [found]), if_neg some_ready, next]
    apply Gives.suspended
    · rfl
    · simp [Scene.dispatch, Scene.enqueue, Scene.block, (which _).symm]

theorem Read.gives (shows : Shows c m k) (inv : Coherent c k.store.running none k) (runs : k.store.running = some r)
    (ends : Read r (k.enter r DSOS_CALL_READ_MQ args) ending) : Gives c r ending.logged (m.readReply args) := by
  have named : (k.enter r DSOS_CALL_READ_MQ args).queue ((k.enter r DSOS_CALL_READ_MQ args).intArg r 0) =
      m.queue (int32 (args 0)) := by
    rw [queue_enter (by decide), shows.queue]
  have size : (k.enter r DSOS_CALL_READ_MQ args).intArg r 2 = int32 (args 2) := intArg_enter (by decide)
  have buffer : (k.enter r DSOS_CALL_READ_MQ args).arg r 1 = args 1 := arg_enter (by decide)
  have content : (k.enter r DSOS_CALL_READ_MQ args).store.message = m.store.message := by
    rw [shows.store]
    rfl
  have top {q x : Addr} (found : m.queue (int32 (args 0)) = some q)
      (first : ((k.enter r DSOS_CALL_READ_MQ args).seq (.messages q)).head? = some x) :
      ((m.queue (int32 (args 0))).bind fun q => (m.list (.messages q)).head?) = some x := by
    rw [found, Option.bind_some, shows.list]
    exact first
  unfold Kernel.readReply
  cases ends with
  | waits empty suspends =>
    rw [named] at empty suspends
    have none_left : ((m.queue (int32 (args 0))).bind fun q => (m.list (.messages q)).head?) = none := by
      rw [Option.bind_eq_none_iff]
      intro q found
      rw [shows.list, show k.seq (.messages q) = [] from empty q found]
      rfl
    rw [none_left]
    exact suspends.gives shows (by simp)
  | short found first long =>
    rw [named] at found
    rw [content, size] at long
    simp only [top found first, if_pos long]
    exact .answered runs
  | nullUser found first fits wakes null =>
    rw [named] at found
    rw [content, size] at fits
    rw [content, buffer] at null
    simp only [top found first, if_neg (not_lt.mpr fits), if_pos null]
    exact .stops _
  -- waking the writers leaves the caller and the length of the message alone
  | @takes q x j found first fits wakes user =>
    have woken := wakes.woken ((inv.entered runs _ _).moved (.take ((inv.entered runs _ _).sound.first first)))
    obtain ⟨pcb, store, -⟩ := woken.store
    rw [named] at found
    rw [content, size] at fits
    rw [content, buffer] at user
    simp only [top found first, if_neg (not_lt.mpr fits), if_neg user]
    apply Gives.returned
    · simp [Scene.finishRead, store]
      exact runs
    · simp [Scene.finishRead, store]
      rw [content]

theorem Write.gives (shows : Shows c m k) (inv : Coherent c k.store.running none k) (runs : k.store.running = some r)
    (ends : Write c r (k.enter r DSOS_CALL_WRITE_MQ args) ending) : Gives c r ending.logged (m.writeReply c args) := by
  have named : (k.enter r DSOS_CALL_WRITE_MQ args).queue ((k.enter r DSOS_CALL_WRITE_MQ args).intArg r 0) =
      m.queue (int32 (args 0)) := by
    rw [queue_enter (by decide), shows.queue]
  have size : (k.enter r DSOS_CALL_WRITE_MQ args).intArg r 2 = int32 (args 2) := intArg_enter (by decide)
  have buffer : (k.enter r DSOS_CALL_WRITE_MQ args).arg r 1 = args 1 := arg_enter (by decide)
  have written : (k.enter r DSOS_CALL_WRITE_MQ args).store.mq = m.store.mq := by
    rw [shows.store]
    rfl
  unfold Kernel.writeReply
  cases ends with
  | tooLong long =>
    rw [size] at long
    rw [if_pos long]
    exact .answered runs
  | unknown fits absent =>
    rw [size] at fits
    rw [named] at absent
    simp only [if_neg (not_lt.mpr fits), absent]
    exact .answered runs
  | waits fits found full suspends =>
    rw [size] at fits
    rw [named] at found
    rw [written] at full
    simp only [if_neg (not_lt.mpr fits), found, if_pos full]
    exact suspends.gives shows (by simp)
  -- the list of messages is asked to insert NULL
  | noBlock fits found room spent =>
    rw [size] at fits
    rw [named] at found
    rw [written] at room
    simp only [if_neg (not_lt.mpr fits), found, if_neg room, if_pos (shows.pool_empty spent)]
    exact .stops _
  | nullUser fits found room block null =>
    rw [size] at fits null
    rw [named] at found
    rw [written] at room
    rw [buffer] at null
    simp only [if_neg (not_lt.mpr fits), found, if_neg room, if_neg (shows.pool_left block), if_pos null]
    exact .stops _
  | @writes q x j fits found room block user wakes =>
    have woken := wakes.woken ((inv.entered runs _ _).moved (.post _ block fits))
    obtain ⟨pcb, store, -⟩ := woken.store
    rw [size] at fits user
    rw [named] at found
    rw [written] at room
    rw [buffer] at user
    simp only [if_neg (not_lt.mpr fits), found, if_neg room, if_neg (shows.pool_left block), if_neg user]
    apply Gives.returned
    · simp [Scene.finishWrite, store]
      exact runs
    · simp [Scene.finishWrite, size]

/-! ## The table -/

theorem handler_gives {H : Addr → Scene → Ending → Prop} (shows : Shows c m k) (inv : Coherent c k.store.running none k)
    (lineage : k.Lineage) (items : c.num_items .descriptor = c.num_items .descriptor_ptr)
    (runs : k.store.running = some r) (other : num ≠ DSOS_CALL_PREEMPT) (handler : Handles c num = some H)
    (ends : H r (k.enter r num args) ending) : Gives c r ending.logged (m.reply c r args num) := by
  have sizes : (k.free .descriptor).length = (k.free .descriptor_ptr).length := inv.descriptors.sizes inv.sound items
  cases handler_entry handler with
  | preempt => exact absurd rfl other
  | fork => exact NewChild.gives shows runs (fun _ _ => ⟨rfl, rfl⟩) ends
  | spawn =>
    refine NewChild.gives shows runs ?_ ends
    intro p j
    by_cases same : r = p <;> simp [same]
  | wait => exact Wait.gives shows runs ends
  | exit => exact Exit.gives shows inv lineage runs ends
  | sleep => exact Sleep.gives shows runs ends
  | openResource => exact OpenResource.gives shows runs sizes ends
  | closeResource | closeMessageQueue => exact Close.gives shows runs (by decide) ends
  | destroyResource =>
    refine Destroy.gives shows runs ?_ ends
    rw [intArg_enter (by decide), shows.resource]
    rfl
  | shutdown =>
    cases ends
    exact .stops _
  | openMessageQueue => exact OpenMessageQueue.gives shows runs sizes ends
  | write => exact Write.gives shows inv runs ends
  | read => exact Read.gives shows inv runs ends
  | destroyMessageQueue =>
    refine Destroy.gives shows runs ?_ ends
    rw [queue_enter (by decide), shows.queue]

theorem reply_unhandled (absent : Handles c num = none) : m.reply c r args num =
    if num = DSOS_MAX_SYSCALLS then .stops .outOfBounds else .returns DSOS_ESYSCALL_NOT_IMPLEMENTED := by
  unfold Kernel.reply
  rw [if_neg (by rintro (rfl | rfl) <;> cases absent)]
  iterate 12 rw [if_neg (by rintro rfl; cases absent)]

theorem Reacts.gives (shows : Shows c m k) (inv : Coherent c k.store.running none k) (lineage : k.Lineage)
    (items : c.num_items .descriptor = c.num_items .descriptor_ptr) (runs : k.store.running = some r)
    (range : 0 ≤ num ∧ num ≤ DSOS_MAX_SYSCALLS) (other : num ≠ DSOS_CALL_PREEMPT)
    (reacts : Reacts c k (.syscall num args) ending) : Gives c r ending (m.reply c r args num) := by
  cases handler : Handles c num with
  | some H =>
    obtain ⟨ending, ends, rfl⟩ := reacts.of_handler runs handler
    exact handler_gives shows inv lineage items runs other handler ends
  | none =>
    rw [reply_unhandled handler]
    cases reacts with
    | nobody idle => cases runs.symm.trans idle
    | outOfRange _ outside => omega
    | outOfBounds _ bound =>
      rw [if_pos bound]
      exact .stops _
    | unknown running inside =>
      cases runs.symm.trans running
      rw [if_neg (by omega)]
      exact .returns runs (by simp)
    | handled _ some_handler | unlogged _ some_handler | stopped _ some_handler | diverges _ some_handler =>
      cases handler.symm.trans some_handler

end

end DisastrOS
