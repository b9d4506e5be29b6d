import DisastrOS.Objects

/-! The system call handlers, one definition per `internal_` function. -/

set_option autoImplicit false

namespace DisastrOS

open Refinement

/-- `running`, which every handler uses. -/
def self : Code Addr := do deref .pcb (← get (·.running))

def syscall_arg (i : Nat) : Code Int := do
  let running ← self
  get fun s => (s.pcb running).syscall_args i

def setRetvalue (value : Int) : Code Unit := do
  let running ← self
  setPCB running fun p => { p with syscall_retvalue := value }

/-- Make the head of the ready list run. -/
def run_next (status : ProcessStatus → ProcessStatus) : Code Unit := do
  let next_running ← List_detach .ready_list (← first .ready_list)
  setPCB next_running fun p => { p with status := status p.status }
  modify fun s => { s with running := some next_running }

/-! ## Scheduling -/

/-- The round of the loop that wakes the processes whose timer has elapsed. -/
def wake_sleeper (previous_pcb : Pointer) : Code (Pointer ⊕ Unit) := do
  match ← TimerList_current .timer_list (← get (·.disastrOS_time)) with
  | none => return .inr ()
  | some elapsed_timer =>
    let pcb_to_wake ← List_detach .waiting_list (← get fun s => (s.timer_item elapsed_timer).pcb)
    setPCB pcb_to_wake fun p => { p with status := .Ready, timer := none }
    let _ ← List_insert .ready_list previous_pcb (some pcb_to_wake)
    TimerList_removeCurrent .timer_list
    return .inl (some pcb_to_wake)

def internal_schedule : Code Unit := do
  .iterate wake_sleeper none
  match ← first .ready_list with
  -- with nobody ready the caller goes on, and its PCB is not looked at
  | none => return ()
  | some _ =>
    let next_process ← List_detach .ready_list (← first .ready_list)
    let running ← self
    setPCB running fun p => { p with status := .Ready }
    List_append .ready_list (some running)
    setPCB next_process fun p => { p with status := .Running }
    modify fun s => { s with running := some next_process }

def internal_preempt : Code Unit := internal_schedule

def internal_sleep : Code Unit := do
  let running ← self
  if (← get fun s => (s.pcb running).timer) ≠ none then setRetvalue DSOS_ESLEEP
  else
    let cycles_to_sleep := int32 (← syscall_arg 0)
    let wake_time := int32 ((← get (·.disastrOS_time)) + cycles_to_sleep)
    match ← TimerList_add .timer_list wake_time running with
    | none => setRetvalue DSOS_ESLEEP
    | some _ =>
      setPCB running fun p => { p with status := .Waiting }
      List_append .waiting_list (some running)
      if (← first .ready_list) ≠ none then
        let next_running ← List_detach .ready_list (← first .ready_list)
        modify fun s => { s with running := some next_running }
      -- they are all sleeping
      else modify fun s => { s with running := none }

/-! ## Processes -/

/-- What `internal_fork` and `internal_spawn` share: a new ready child of the caller. -/
def new_child (prepare : Addr → Code Unit) : Code Unit := do
  match ← PCB_alloc with
  | none => setRetvalue DSOS_ESPAWN
  | some new_pcb =>
    setPCB new_pcb fun p => { p with status := .Ready }
    let running ← self
    setPCB new_pcb fun p => { p with parent := some running }
    let new_pcb_ptr ← PCBPtr_alloc new_pcb
    List_append (.children running) (some new_pcb_ptr)
    List_append .ready_list (some new_pcb)
    setRetvalue (← get fun s => (s.pcb new_pcb).pid)
    prepare new_pcb

/-- The context of the child is left as it is in the block. -/
def internal_fork : Code Unit := new_child fun _ => return ()

def internal_spawn : Code Unit := new_child fun new_pcb => do
  let new_function ← syscall_arg 0
  let argument ← syscall_arg 1
  setPCB new_pcb fun p => { p with cpu_state := .made p.pid new_function argument }

/-- The scan of the children in `internal_wait`. What it saw last is kept also
when no child is the one asked for. -/
def wait_scan (running : Addr) (pid_to_wait : Int) : Code (Option (Addr × Addr)) := do
  let aux ← first (.children running)
  .iterate (fun (aux, awaited) =>
    match aux with
    -- past the last child, which is still the one seen last
    | none => return .inr awaited
    | some ptr => do
      let pcb ← deref .pcb (← get fun s => s.pcb_ptr ptr)
      let p ← get fun s => s.pcb pcb
      if pid_to_wait = 0 ∧ p.status = .Zombie ∨ pid_to_wait ≠ 0 ∧ p.pid = pid_to_wait then
        return .inr (some (ptr, pcb))
      else return .inl (← next ptr, some (ptr, pcb))) (aux, none)

def storeResult (result value : Int) : Code Unit :=
  if result = 0 then return ()
  else modify fun s => { s with memory := storeInt s.memory result value }

def internal_wait : Code Unit := do
  let running ← self
  let pid_to_wait := int32 (← syscall_arg 0)
  let result ← syscall_arg 1
  if (← first (.children running)) = none then setRetvalue DSOS_EWAIT
  else
    let awaited ← wait_scan running pid_to_wait
    -- a scan of a list that is not empty has seen somebody, so this branch is never taken
    if pid_to_wait > 0 ∧ awaited = none then setRetvalue DSOS_EWAIT
    else
      let zombie ← get fun s => awaited.filter fun (_, pcb) => (s.pcb pcb).status = .Zombie
      match zombie with
      | some (awaited_pcb_ptr, awaited_pcb) =>
        let _ ← List_detach (.children running) (some awaited_pcb_ptr)
        let _ ← PCBPtr_free awaited_pcb_ptr
        let _ ← List_detach .zombie_list (some awaited_pcb)
        setRetvalue (← get fun s => (s.pcb awaited_pcb).pid)
        storeResult result (← get fun s => (s.pcb awaited_pcb).return_value)
        let _ ← PCB_free awaited_pcb
      | none =>
        setPCB running fun p => { p with status := .Waiting }
        List_append .waiting_list (some running)
        -- the status of the next process is left as it is
        run_next id

/-- The round of the loop that gives a child of the dying process to `init`. -/
def reparent (running init : Addr) : Code (Unit ⊕ Unit) := do
  match ← first (.children running) with
  | none => return .inr ()
  | some item =>
    let item ← List_detach (.children running) (some item)
    List_append (.children init) (some item)
    let pcb ← deref .pcb (← get fun s => s.pcb_ptr item)
    -- the child gets a signal, and keeps its parent field
    setPCB pcb fun p => { p with signals := p.signals ||| (DSOS_SIGHUP &&& p.signals_mask) }
    return .inl ()

/-- The round of the loop that drops the timers of the dying process. -/
def drop_timer (running : Addr) (aux : Pointer) : Code (Pointer ⊕ Unit) := do
  match aux with
  | none => return .inr ()
  | some timer =>
    let aux ← next timer
    if (← get fun s => (s.timer_item timer).pcb) = some running then
      let _ ← List_detach .timer_list (some timer)
      let _ ← TimerItem_free timer
      return .inl aux
    else return .inl aux

/-- The round of the loop that closes the descriptors of the dying process, all
of them as descriptors of message queues. -/
def drop_descriptor (running : Addr) : Code (Unit ⊕ Unit) := do
  match ← first (.descriptors running) with
  | none => return .inr ()
  | some des =>
    let _ ← List_detach (.descriptors running) (some des)
    let mq ← deref .message_queue (← get fun s => (s.descriptor des).mq)
    let ptr ← List_detach (.descriptors_ptrs mq) (← get fun s => (s.descriptor des).ptr)
    let _ ← DescriptorPtr_free ptr
    let _ ← Descriptor_free des
    return .inl ()

def internal_exit : Code Unit := do
  let running ← self
  setPCB running fun p => { p with return_value := int32 (p.syscall_args 0) }
  match ← get (·.init_pcb) with
  | none => .fail .assertion
  | some init =>
    .iterate (fun _ => reparent running init) ()
    setPCB running fun p => { p with status := .Zombie }
    List_append .zombie_list (some running)
    let parent ← deref .pcb (← get fun s => (s.pcb running).parent)
    setPCB parent fun p => { p with signals := p.signals ||| (DSOS_SIGCHLD &&& p.signals_mask) }
    let p ← get fun s => s.pcb parent
    let pid ← get fun s => (s.pcb running).pid
    if p.status = .Waiting ∧ p.syscall_num = DSOS_CALL_WAIT ∧
        (p.syscall_args 0 = 0 ∨ p.syscall_args 0 = pid) then
      let parent ← List_detach .waiting_list (some parent)
      setPCB parent fun p => { p with status := .Running }
      -- the wrapper is detached and not given back
      let self_in_parent ← PCBPtr_byPID (.children parent) pid
      let _ ← List_detach (.children parent) self_in_parent
      setPCB parent fun p => { p with syscall_retvalue := pid }
      storeResult (p.syscall_args 1) (← get fun s => (s.pcb running).return_value)
      .iterate (drop_timer running) (← first .timer_list)
      .iterate (fun _ => drop_descriptor running) ()
      let suppressed_item ← List_detach .zombie_list (some running)
      let _ ← PCB_free suppressed_item
      modify fun s => { s with running := some parent }
    else run_next fun _ => .Running

/-- The program goes back to `disastrOS_start`, which leaves it. -/
def internal_shutdown : Code Unit := .fail .exit

/-! ## Resources -/

def hasFlag (flags flag : Int) : Prop := BitVec.ofInt 32 flags &&& BitVec.ofInt 32 flag ≠ 0

instance (flags flag : Int) : Decidable (hasFlag flags flag) :=
  inferInstanceAs (Decidable (_ ≠ _))

/-- The last steps of the two open handlers: a descriptor for the caller, linked
to the object. -/
def open_descriptor (running res : Addr) (alloc : Int → Code Pointer) : Code Unit := do
  match ← alloc (← get fun s => (s.pcb running).last_fd) with
  | none => setRetvalue DSOS_ERESOURCENOFD
  | some des =>
    if (← get fun s => (s.pcb running).last_fd) = INT_MAX then .fail .overflow
    setPCB running fun p => { p with last_fd := p.last_fd + 1 }
    let desptr ← DescriptorPtr_alloc des
    List_append (.descriptors running) (some des)
    modify fun s => s.setDescriptor des fun d => { d with ptr := desptr }
    -- without a block for the pointer this inserts NULL
    List_append (.descriptors_ptrs res) desptr
    setRetvalue (← get fun s => (s.descriptor des).fd)

def internal_openResource : Code Unit := do
  let running ← self
  let id := int32 (← syscall_arg 0)
  let type := int32 (← syscall_arg 1)
  let open_mode := int32 (← syscall_arg 2)
  let found ← ResourceList_byId .resources_list id
  if hasFlag open_mode DSOS_CREATE ∧ found ≠ none then setRetvalue DSOS_ERESOURCECREATE
  else
    let res ← if hasFlag open_mode DSOS_CREATE then do
        let res ← Resource_alloc id type
        List_append .resources_list res
        pure res
      else pure found
    match res with
    | none => setRetvalue DSOS_ERESOURCEOPEN
    | some res =>
      if (← get fun s => (s.resource res).type) ≠ type then setRetvalue DSOS_ERESOURCEOPEN
      else if hasFlag open_mode DSOS_EXCL ∧ (← size (.descriptors_ptrs res)) ≠ 0 then
        setRetvalue DSOS_ERESOURCENOEXCL
      else open_descriptor running res fun fd => Descriptor_alloc fd res running

/-- What the two close handlers share, with the object the descriptor is of. -/
def close_descriptor (object : Pool) (res : Descriptor → Pointer) : Code Unit := do
  let running ← self
  let fd := int32 (← syscall_arg 0)
  match ← DescriptorList_byFd (.descriptors running) fd with
  | none => setRetvalue DSOS_ERESOURCECLOSE
  | some des =>
    let des ← List_detach (.descriptors running) (some des)
    let res ← deref object (← get fun s => res (s.descriptor des))
    let desptr ← List_detach (.descriptors_ptrs res) (← get fun s => (s.descriptor des).ptr)
    let _ ← Descriptor_free des
    let _ ← DescriptorPtr_free desptr
    setRetvalue 0

def internal_closeResource : Code Unit := close_descriptor .resource (·.resource)

/-- What the two destroy handlers share. -/
def destroy_object (global : Head) (byId : Head → Int → Code Pointer)
    (free : Addr → Code PoolAllocatorResult) : Code Unit := do
  let id := int32 (← syscall_arg 0)
  match ← byId global id with
  | none => setRetvalue DSOS_ERESOURCECLOSE
  | some res =>
    if (← size (.descriptors_ptrs res)) ≠ 0 then setRetvalue DSOS_ERESOURCEINUSE
    else
      let res ← List_detach global (some res)
      let _ ← free res
      setRetvalue 0

def internal_destroyResource : Code Unit :=
  destroy_object .resources_list ResourceList_byId Resource_free

/-! ## Message queues -/

def internal_openMessageQueue : Code Unit := do
  let running ← self
  let id := int32 (← syscall_arg 0)
  let open_mode := int32 (← syscall_arg 1)
  let found ← MessageQueueList_byId .mq_list id
  -- the mode is compared as a whole here, not bit by bit
  if open_mode = DSOS_CREATE ∧ found ≠ none then setRetvalue DSOS_ERESOURCECREATE
  else
    let res ← if open_mode = DSOS_CREATE then do
        let res ← MessageQueue_alloc id
        List_append .mq_list res
        pure res
      else pure found
    match res with
    | none => setRetvalue DSOS_ERESOURCEOPEN
    | some res =>
      if open_mode = DSOS_EXCL ∧ (← size (.descriptors_ptrs res)) ≠ 0 then
        setRetvalue DSOS_ERESOURCENOEXCL
      else open_descriptor running res fun fd => Descriptor_alloc_mq fd res running

def internal_closeMessageQueue : Code Unit := close_descriptor .message_queue (·.mq)

def internal_destroyMessageQueue : Code Unit :=
  destroy_object .mq_list MessageQueueList_byId MessageQueue_free

/-- Suspend the caller in a list of the queue and run the next ready process. -/
def suspend (running : Addr) (mq : Pointer) (waiting : Addr → Head) : Code Unit := do
  setPCB running fun p => { p with status := .Waiting }
  List_append .waiting_list (some running)
  let ptr ← PCBPtr_alloc running
  let mq ← deref .message_queue mq
  List_append (waiting mq) (some ptr)
  run_next fun _ => .Running

/-- The round of the loops that wake the processes waiting on a queue; what is
done with the wrapper is left to `finish`. -/
def wake_waiter (waiting : Head) (finish : Addr → Code Unit) : Code (Unit ⊕ Unit) := do
  if (← size waiting) > 0 then
    let ptr ← List_detach waiting (← first waiting)
    let pcb ← List_detach .waiting_list (← get fun s => s.pcb_ptr ptr)
    setPCB pcb fun p => { p with status := .Ready, syscall_retvalue := -20 }
    List_append .ready_list (some pcb)
    finish ptr
    return .inl ()
  else return .inr ()

/-- A woken writer gives its wrapper back. -/
def wake_writer (mq : Addr) : Code (Unit ⊕ Unit) :=
  wake_waiter (.waiting_to_write mq) fun writer_ptr => do
    if (← PCBPtr_free writer_ptr).code < 0 then .fail .assertion

/-- A woken reader does not. -/
def wake_reader (mq : Addr) : Code (Unit ⊕ Unit) :=
  wake_waiter (.waiting_to_read mq) fun _ => return ()

def internal_MessageQueue_read : Code Unit := do
  let running ← self
  let id := int32 (← syscall_arg 0)
  let buf_des ← syscall_arg 1
  let buf_length := int32 (← syscall_arg 2)
  let mq ← MessageQueueList_byId .mq_list id
  let first_message ← match mq with
    -- an id without a queue gets as far as an empty queue does
    | none => pure none
    | some mq => first (.messages mq)
  match first_message with
  | none => suspend running mq .waiting_to_read
  | some first_message =>
    let mq ← deref .message_queue mq
    if (← get fun s => (s.message first_message).length) > buf_length then setRetvalue (-15)
    else
      let first_message ← List_detach (.messages mq) (some first_message)
      .iterate (fun _ => wake_writer mq) ()
      let m ← get fun s => s.message first_message
      if (← size (.waiting_to_write mq)) = 0 then
        user buf_des m.length
        modify fun s => { s with memory := copyOut s.memory buf_des m.message m.length.toNat }
      -- the block of the message is not given back
      modify fun s => s.setMQ mq fun q => { q with num_written := q.num_written - 1 }
      setRetvalue m.length

def internal_MessageQueue_write (c : Config) : Code Unit := do
  let running ← self
  let id := int32 (← syscall_arg 0)
  let write_buffer ← syscall_arg 1
  let message_length := int32 (← syscall_arg 2)
  if message_length > c.MAX_LEN_MESSAGE then setRetvalue (-146)
  else
    match ← MessageQueueList_byId .mq_list id with
    | none => setRetvalue DSOS_ERESOURCENOFD
    | some mq =>
      if (← get fun s => (s.mq mq).num_written) = c.MAX_NUM_MESSAGES then
        suspend running (some mq) .waiting_to_write
      else
        let message ← Message_alloc write_buffer message_length
        List_append (.messages mq) message
        .iterate (fun _ => wake_reader mq) ()
        modify fun s => s.setMQ mq fun q => { q with num_written := q.num_written + 1 }
        setRetvalue message_length

end DisastrOS
