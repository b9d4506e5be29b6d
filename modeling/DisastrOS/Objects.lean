import DisastrOS.Kernel

/-! Allocation and lookup of kernel objects: `disastrOS_pcb.c`, `disastrOS_timer.c`,
`disastrOS_resource.c`, `disastrOS_descriptor.c` and `disastrOS_mq.c`. -/

set_option autoImplicit false

namespace DisastrOS

open Refinement

/-! ## Processes -/

/-- The block is used before it is compared with NULL. -/
def PCB_alloc : Code Pointer := do
  let pcb ← deref .pcb (← getBlock .pcb)
  clear pcb
  let last_pid ← get (·.last_pid)
  setPCB pcb fun p => { p with pid := last_pid }
  if last_pid = INT_MAX then .fail .overflow
  modify fun s => { s with last_pid := s.last_pid + 1 }
  setPCB pcb fun p =>
    { p with
      return_value := 0
      status := .Invalid
      last_fd := 0
      signals := 0
      signals_mask := 0xFFFFFFFF }
  List_init (.descriptors pcb)
  setPCB pcb fun p => { p with parent := none, timer := none }
  List_init (.children pcb)
  return some pcb

def PCB_free (pcb : Addr) : Code PoolAllocatorResult := releaseBlock .pcb pcb

def PCBPtr_alloc (pcb : Addr) : Code Addr := do
  let pcb_ptr ← deref .pcb_ptr (← getBlock .pcb_ptr)
  clear pcb_ptr
  modify fun s => { s with pcb_ptr := Function.update s.pcb_ptr pcb_ptr (some pcb) }
  return pcb_ptr

def PCBPtr_free (pcb_ptr : Addr) : Code PoolAllocatorResult := releaseBlock .pcb_ptr pcb_ptr

def PCBPtr_byPID (head : Head) (pid : Int) : Code Pointer :=
  List_search head fun s ptr =>
    match s.pcb_ptr ptr with
    | some pcb => (s.pcb pcb).pid = pid
    | none => false

/-! ## Timers -/

def TimerItem_alloc (awakening_time : Int) (pcb : Addr) : Code Pointer := do
  match ← getBlock .timer_item with
  | none => return none
  | some item =>
    clear item
    modify fun s =>
      { s with timer_item := Function.update s.timer_item item ⟨awakening_time, some pcb⟩ }
    return some item

def TimerItem_free (item : Addr) : Code PoolAllocatorResult := releaseBlock .timer_item item

/-- The last item of the list before the first one that is due after `awakening_time`. -/
def TimerList_place (timers : Head) (awakening_time : Int) : Code Pointer := do
  let aux ← first timers
  .iterate (fun (aux, previous_item) =>
    match aux with
    | none => return .inr previous_item
    | some item => do
      if awakening_time < (← get fun s => (s.timer_item item).awakening_time) then
        return .inr previous_item
      else return .inl (← next item, some item)) (aux, none)

def TimerList_add (timers : Head) (awakening_time : Int) (pcb : Addr) : Code Pointer := do
  let previous_item ← TimerList_place timers awakening_time
  match ← TimerItem_alloc awakening_time pcb with
  | none => return none
  | some new_item =>
    let _ ← List_insert timers previous_item (some new_item)
    return some new_item

def TimerList_current (timers : Head) (current_time : Int) : Code Pointer := do
  match ← first timers with
  | none => return none
  | some item =>
    if current_time ≥ (← get fun s => (s.timer_item item).awakening_time) then return some item
    else return none

def TimerList_removeCurrent (timers : Head) : Code Unit := do
  let item ← List_detach timers (← first timers)
  let _ ← TimerItem_free item

/-! ## Resources -/

def Resource_alloc (id type : Int) : Code Pointer := do
  match ← getBlock .resource with
  | none => return none
  | some r =>
    clear r
    modify fun s => { s with resource := Function.update s.resource r ⟨id, type⟩ }
    List_init (.descriptors_ptrs r)
    return some r

/-- The two assertions of the `_free` functions of resources and queues. -/
def assertUnused (object : Addr) : Code Unit := do
  if (← first (.descriptors_ptrs object)) ≠ none then .fail .assertion
  if (← last (.descriptors_ptrs object)) ≠ none then .fail .assertion

def Resource_free (r : Addr) : Code PoolAllocatorResult := do
  assertUnused r
  releaseBlock .resource r

def ResourceList_byId (l : Head) (id : Int) : Code Pointer :=
  List_search l fun s r => (s.resource r).id = id

/-! ## Descriptors -/

/-- `Descriptor_alloc` and `Descriptor_alloc_mq` differ in which of the two
object pointers is set. -/
def Descriptor_new (fd : Int) (resource mq : Pointer) (pcb : Addr) : Code Pointer := do
  match ← getBlock .descriptor with
  | none => return none
  | some d =>
    clear d
    modify fun s => s.setDescriptor d fun des =>
      { des with fd := fd, resource := resource, mq := mq, pcb := some pcb }
    return some d

def Descriptor_alloc (fd : Int) (res pcb : Addr) : Code Pointer :=
  Descriptor_new fd (some res) none pcb

def Descriptor_alloc_mq (fd : Int) (mq pcb : Addr) : Code Pointer :=
  Descriptor_new fd none (some mq) pcb

def Descriptor_free (d : Addr) : Code PoolAllocatorResult := releaseBlock .descriptor d

def DescriptorList_byFd (l : Head) (fd : Int) : Code Pointer :=
  List_search l fun s d => (s.descriptor d).fd = fd

def DescriptorPtr_alloc (descriptor : Addr) : Code Pointer := do
  match ← getBlock .descriptor_ptr with
  | none => return none
  | some d =>
    clear d
    modify fun s =>
      { s with descriptor_ptr := Function.update s.descriptor_ptr d (some descriptor) }
    return some d

def DescriptorPtr_free (d : Addr) : Code PoolAllocatorResult := releaseBlock .descriptor_ptr d

/-! ## Message queues -/

/-- The links of the block are not cleared. -/
def MessageQueue_alloc (id : Int) : Code Pointer := do
  match ← getBlock .message_queue with
  | none => return none
  | some r =>
    modify fun s => s.setMQ r fun _ => { id := id, num_written := 0 }
    List_init (.descriptors_ptrs r)
    List_init (.messages r)
    List_init (.waiting_to_read r)
    List_init (.waiting_to_write r)
    return some r

def MessageQueue_free (r : Addr) : Code PoolAllocatorResult := do
  assertUnused r
  releaseBlock .message_queue r

def MessageQueueList_byId (l : Head) (id : Int) : Code Pointer :=
  List_search l fun s r => (s.mq r).id = id

def copyIn (memory : Int → UInt8) (source : Int) (message : Nat → UInt8) : Nat → Nat → UInt8
  | 0 => message
  | n + 1 => Function.update (copyIn memory source message n) n (memory (source + n))

def copyOut (memory : Int → UInt8) (target : Int) (message : Nat → UInt8) : Nat → Int → UInt8
  | 0 => memory
  | n + 1 => Function.update (copyOut memory target message n) (target + n) (message n)

def Message_alloc (message : Int) (length : Int) : Code Pointer := do
  match ← getBlock .message with
  | none => return none
  | some r =>
    clear r
    modify fun s => s.setMessage r fun m => { m with length := length }
    user message length
    modify fun s => s.setMessage r fun m =>
      { m with message := copyIn s.memory message m.message length.toNat }
    return some r

end DisastrOS
