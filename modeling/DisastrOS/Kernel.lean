import DisastrOS.Refinement.Program
import DisastrOS.Constants
import DisastrOS.LinkedList
import DisastrOS.PoolAllocator

/-! The state of the kernel and the primitives its code is written in.

A pointer to a kernel object is a static buffer and a byte offset in it; NULL
is `none`. Since the list item of an object is its first field, a cast between
an object and its item does not change the pointer. The records of `Store` hold
what the C structures hold besides their list items and list heads.
-/

set_option autoImplicit false

namespace DisastrOS

open Refinement

structure Addr where
  pool : Pool
  offset : Int
  deriving DecidableEq

abbrev Pointer := Option Addr

/-- Every `ListHead` of the kernel: six globals, and those inside an object. -/
inductive Head where
  | ready_list
  | waiting_list
  | zombie_list
  | timer_list
  | resources_list
  | mq_list
  | children (pcb : Addr)
  | descriptors (pcb : Addr)
  | descriptors_ptrs (object : Addr)
  | messages (mq : Addr)
  | waiting_to_read (mq : Addr)
  | waiting_to_write (mq : Addr)
  deriving DecidableEq

/-! ## Objects -/

inductive ProcessStatus where
  | Invalid
  | Created
  | Running
  | Ready
  | Waiting
  | Suspended
  | Zombie
  deriving DecidableEq

/-- What `setcontext` would resume: nothing, a function about to be called on the
stack of a process, or the place where a process was interrupted. -/
inductive Context where
  | unset
  | made (pid function argument : Int)
  | swapped (pid : Int)
  deriving DecidableEq

structure PCB where
  pid : Int
  return_value : Int
  status : ProcessStatus
  signals : BitVec 32
  signals_mask : BitVec 32
  parent : Pointer
  cpu_state : Context
  timer : Pointer
  last_fd : Int
  syscall_num : Int
  /-- Eight `long` slots; an `int` argument is read from its slot by truncation. -/
  syscall_args : Nat → Int
  syscall_retvalue : Int

structure TimerItem where
  awakening_time : Int
  pcb : Pointer

structure Resource where
  id : Int
  type : Int

structure Descriptor where
  pcb : Pointer
  resource : Pointer
  mq : Pointer
  fd : Int
  ptr : Pointer

structure MessageQueue where
  id : Int
  num_written : Int

structure Message where
  message : Nat → UInt8
  length : Int

/-- The arguments of `disastrOS_start`. They stay in its frame, since it never returns. -/
structure StartArgs where
  function : Int
  argument : Int
  logfile : Bool

/-- All records, by address, the globals, and the memory of the processes. -/
structure Store where
  pcb : Addr → PCB
  pcb_ptr : Addr → Pointer
  timer_item : Addr → TimerItem
  resource : Addr → Resource
  descriptor : Addr → Descriptor
  descriptor_ptr : Addr → Pointer
  mq : Addr → MessageQueue
  message : Addr → Message
  init_pcb : Pointer
  running : Pointer
  last_pid : Int
  disastrOS_time : Int
  log_file : Bool
  start_args : StartArgs
  memory : Int → UInt8

namespace Store

def setPCB (s : Store) (pcb : Addr) (f : PCB → PCB) : Store :=
  { s with pcb := Function.update s.pcb pcb (f (s.pcb pcb)) }
@[simps -fullyApplied] def setMQ (s : Store) (mq : Addr) (f : MessageQueue → MessageQueue) : Store :=
  { s with mq := Function.update s.mq mq (f (s.mq mq)) }
@[simps -fullyApplied] def setDescriptor (s : Store) (des : Addr) (f : Descriptor → Descriptor) : Store :=
  { s with descriptor := Function.update s.descriptor des (f (s.descriptor des)) }
@[simps -fullyApplied] def setMessage (s : Store) (m : Addr) (f : Message → Message) : Store :=
  { s with message := Function.update s.message m (f (s.message m)) }

section Fields
variable (s : Store) (p q : Addr) (f : PCB → PCB)

@[simp] theorem pcb_ptr_setPCB : (s.setPCB p f).pcb_ptr = s.pcb_ptr := rfl
@[simp] theorem timer_item_setPCB : (s.setPCB p f).timer_item = s.timer_item := rfl
@[simp] theorem resource_setPCB : (s.setPCB p f).resource = s.resource := rfl
@[simp] theorem descriptor_setPCB : (s.setPCB p f).descriptor = s.descriptor := rfl
@[simp] theorem descriptor_ptr_setPCB : (s.setPCB p f).descriptor_ptr = s.descriptor_ptr := rfl
@[simp] theorem mq_setPCB : (s.setPCB p f).mq = s.mq := rfl
@[simp] theorem message_setPCB : (s.setPCB p f).message = s.message := rfl
@[simp] theorem init_pcb_setPCB : (s.setPCB p f).init_pcb = s.init_pcb := rfl
@[simp] theorem running_setPCB : (s.setPCB p f).running = s.running := rfl
@[simp] theorem last_pid_setPCB : (s.setPCB p f).last_pid = s.last_pid := rfl
@[simp] theorem disastrOS_time_setPCB : (s.setPCB p f).disastrOS_time = s.disastrOS_time := rfl
@[simp] theorem log_file_setPCB : (s.setPCB p f).log_file = s.log_file := rfl
@[simp] theorem start_args_setPCB : (s.setPCB p f).start_args = s.start_args := rfl
@[simp] theorem memory_setPCB : (s.setPCB p f).memory = s.memory := rfl

theorem pcb_setPCB : (s.setPCB p f).pcb q = if q = p then f (s.pcb p) else s.pcb q :=
  Function.update_apply ..

theorem field_setPCB {α : Type} (field : PCB → α) :
    field ((s.setPCB p f).pcb q) = if q = p then field (f (s.pcb p)) else field (s.pcb q) :=
  (congrArg field (s.pcb_setPCB p q f)).trans (apply_ite field ..)

theorem field_setPCB_of_same {α : Type} (field : PCB → α) (same : ∀ u, field (f u) = field u) :
    field ((s.setPCB p f).pcb q) = field (s.pcb q) := by
  refine (s.field_setPCB p q f field).trans ?_
  split <;> simp [*]

@[simp] theorem pid_setPCB :
    ((s.setPCB p f).pcb q).pid = if q = p then (f (s.pcb p)).pid else (s.pcb q).pid :=
  field_setPCB s p q f (·.pid)
@[simp high] theorem pid_setPCB_of_same (same : ∀ u, (f u).pid = u.pid) :
    ((s.setPCB p f).pcb q).pid = (s.pcb q).pid := field_setPCB_of_same s p q f (·.pid) same

@[simp] theorem status_setPCB :
    ((s.setPCB p f).pcb q).status = if q = p then (f (s.pcb p)).status else (s.pcb q).status :=
  field_setPCB s p q f (·.status)
@[simp high] theorem status_setPCB_of_same (same : ∀ u, (f u).status = u.status) :
    ((s.setPCB p f).pcb q).status = (s.pcb q).status := field_setPCB_of_same s p q f (·.status) same

@[simp] theorem parent_setPCB :
    ((s.setPCB p f).pcb q).parent = if q = p then (f (s.pcb p)).parent else (s.pcb q).parent :=
  field_setPCB s p q f (·.parent)
@[simp high] theorem parent_setPCB_of_same (same : ∀ u, (f u).parent = u.parent) :
    ((s.setPCB p f).pcb q).parent = (s.pcb q).parent := field_setPCB_of_same s p q f (·.parent) same

@[simp] theorem timer_setPCB :
    ((s.setPCB p f).pcb q).timer = if q = p then (f (s.pcb p)).timer else (s.pcb q).timer :=
  field_setPCB s p q f (·.timer)
@[simp high] theorem timer_setPCB_of_same (same : ∀ u, (f u).timer = u.timer) :
    ((s.setPCB p f).pcb q).timer = (s.pcb q).timer := field_setPCB_of_same s p q f (·.timer) same

@[simp] theorem last_fd_setPCB :
    ((s.setPCB p f).pcb q).last_fd = if q = p then (f (s.pcb p)).last_fd else (s.pcb q).last_fd :=
  field_setPCB s p q f (·.last_fd)
@[simp high] theorem last_fd_setPCB_of_same (same : ∀ u, (f u).last_fd = u.last_fd) :
    ((s.setPCB p f).pcb q).last_fd = (s.pcb q).last_fd := field_setPCB_of_same s p q f (·.last_fd) same

@[simp] theorem syscall_num_setPCB :
    ((s.setPCB p f).pcb q).syscall_num = if q = p then (f (s.pcb p)).syscall_num else (s.pcb q).syscall_num :=
  field_setPCB s p q f (·.syscall_num)
@[simp high] theorem syscall_num_setPCB_of_same (same : ∀ u, (f u).syscall_num = u.syscall_num) :
    ((s.setPCB p f).pcb q).syscall_num = (s.pcb q).syscall_num := field_setPCB_of_same s p q f (·.syscall_num) same

@[simp] theorem syscall_args_setPCB :
    ((s.setPCB p f).pcb q).syscall_args = if q = p then (f (s.pcb p)).syscall_args else (s.pcb q).syscall_args :=
  field_setPCB s p q f (·.syscall_args)
@[simp high] theorem syscall_args_setPCB_of_same (same : ∀ u, (f u).syscall_args = u.syscall_args) :
    ((s.setPCB p f).pcb q).syscall_args = (s.pcb q).syscall_args := field_setPCB_of_same s p q f (·.syscall_args) same

@[simp] theorem return_value_setPCB : ((s.setPCB p f).pcb q).return_value =
    if q = p then (f (s.pcb p)).return_value else (s.pcb q).return_value :=
  field_setPCB s p q f (·.return_value)
@[simp high] theorem return_value_setPCB_of_same (same : ∀ u, (f u).return_value = u.return_value) :
    ((s.setPCB p f).pcb q).return_value = (s.pcb q).return_value :=
  field_setPCB_of_same s p q f (·.return_value) same

@[simp] theorem cpu_state_setPCB : ((s.setPCB p f).pcb q).cpu_state =
    if q = p then (f (s.pcb p)).cpu_state else (s.pcb q).cpu_state :=
  field_setPCB s p q f (·.cpu_state)
@[simp high] theorem cpu_state_setPCB_of_same (same : ∀ u, (f u).cpu_state = u.cpu_state) :
    ((s.setPCB p f).pcb q).cpu_state = (s.pcb q).cpu_state :=
  field_setPCB_of_same s p q f (·.cpu_state) same

@[simp] theorem syscall_retvalue_setPCB : ((s.setPCB p f).pcb q).syscall_retvalue =
    if q = p then (f (s.pcb p)).syscall_retvalue else (s.pcb q).syscall_retvalue :=
  field_setPCB s p q f (·.syscall_retvalue)
@[simp high] theorem syscall_retvalue_setPCB_of_same (same : ∀ u, (f u).syscall_retvalue = u.syscall_retvalue) :
    ((s.setPCB p f).pcb q).syscall_retvalue = (s.pcb q).syscall_retvalue :=
  field_setPCB_of_same s p q f (·.syscall_retvalue) same

end Fields

end Store

/-! ## Lists and pools -/

/-- The links of all blocks and the allocators of all pools. -/
structure Heap where
  links : Links Head Addr
  pools : Pool → PoolAllocator

inductive Op : Type → Type where
  | first (head : Head) : Op Pointer
  | last (head : Head) : Op Pointer
  | size (head : Head) : Op Int
  | next (item : Addr) : Op Pointer
  | clear (item : Addr) : Op Unit
  | init (head : Head) : Op Unit
  | insert (head : Head) (prev : Pointer) (item : Addr) : Op Pointer
  | detach (head : Head) (item : Addr) : Op Unit
  | getBlock (pool : Pool) : Op Pointer
  | releaseBlock (pool : Pool) (block : Addr) : Op PoolAllocatorResult

namespace Heap

def setLinks (m : Heap) (links : Links Head Addr) : Heap := { m with links := links }
def setPool (m : Heap) (p : Pool) (a : PoolAllocator) : Heap :=
  { m with pools := Function.update m.pools p a }

/-- The operations as `linked_list.c` and `pool_allocator.c` compute them. An
allocator subtracts its buffer from the pointer it is given back, which is
undefined for a pointer into another object. -/
def exec : {β : Type} → Op β → Heap → Option (β × Heap)
  | _, .first head, m => some ((m.links.head head).first, m)
  | _, .last head, m => some ((m.links.head head).last, m)
  | _, .size head, m => some ((m.links.head head).size, m)
  | _, .next item, m => some ((m.links.item item).next, m)
  | _, .clear item, m => some ((), m.setLinks (m.links.clear item))
  | _, .init head, m => some ((), m.setLinks (m.links.List_init head))
  | _, .insert head prev item, m =>
      let result := m.links.List_insert head prev item
      some (result.1, m.setLinks result.2)
  | _, .detach head item, m => some ((), m.setLinks (m.links.List_detach head item))
  | _, .getBlock pool, m =>
      let result := PoolAllocator_getBlock (m.pools pool)
      some (result.1.map (⟨pool, ·⟩), m.setPool pool result.2)
  | _, .releaseBlock pool block, m =>
      if block.pool = pool then
        let result := PoolAllocator_releaseBlock (m.pools pool) block.offset
        some (result.1, m.setPool pool result.2)
      else none

end Heap

/-- The data type the kernel runs on. -/
def heap : DataType Op where
  Data := Heap
  exec := Heap.exec

/-- Between two handlers the kernel is a store and a heap. -/
abbrev Kernel := State Store heap.Data

/-! ## Code -/

/-- Why the kernel stops. Besides a NULL pointer to an object, to a list item that
is inserted or detached, or into user memory these are a failed assertion, the
overflow of a signed counter of identifiers, an index outside a table, a jump into
a context that was never set, and `exit`. -/
inductive Stop where
  | null (object : Pool)
  | insertNull
  | detachNull
  | nullUser
  | assertion
  | overflow
  | outOfBounds
  | noContext
  | exit
  deriving DecidableEq

abbrev Code := Program Store Stop Op

/-- Use a pointer to an object. -/
def deref (object : Pool) : Pointer → Code Addr
  | some address => pure address
  | none => .fail (.null object)

def get {α : Type} (field : Store → α) : Code α := .get field
def modify (update : Store → Store) : Code Unit := .modify update
def setPCB (pcb : Addr) (f : PCB → PCB) : Code Unit := modify fun s => s.setPCB pcb f

def first (head : Head) : Code Pointer := .perform (.first head)
def last (head : Head) : Code Pointer := .perform (.last head)
def size (head : Head) : Code Int := .perform (.size head)
def next (item : Addr) : Code Pointer := .perform (.next item)
def clear (item : Addr) : Code Unit := .perform (.clear item)
def List_init (head : Head) : Code Unit := .perform (.init head)
def getBlock (pool : Pool) : Code Pointer := .perform (.getBlock pool)
def releaseBlock (pool : Pool) (block : Addr) : Code PoolAllocatorResult :=
  .perform (.releaseBlock pool block)

def List_insert (head : Head) (prev item : Pointer) : Code Pointer :=
  match item with
  | some item => .perform (.insert head prev item)
  | none => .fail .insertNull

def List_detach (head : Head) (item : Pointer) : Code Addr :=
  match item with
  | some item => do
    .perform (.detach head item)
    return item
  | none => .fail .detachNull

/-- `List_insert(&head, head.last, item)`, as every list but two grows. -/
def List_append (head : Head) (item : Pointer) : Code Unit := do
  let _ ← List_insert head (← last head) item

/-- The scan shared by the `_byId`, `_byFd` and `_byPID` functions: the first
item of the list that passes the test. -/
def List_search (head : Head) (test : Store → Addr → Bool) : Code Pointer := do
  let aux ← first head
  .iterate (fun aux =>
    match aux with
    | none => return .inr none
    | some item => do
      if test (← get id) item then return .inr (some item)
      else return .inl (← next item)) aux

/-- Passing `length` bytes to or from the process touches its memory only when
there is one. -/
def user (address length : Int) : Code Unit :=
  if 0 < length ∧ address = 0 then .fail .nullUser else pure ()

/-- `*result = value`, in the byte order of the target. -/
def storeInt (memory : Int → UInt8) (result value : Int) (address : Int) : UInt8 :=
  if result ≤ address ∧ address < result + 4 then
    UInt8.ofNat (value / 256 ^ (address - result).toNat % 256).toNat
  else memory address

/-- The `int` whose four bytes stand at an address, the least significant first. -/
def readInt (memory : Int → UInt8) (address : Int) : Int :=
  int32 ((memory address).toNat + 256 * (memory (address + 1)).toNat + 256 ^ 2 * (memory (address + 2)).toNat +
    256 ^ 3 * (memory (address + 3)).toNat)

theorem readInt_storeInt (memory : Int → UInt8) (result value : Int) :
    readInt (storeInt memory result value) result = int32 value := by
  have byte (i : Nat) (small : i < 4) :
      ((storeInt memory result value (result + i)).toNat : Int) = value / 256 ^ i % 256 := by
    have inside : result ≤ result + i ∧ result + i < result + 4 := by omega
    have offset : (result + i - result).toNat = i := by omega
    have bound : 0 ≤ value / 256 ^ i % 256 ∧ value / 256 ^ i % 256 < 256 := by omega
    rw [storeInt, if_pos inside, offset, UInt8.toNat_ofNat']
    omega
  have first := byte 0 (by decide)
  have second := byte 1 (by decide)
  have third := byte 2 (by decide)
  have fourth := byte 3 (by decide)
  norm_num at first second third fourth
  have digits : value % 256 + 256 * (value / 256 % 256) + 256 ^ 2 * (value / 65536 % 256) +
      256 ^ 3 * (value / 16777216 % 256) = value % (2 ^ 32 : Nat) := by omega
  rw [readInt, first, second, third, fourth, digits]
  exact Int.emod_bmod ..

theorem storeInt_outside {memory : Int → UInt8} {result value address : Int}
    (outside : address < result ∨ result + 4 ≤ address) : storeInt memory result value address = memory address := by
  rw [storeInt, if_neg (by omega)]

end DisastrOS
