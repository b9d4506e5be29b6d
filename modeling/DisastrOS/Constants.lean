import Mathlib.Data.Fintype.Basic
import Mathlib.Tactic.Ring

/-! The constants of `disastrOS_constants.h` and the pools they dimension. -/

set_option autoImplicit false

namespace DisastrOS

/-- The static arrays of blocks, one per kernel object. -/
inductive Pool where
  | pcb
  | pcb_ptr
  | timer_item
  | resource
  | descriptor
  | descriptor_ptr
  | message_queue
  | message
  deriving DecidableEq

instance : Fintype Pool where
  elems := {.pcb, .pcb_ptr, .timer_item, .resource, .descriptor, .descriptor_ptr, .message_queue,
    .message}
  complete p := by cases p <;> decide

/-- `sizeof` of the object, on the 64-bit target the repository is built for. -/
def Pool.sizeof : Pool → Nat
  | .pcb => 17544
  | .pcb_ptr => 24
  | .timer_item => 32
  | .resource => 48
  | .descriptor => 56
  | .descriptor_ptr => 24
  | .message_queue => 128
  | .message => 88

theorem Pool.sizeof_pos (p : Pool) : 0 < p.sizeof := by
  cases p <;> decide

/-- The constants a user may change. -/
structure Config where
  MAX_NUM_PROCESSES : Nat
  MAX_NUM_RESOURCES : Nat
  MAX_NUM_DESCRIPTORS_PER_PROCESS : Nat
  MAX_LEN_MESSAGE : Nat
  MAX_NUM_MESSAGEQUEUES : Nat
  MAX_NUM_MESSAGES : Nat
  MESSAGES_EXTRA : Nat

namespace Config

/-- The `num_items` each `_init` function passes to its allocator. -/
def num_items (c : Config) : Pool → Nat
  | .pcb => c.MAX_NUM_PROCESSES
  | .pcb_ptr => c.MAX_NUM_PROCESSES
  | .timer_item => c.MAX_NUM_PROCESSES
  | .resource => c.MAX_NUM_RESOURCES
  | .descriptor => c.MAX_NUM_PROCESSES
  | .descriptor_ptr => c.MAX_NUM_PROCESSES
  | .message_queue => c.MAX_NUM_MESSAGEQUEUES
  | .message => c.MAX_NUM_MESSAGES * c.MAX_NUM_MESSAGEQUEUES * c.MESSAGES_EXTRA * 10

/-- The size of the static buffer behind each allocator. -/
def memory_size (c : Config) : Pool → Nat
  | .pcb => c.MAX_NUM_PROCESSES * (Pool.pcb.sizeof + 4)
  | .pcb_ptr => c.MAX_NUM_PROCESSES * (Pool.pcb_ptr.sizeof + 4)
  | .timer_item => c.MAX_NUM_PROCESSES * (Pool.timer_item.sizeof + 4)
  | .resource => c.MAX_NUM_RESOURCES * (Pool.resource.sizeof + 4)
  | .descriptor =>
      c.MAX_NUM_DESCRIPTORS_PER_PROCESS * c.MAX_NUM_PROCESSES * (Pool.descriptor.sizeof + 4)
  | .descriptor_ptr =>
      c.MAX_NUM_DESCRIPTORS_PER_PROCESS * c.MAX_NUM_PROCESSES * (Pool.descriptor_ptr.sizeof + 4)
  | .message_queue => c.MAX_NUM_MESSAGEQUEUES * (Pool.message_queue.sizeof + 4) * 10
  | .message =>
      c.MAX_NUM_MESSAGES * (Pool.message.sizeof + 4) * c.MAX_NUM_MESSAGEQUEUES *
        c.MESSAGES_EXTRA * 10

end Config

/-- A configuration whose buffers exist and whose sizes are `int` values. -/
structure Constants extends Config where
  positive : ∀ p, 0 < toConfig.num_items p
  descriptors : 0 < MAX_NUM_DESCRIPTORS_PER_PROCESS
  small : ∀ p, toConfig.memory_size p < 2 ^ 31

/-- The constants as the repository sets them. -/
def constants : Constants where
  MAX_NUM_PROCESSES := 2048
  MAX_NUM_RESOURCES := 2048
  MAX_NUM_DESCRIPTORS_PER_PROCESS := 520
  MAX_LEN_MESSAGE := 64
  MAX_NUM_MESSAGEQUEUES := 4
  MAX_NUM_MESSAGES := 256
  MESSAGES_EXTRA := 32
  positive := by decide
  descriptors := by decide
  small := by decide

/-- Every buffer holds its blocks and their indices. -/
theorem Constants.enough (c : Constants) (p : Pool) :
    c.num_items p * (p.sizeof + 4) ≤ c.memory_size p := by
  have descriptors := c.descriptors
  cases p with
  | descriptor =>
    exact Nat.mul_le_mul_right _ (Nat.le_mul_of_pos_left _ descriptors)
  | descriptor_ptr =>
    exact Nat.mul_le_mul_right _ (Nat.le_mul_of_pos_left _ descriptors)
  | message_queue => simp only [Config.num_items, Config.memory_size]; omega
  | message =>
    apply le_of_eq
    simp only [Config.num_items, Config.memory_size]
    ring
  | _ => exact Nat.le_refl _

/-! ## Return codes, system call numbers and modes -/

def DSOS_ESYSCALL_NOT_IMPLEMENTED : Int := -2
def DSOS_ESYSCALL_OUT_OF_RANGE : Int := -3
def DSOS_EWAIT : Int := -5
def DSOS_ESPAWN : Int := -6
def DSOS_ESLEEP : Int := -7
def DSOS_ERESOURCECREATE : Int := -8
def DSOS_ERESOURCEOPEN : Int := -9
def DSOS_ERESOURCENOEXCL : Int := -10
def DSOS_ERESOURCENOFD : Int := -11
def DSOS_ERESOURCECLOSE : Int := -12
def DSOS_ERESOURCEINUSE : Int := -13

def DSOS_MAX_SYSCALLS : Int := 32
def DSOS_MAX_SYSCALLS_ARGS : Nat := 8
def DSOS_CALL_PREEMPT : Int := 1
def DSOS_CALL_FORK : Int := 2
def DSOS_CALL_WAIT : Int := 3
def DSOS_CALL_EXIT : Int := 4
def DSOS_CALL_SPAWN : Int := 5
def DSOS_CALL_SLEEP : Int := 6
def DSOS_CALL_OPEN_RESOURCE : Int := 7
def DSOS_CALL_CLOSE_RESOURCE : Int := 8
def DSOS_CALL_DESTROY_RESOURCE : Int := 9
def DSOS_CALL_SHUTDOWN : Int := 10
def DSOS_CALL_OPEN_MQ : Int := 11
def DSOS_CALL_CLOSE_MQ : Int := 12
def DSOS_CALL_WRITE_MQ : Int := 13
def DSOS_CALL_READ_MQ : Int := 14
def DSOS_CALL_DESTROY_MQ : Int := 15

def DSOS_CREATE : Int := 1
def DSOS_EXCL : Int := 4

def DSOS_SIGCHLD : BitVec 32 := 1
def DSOS_SIGHUP : BitVec 32 := 2

/-- The largest `int`. -/
def INT_MAX : Int := 2 ^ 31 - 1

end DisastrOS
