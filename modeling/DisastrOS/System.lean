import DisastrOS.Handlers

/-! System calls, timer ticks, start-up and the runs of the kernel (`disastrOS.c`). -/

set_option autoImplicit false

namespace DisastrOS

open Refinement

/-! ## Dispatch -/

def syscall_vector (c : Config) (n : Int) : Option (Code Unit) :=
  if n = DSOS_CALL_PREEMPT then some internal_preempt
  else if n = DSOS_CALL_FORK then some internal_fork
  else if n = DSOS_CALL_SPAWN then some internal_spawn
  else if n = DSOS_CALL_WAIT then some internal_wait
  else if n = DSOS_CALL_EXIT then some internal_exit
  else if n = DSOS_CALL_SLEEP then some internal_sleep
  else if n = DSOS_CALL_OPEN_RESOURCE then some internal_openResource
  else if n = DSOS_CALL_CLOSE_RESOURCE then some internal_closeResource
  else if n = DSOS_CALL_DESTROY_RESOURCE then some internal_destroyResource
  else if n = DSOS_CALL_SHUTDOWN then some internal_shutdown
  else if n = DSOS_CALL_OPEN_MQ then some internal_openMessageQueue
  else if n = DSOS_CALL_CLOSE_MQ then some internal_closeMessageQueue
  else if n = DSOS_CALL_WRITE_MQ then some (internal_MessageQueue_write c)
  else if n = DSOS_CALL_READ_MQ then some internal_MessageQueue_read
  else if n = DSOS_CALL_DESTROY_MQ then some internal_destroyMessageQueue
  else none

def syscall_numarg (n : Int) : Nat :=
  if n = DSOS_CALL_SPAWN then 2
  else if n = DSOS_CALL_WAIT then 2
  else if n = DSOS_CALL_EXIT then 1
  else if n = DSOS_CALL_SLEEP then 1
  else if n = DSOS_CALL_OPEN_RESOURCE then 3
  else if n = DSOS_CALL_CLOSE_RESOURCE then 1
  else if n = DSOS_CALL_DESTROY_RESOURCE then 1
  else if n = DSOS_CALL_OPEN_MQ then 2
  else if n = DSOS_CALL_CLOSE_MQ then 1
  else if n = DSOS_CALL_WRITE_MQ then 3
  else if n = DSOS_CALL_READ_MQ then 3
  else if n = DSOS_CALL_DESTROY_MQ then 1
  else 0

def tableIndex (n : Int) : Code Unit :=
  if 0 ≤ n ∧ n < DSOS_MAX_SYSCALLS then return () else .fail .outOfBounds

/-- `fprintf` of a line about the running process, when there is a log file. -/
def log : Code Unit := do
  if ← get (·.log_file) then
    let _ ← self

def disastrOS_trap (c : Config) : Code Unit := do
  let running ← self
  let syscall_num ← get fun s => (s.pcb running).syscall_num
  log
  if syscall_num < 0 ∨ syscall_num > DSOS_MAX_SYSCALLS then setRetvalue DSOS_ESYSCALL_OUT_OF_RANGE
  else do
    tableIndex syscall_num
    match syscall_vector c syscall_num with
    | none => setRetvalue DSOS_ESYSCALL_NOT_IMPLEMENTED
    | some my_syscall => my_syscall
  log

def storeArgs (syscall_args args : Nat → Int) : Nat → Nat → Int
  | 0 => syscall_args
  | n + 1 => Function.update (storeArgs syscall_args args n) n (args n)

/-- The answer is the code returned without a trap, if any. The caller of a trap
finds its result in `syscall_retvalue` when it runs again. -/
def disastrOS_syscall (c : Config) (syscall_num : Int) (args : Nat → Int) : Code (Option Int) := do
  match ← get (·.running) with
  | none => .fail .assertion
  | some running =>
    if syscall_num < 0 ∨ syscall_num > DSOS_MAX_SYSCALLS then
      return some DSOS_ESYSCALL_OUT_OF_RANGE
    else
      tableIndex syscall_num
      setPCB running fun p =>
        { p with syscall_args := storeArgs p.syscall_args args (syscall_numarg syscall_num) }
      setPCB running fun p =>
        { p with syscall_num := syscall_num, cpu_state := .swapped p.pid }
      disastrOS_trap c
      return none

/-- `timerHandler` saves the context of the running process and enters
`timerInterrupt`. The clock is an `int` that wraps. -/
def timerInterrupt : Code Unit := do
  let running ← self
  setPCB running fun p => { p with cpu_state := .swapped p.pid }
  log
  modify fun s => { s with disastrOS_time := int32 (s.disastrOS_time + 1) }
  internal_schedule
  let _ ← self

/-! ## Start-up -/

def Store.zero : Store where
  pcb _ :=
    { pid := 0, return_value := 0, status := .Created, signals := 0, signals_mask := 0,
      parent := none, cpu_state := .unset, timer := none, last_fd := 0, syscall_num := 0,
      syscall_args := fun _ => 0, syscall_retvalue := 0 }
  pcb_ptr _ := none
  timer_item _ := ⟨0, none⟩
  resource _ := ⟨0, 0⟩
  descriptor _ := ⟨none, none, none, 0, none⟩
  descriptor_ptr _ := none
  mq _ := ⟨0, 0⟩
  message _ := ⟨fun _ => 0, 0⟩
  init_pcb := none
  running := none
  last_pid := 0
  disastrOS_time := 0
  log_file := false
  start_args := ⟨0, 0, false⟩
  memory _ := 0

def Links.zero : Links Head Addr := ⟨fun _ => ⟨none, none⟩, fun _ => ⟨none, none, 0⟩⟩

def PoolAllocator.zero : PoolAllocator := ⟨0, 0, fun _ => 0, 0, 0, 0, 0, 0⟩

/-- The call of `PoolAllocator_init` for each pool. Offsets are relative to the
static buffer, whose own address is 0. -/
def pool_init (c : Config) (p : Pool) : PoolAllocatorResult × PoolAllocator :=
  PoolAllocator_init .zero p.sizeof (c.num_items p) 0 (c.memory_size p)

/-- What follows `getcontext(&main_context)` in `disastrOS_start`. `shutdown_now` is
zero whenever the kernel comes here: `internal_shutdown` sets it on its way to `exit`. -/
def main_context : Code Unit := do
  let running ← deref .pcb (← PCB_alloc)
  modify fun s => { s with running := some running }
  setPCB running fun p => { p with status := .Running }
  modify fun s => { s with init_pcb := some running }
  modify fun s => s.setPCB running fun p =>
    { p with cpu_state := .made p.pid s.start_args.function s.start_args.argument }
  modify fun s => { s with log_file := s.start_args.logfile }

def disastrOS_start (function argument : Int) (logfile : Bool) : Code Unit := do
  modify fun s => { s with start_args := ⟨function, argument, logfile⟩ }
  modify fun s => { s with init_pcb := none, running := none }
  List_init .ready_list
  List_init .waiting_list
  List_init .zombie_list
  List_init .resources_list
  List_init .timer_list
  List_init .mq_list
  main_context

/-- The state the first process starts in: every pool was set up, or the
assertion after its set-up would have failed. -/
def Started (c : Config) (k : Kernel) : Prop :=
  (∀ p, (pool_init c p).1 = .Success) ∧
    ∃ function argument logfile fuel,
      (disastrOS_start function argument logfile).run heap fuel
        ⟨.zero, .zero, fun p => (pool_init c p).2⟩ = .done () k

/-! ## Runs -/

/-- The processor leaves the trap or the interrupt: `running` goes on, or nobody is
left and `uc_link` leads back to `main_context`. -/
def proceed : Code Unit := do
  match ← get (·.running) with
  | some running =>
    if (← get fun s => (s.pcb running).cpu_state) = .unset then .fail .noContext
  | none => main_context

/-- What happens between two states: the running process computes in its own
memory, it makes a system call, the timer expires, or the processor leaves the
kernel. A run may leave out the last where it changes nothing. -/
inductive Event where
  | user (memory : Int → UInt8)
  | syscall (num : Int) (args : Nat → Int)
  | tick
  | proceed

def Event.code (c : Config) : Event → Code Unit
  | .user memory => modify fun s => { s with memory := memory }
  | .syscall num args => do let _ ← disastrOS_syscall c num args
  | .tick => timerInterrupt
  | .proceed => DisastrOS.proceed

/-- The kernel answers the event, after finitely many rounds of its loops. -/
def Step (c : Config) (k : Kernel) (e : Event) (k' : Kernel) : Prop :=
  ∃ fuel, (e.code c).run heap fuel k = .done () k'

/-- The event stops the kernel. -/
def Halts (c : Config) (k : Kernel) (e : Event) (stop : Stop) : Prop :=
  ∃ fuel, (e.code c).run heap fuel k = .fault stop

inductive Run (c : Config) : Kernel → List Event → Kernel → Prop where
  | nil (k : Kernel) : Run c k [] k
  | snoc {k k' k'' : Kernel} {es : List Event} {e : Event} :
      Run c k es k' → Step c k' e k'' → Run c k (es ++ [e]) k''

/-- The states between two handlers, in every run up to the event that stops the kernel. -/
inductive Reachable (c : Config) : Kernel → Prop where
  | start {k : Kernel} : Started c k → Reachable c k
  | step {k k' : Kernel} {e : Event} : Reachable c k → Step c k e k' → Reachable c k'

/-- The states of the runs whose steps all meet `ok`, a condition on the state
before the step and the event. -/
inductive ReachableWith (c : Config) (ok : Kernel → Event → Prop) : Kernel → Prop where
  | start {k : Kernel} : Started c k → ReachableWith c ok k
  | step {k k' : Kernel} {e : Event} :
      ReachableWith c ok k → ok k e → Step c k e k' → ReachableWith c ok k'

end DisastrOS
