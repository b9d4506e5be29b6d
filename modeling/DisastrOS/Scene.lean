import DisastrOS.View

/-! What the handlers do to sequences of blocks.

A scene is a store with the shape of the lists and pools. Each handler is given
by the outcomes it may have on a scene: the answer it writes, the blocks it
moves, or why the kernel stops. The definitions name the blocks a handler works
on; that the code finds exactly these is proved where the code is run.
-/

set_option autoImplicit false

namespace DisastrOS

open Refinement

structure Scene extends Shape Head Pool Addr where
  store : Store

def View.scene {c : Config} (v : View c) : Scene := ⟨Arena.toShape v.data, v.store⟩

namespace Scene
variable (k : Scene)

/-- A block that the pool has handed out. -/
def Live (c : Config) (x : Addr) : Prop := k.toShape.Live (layout c) x

def update (f : Store → Store) : Scene := { k with store := f k.store }
def setPCB (p : Addr) (f : PCB → PCB) : Scene := k.update fun s => s.setPCB p f
def run (p : Pointer) : Scene := k.update fun s => { s with running := p }

def insert (h : Head) (prev : Pointer) (x : Addr) : Scene :=
  { k with toShape := k.toShape.insert h prev x }
def append (h : Head) (x : Addr) : Scene := { k with toShape := k.toShape.append h x }
def detach (h : Head) (x : Addr) : Scene := { k with toShape := k.toShape.detach h x }
def reset (h : Head) : Scene := { k with toShape := k.toShape.reset h }
def alloc (p : Pool) : Scene := { k with toShape := k.toShape.alloc p }
def release (p : Pool) (x : Addr) : Scene := { k with toShape := k.toShape.release p x }

section Effects
variable {k} {f : Store → Store} {g : PCB → PCB} {h : Head} {prev q : Pointer} {x : Addr} {p : Pool}

@[simp] theorem toShape_update : (k.update f).toShape = k.toShape := rfl
@[simp] theorem store_update : (k.update f).store = f k.store := rfl
@[simp] theorem toShape_setPCB : (k.setPCB x g).toShape = k.toShape := rfl
@[simp] theorem store_setPCB : (k.setPCB x g).store = k.store.setPCB x g := rfl
@[simp] theorem toShape_run : (k.run q).toShape = k.toShape := rfl
@[simp] theorem store_run : (k.run q).store = { k.store with running := q } := rfl
@[simp] theorem toShape_insert : (k.insert h prev x).toShape = k.toShape.insert h prev x := rfl
@[simp] theorem store_insert : (k.insert h prev x).store = k.store := rfl
@[simp] theorem toShape_append : (k.append h x).toShape = k.toShape.append h x := rfl
@[simp] theorem store_append : (k.append h x).store = k.store := rfl
@[simp] theorem toShape_detach : (k.detach h x).toShape = k.toShape.detach h x := rfl
@[simp] theorem store_detach : (k.detach h x).store = k.store := rfl
@[simp] theorem toShape_reset : (k.reset h).toShape = k.toShape.reset h := rfl
@[simp] theorem store_reset : (k.reset h).store = k.store := rfl
@[simp] theorem toShape_alloc : (k.alloc p).toShape = k.toShape.alloc p := rfl
@[simp] theorem store_alloc : (k.alloc p).store = k.store := rfl
@[simp] theorem toShape_release : (k.release p x).toShape = k.toShape.release p x := rfl
@[simp] theorem store_release : (k.release p x).store = k.store := rfl

end Effects

/-! ## Moves -/

def answer (r : Addr) (value : Int) : Scene :=
  k.setPCB r fun p => { p with syscall_retvalue := value }

def report (result value : Int) : Scene :=
  if result = 0 then k else k.update fun s => { s with memory := storeInt s.memory result value }

@[simp] theorem toShape_answer (r : Addr) (value : Int) : (k.answer r value).toShape = k.toShape :=
  rfl
@[simp] theorem store_answer (r : Addr) (value : Int) :
    (k.answer r value).store = k.store.setPCB r fun p => { p with syscall_retvalue := value } := rfl

@[simp] theorem toShape_report (result value : Int) : (k.report result value).toShape = k.toShape := by
  unfold report
  split <;> rfl
@[simp] theorem store_report (result value : Int) :
    (k.report result value).store =
      { k.store with
        memory := if result = 0 then k.store.memory else storeInt k.store.memory result value } := by
  unfold report
  split <;> rfl

def block (r : Addr) : Scene :=
  (k.setPCB r fun p => { p with status := .Waiting }).append .waiting_list r

def dispatch (n : Addr) (status : ProcessStatus → ProcessStatus) : Scene :=
  ((k.detach .ready_list n).setPCB n fun p => { p with status := status p.status }).run (some n)

def wakeSleeper (prev : Pointer) (t p : Addr) : Scene :=
  ((((k.detach .waiting_list p).setPCB p fun q => { q with status := .Ready, timer := none }).insert
    .ready_list prev p).detach .timer_list t).release .timer_item t

def rotate (r n : Addr) : Scene :=
  ((((k.detach .ready_list n).setPCB r fun p => { p with status := .Ready }).append .ready_list
    r).setPCB n fun p => { p with status := .Running }).run (some n)

def startTimer (prev : Pointer) (t r : Addr) (awakening_time : Int) : Scene :=
  ((k.alloc .timer_item).update fun s =>
    { s with timer_item := Function.update s.timer_item t ⟨awakening_time, some r⟩ }).insert
      .timer_list prev t

/-- A new process `p`, with `e` for it in the children of `r`. -/
def newChild (r p e : Addr) : Scene :=
  (((((((k.alloc .pcb).alloc .pcb_ptr).reset (.descriptors p)).reset (.children p)).append
    (.children r) e).append .ready_list p).update fun s =>
      { s.setPCB p fun q =>
          { q with
            pid := s.last_pid
            return_value := 0
            status := .Ready
            signals := 0
            signals_mask := 0xFFFFFFFF
            parent := some r
            timer := none
            last_fd := 0 } with
        last_pid := s.last_pid + 1
        pcb_ptr := Function.update s.pcb_ptr e (some p) }).answer r k.store.last_pid

/-- A first process `p`, which nobody has created. -/
def restart (p : Addr) : Scene :=
  (((k.alloc .pcb).reset (.descriptors p)).reset (.children p)).update fun s =>
    { s.setPCB p fun q =>
        { q with
          pid := s.last_pid
          return_value := 0
          status := .Running
          signals := 0
          signals_mask := 0xFFFFFFFF
          parent := none
          cpu_state := .made s.last_pid s.start_args.function s.start_args.argument
          timer := none
          last_fd := 0 } with
      running := some p
      init_pcb := some p
      last_pid := s.last_pid + 1
      log_file := s.start_args.logfile }

/-- `r` collects the zombie `z`, whose entry is `e`. -/
def reap (r e z : Addr) (result : Int) : Scene :=
  ((((((k.detach (.children r) e).release .pcb_ptr e).detach .zombie_list z).answer r
    (k.store.pcb z).pid).report result (k.store.pcb z).return_value)).release .pcb z

def reparent (r i e p : Addr) : Scene :=
  ((k.detach (.children r) e).append (.children i) e).setPCB p fun q =>
    { q with signals := q.signals ||| (DSOS_SIGHUP &&& q.signals_mask) }

/-- `r` becomes a zombie and signals `q`, which its `parent` field names. -/
def bury (r q : Addr) : Scene :=
  ((k.setPCB r fun p => { p with status := .Zombie }).append .zombie_list r).setPCB q fun p =>
    { p with signals := p.signals ||| (DSOS_SIGCHLD &&& p.signals_mask) }

/-- `q` stops waiting for `r`; the wrapper `e` is left behind. -/
def resumeParent (r q e : Addr) : Scene :=
  ((((k.detach .waiting_list q).setPCB q fun p => { p with status := .Running }).detach
    (.children q) e).answer q (k.store.pcb r).pid).report ((k.store.pcb q).syscall_args 1)
      (k.store.pcb r).return_value

def dropDescriptor (r d q e : Addr) : Scene :=
  (((k.detach (.descriptors r) d).detach (.descriptors_ptrs q) e).release .descriptor_ptr
    e).release .descriptor d

def vanish (r q : Addr) : Scene := ((k.detach .zombie_list r).release .pcb r).run (some q)

def newResource (x : Addr) (id type : Int) : Scene :=
  (((k.alloc .resource).update fun s =>
    { s with resource := Function.update s.resource x ⟨id, type⟩ }).reset
      (.descriptors_ptrs x)).append .resources_list x

def newQueue (q : Addr) (id : Int) : Scene :=
  ((((((k.alloc .message_queue).update fun s =>
    s.setMQ q fun _ => { id := id, num_written := 0 }).reset (.descriptors_ptrs q)).reset
      (.messages q)).reset (.waiting_to_read q)).reset (.waiting_to_write q)).append .mq_list q

/-- A descriptor `d` of `r`, linked to the object `o` through `e`. -/
def openDescriptor (r o d e : Addr) (resource mq : Pointer) : Scene :=
  (((((k.alloc .descriptor).alloc .descriptor_ptr).append (.descriptors r) d).append
    (.descriptors_ptrs o) e).update fun s =>
      { (s.setDescriptor d fun _ =>
          { pcb := some r, resource := resource, mq := mq, fd := (s.pcb r).last_fd,
            ptr := some e }).setPCB r fun p => { p with last_fd := p.last_fd + 1 } with
        descriptor_ptr := Function.update s.descriptor_ptr e (some d) }).answer r
          (k.store.pcb r).last_fd

def closeDescriptor (r o d e : Addr) : Scene := (k.dropDescriptor r d o e).answer r 0

def destroy (r : Addr) (global : Head) (x : Addr) : Scene :=
  ((k.detach global x).release global.kind x).answer r 0

/-- `r` waits in a list of the queue, behind the wrapper `w`. -/
def enqueue (r w : Addr) (waiting : Head) : Scene :=
  ((((k.block r).alloc .pcb_ptr).update fun s =>
    { s with pcb_ptr := Function.update s.pcb_ptr w (some r) }).append waiting w)

def wakeWaiter (waiting : Head) (w p : Addr) : Scene :=
  (((k.detach waiting w).detach .waiting_list p).setPCB p fun q =>
    { q with status := .Ready, syscall_retvalue := -20 }).append .ready_list p

def wakeWriter (q w p : Addr) : Scene :=
  (k.wakeWaiter (.waiting_to_write q) w p).release .pcb_ptr w

def finishRead (r q m : Addr) (buf_des : Int) : Scene :=
  (k.update fun s =>
    { s.setMQ q fun u => { u with num_written := u.num_written - 1 } with
      memory := copyOut s.memory buf_des (s.message m).message (s.message m).length.toNat }).answer
        r (k.store.message m).length

def post (q m : Addr) (write_buffer length : Int) : Scene :=
  ((k.alloc .message).update fun s => s.setMessage m fun u =>
    { message := copyIn s.memory write_buffer u.message length.toNat, length := length }).append
      (.messages q) m

def finishWrite (r q : Addr) (length : Int) : Scene :=
  (k.update fun s => s.setMQ q fun u => { u with num_written := u.num_written + 1 }).answer r length

end Scene

end DisastrOS
