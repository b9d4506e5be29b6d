import DisastrOS.Invariants

/-! What a move leaves alone.

A move touches the blocks of a few pools. Its frame says so, operation by
operation, and each part of the invariant is kept by a frame that leaves its
pools untouched.
-/

set_option autoImplicit false

namespace DisastrOS

open Refinement

structure Scene.Frame (touched : List Pool) (k k' : Scene) : Prop where
  place : ∀ {x}, x.pool ∉ touched → k'.place x = k.place x
  seq : ∀ {h}, h.kind ∉ touched → k'.seq h = k.seq h
  free : ∀ {p}, p ∉ touched → k'.free p = k.free p
  status : .pcb ∉ touched → ∀ p, k'.status p = k.status p
  pid : ∀ p, (k'.store.pcb p).pid = (k.store.pcb p).pid
  parent : ∀ p, (k'.store.pcb p).parent = (k.store.pcb p).parent
  timer : ∀ p, (k'.store.pcb p).timer = none ∨ (k'.store.pcb p).timer = (k.store.pcb p).timer
  call : ∀ p, (k'.store.pcb p).syscall_num = (k.store.pcb p).syscall_num
  args : ∀ p, (k'.store.pcb p).syscall_args = (k.store.pcb p).syscall_args
  pcb_ptr : .pcb_ptr ∉ touched → k'.store.pcb_ptr = k.store.pcb_ptr
  timer_item : .timer_item ∉ touched → k'.store.timer_item = k.store.timer_item
  descriptor : .descriptor ∉ touched → k'.store.descriptor = k.store.descriptor
  descriptor_ptr : .descriptor_ptr ∉ touched → k'.store.descriptor_ptr = k.store.descriptor_ptr
  mq : .message_queue ∉ touched → k'.store.mq = k.store.mq
  message : .message ∉ touched → k'.store.message = k.store.message
  init_pcb : k'.store.init_pcb = k.store.init_pcb
  last_pid : k'.store.last_pid = k.store.last_pid

namespace Scene.Frame

variable {c : Config} {touched : List Pool} {k k' k'' : Scene}

theorem live (frame : Frame touched k k') {x : Addr} (other : x.pool ∉ touched) :
    k'.Live c x ↔ k.Live c x := by
  simp [Scene.Live, Shape.Live, frame.free other]

theorem intArg (frame : Frame touched k k') (p : Addr) (i : Nat) : k'.intArg p i = k.intArg p i := by
  simp only [Scene.intArg, Scene.arg, frame.args]

theorem linked (frame : Frame touched k k') (sound : k.Sound c) (sound' : k'.Sound c) (h : Head)
    {x : Addr} (other : h.kind ∉ touched) : k'.place x = .linked h ↔ k.place x = .linked h := by
  constructor
  · intro there
    rw [← frame.place (sound'.kind there ▸ other), there]
  · intro there
    rw [frame.place (sound.kind there ▸ other), there]

theorem blocked (frame : Frame touched k k') (sound : k.Sound c) (sound' : k'.Sound c)
    (other : .pcb ∉ touched) {p : Addr} {num : Int} : k'.Blocked p num ↔ k.Blocked p num := by
  have place : k'.place p = .linked .waiting_list ↔ k.place p = .linked .waiting_list :=
    frame.linked sound sound' .waiting_list other
  rw [Scene.Blocked, place, frame.call]
  rfl

theorem trans (first : Frame touched k k') (second : Frame touched k' k'') : Frame touched k k'' where
  place other := (second.place other).trans (first.place other)
  seq other := (second.seq other).trans (first.seq other)
  free other := (second.free other).trans (first.free other)
  status other p := (second.status other p).trans (first.status other p)
  pid p := (second.pid p).trans (first.pid p)
  parent p := (second.parent p).trans (first.parent p)
  timer p := by
    rcases second.timer p with none | same
    · exact .inl none
    · rw [same]
      exact first.timer p
  call p := (second.call p).trans (first.call p)
  args p := (second.args p).trans (first.args p)
  pcb_ptr other := (second.pcb_ptr other).trans (first.pcb_ptr other)
  timer_item other := (second.timer_item other).trans (first.timer_item other)
  descriptor other := (second.descriptor other).trans (first.descriptor other)
  descriptor_ptr other := (second.descriptor_ptr other).trans (first.descriptor_ptr other)
  mq other := (second.mq other).trans (first.mq other)
  message other := (second.message other).trans (first.message other)
  init_pcb := second.init_pcb.trans first.init_pcb
  last_pid := second.last_pid.trans first.last_pid

theorem of_shape (store : k'.store = k.store)
    (place : ∀ {x}, x.pool ∉ touched → k'.place x = k.place x)
    (seq : ∀ {h}, h.kind ∉ touched → k'.seq h = k.seq h)
    (free : ∀ {p}, p ∉ touched → k'.free p = k.free p) : Frame touched k k' := by
  constructor <;> simp_all [Scene.status]

section Operations
variable {h : Head} {x : Addr} {p : Pool} {prev : Pointer}

theorem insert (pool : x.pool = p) (here : p ∈ touched) (kind : h.kind = p) :
    Frame touched k (k.insert h prev x) :=
  of_shape rfl (fun other => Function.update_of_ne (by rintro rfl; exact other (pool ▸ here)) ..)
    (fun other => Function.update_of_ne (by rintro rfl; exact other (kind ▸ here)) ..) fun _ => rfl

theorem append (pool : x.pool = p) (here : p ∈ touched) (kind : h.kind = p) :
    Frame touched k (k.append h x) :=
  of_shape rfl (fun other => Function.update_of_ne (by rintro rfl; exact other (pool ▸ here)) ..)
    (fun other => Function.update_of_ne (by rintro rfl; exact other (kind ▸ here)) ..) fun _ => rfl

theorem detach (pool : x.pool = p) (here : p ∈ touched) (kind : h.kind = p) :
    Frame touched k (k.detach h x) :=
  of_shape rfl (fun other => Function.update_of_ne (by rintro rfl; exact other (pool ▸ here)) ..)
    (fun other => Function.update_of_ne (by rintro rfl; exact other (kind ▸ here)) ..) fun _ => rfl

theorem reset (kinded : ∀ {x}, k.place x = .linked h → x.pool = h.kind) (here : p ∈ touched)
    (kind : h.kind = p) : Frame touched k (k.reset h) :=
  of_shape rfl (fun other => if_neg fun linked => other (kinded linked ▸ kind ▸ here))
    (fun other => Function.update_of_ne (by rintro rfl; exact other (kind ▸ here)) ..) fun _ => rfl

theorem alloc (here : p ∈ touched) : Frame touched k (k.alloc p) :=
  of_shape rfl (fun _ => rfl) (fun _ => rfl)
    fun other => Function.update_of_ne (by rintro rfl; exact other here) ..

theorem release (here : p ∈ touched) : Frame touched k (k.release p x) :=
  of_shape rfl (fun _ => rfl) (fun _ => rfl)
    fun other => Function.update_of_ne (by rintro rfl; exact other here) ..

theorem setPCB {f : PCB → PCB} (status : .pcb ∈ touched ∨ ∀ u, (f u).status = u.status)
    (kept : ∀ u, (f u).pid = u.pid ∧ (f u).parent = u.parent ∧ (f u).syscall_num = u.syscall_num ∧
      (f u).syscall_args = u.syscall_args ∧ ((f u).timer = none ∨ (f u).timer = u.timer)) :
    Frame touched k (k.setPCB x f) where
  place _ := rfl
  seq _ := rfl
  free _ := rfl
  status other p := k.store.status_setPCB_of_same x p f (status.resolve_left other)
  pid p := k.store.pid_setPCB_of_same x p f fun u => (kept u).1
  parent p := k.store.parent_setPCB_of_same x p f fun u => (kept u).2.1
  timer p := by
    have update := k.store.timer_setPCB x p f
    by_cases same : p = x
    · rw [if_pos same] at update
      rw [Scene.store_setPCB, update, same]
      exact (kept _).2.2.2.2
    · rw [if_neg same] at update
      exact .inr update
  call p := k.store.syscall_num_setPCB_of_same x p f fun u => (kept u).2.2.1
  args p := k.store.syscall_args_setPCB_of_same x p f fun u => (kept u).2.2.2.1
  pcb_ptr _ := rfl
  timer_item _ := rfl
  descriptor _ := rfl
  descriptor_ptr _ := rfl
  mq _ := rfl
  message _ := rfl
  init_pcb := rfl
  last_pid := rfl

theorem refl : Frame touched k k :=
  of_shape rfl (fun _ => rfl) (fun _ => rfl) fun _ => rfl

theorem update {f : Store → Store} (pcb : (f k.store).pcb = k.store.pcb)
    (globals : (f k.store).init_pcb = k.store.init_pcb ∧ (f k.store).last_pid = k.store.last_pid)
    (records : (.pcb_ptr ∈ touched ∨ (f k.store).pcb_ptr = k.store.pcb_ptr) ∧
      (.timer_item ∈ touched ∨ (f k.store).timer_item = k.store.timer_item) ∧
      (.descriptor ∈ touched ∨ (f k.store).descriptor = k.store.descriptor) ∧
      (.descriptor_ptr ∈ touched ∨ (f k.store).descriptor_ptr = k.store.descriptor_ptr) ∧
      (.message_queue ∈ touched ∨ (f k.store).mq = k.store.mq) ∧
      (.message ∈ touched ∨ (f k.store).message = k.store.message)) :
    Frame touched k (k.update f) where
  place _ := rfl
  seq _ := rfl
  free _ := rfl
  status _ p := by simp [Scene.status, pcb]
  pid p := by simp [pcb]
  parent p := by simp [pcb]
  timer p := by simp [pcb]
  call p := by simp [pcb]
  args p := by simp [pcb]
  pcb_ptr other := records.1.resolve_left other
  timer_item other := records.2.1.resolve_left other
  descriptor other := records.2.2.1.resolve_left other
  descriptor_ptr other := records.2.2.2.1.resolve_left other
  mq other := records.2.2.2.2.1.resolve_left other
  message other := records.2.2.2.2.2.resolve_left other
  init_pcb := globals.1
  last_pid := globals.2

theorem run {q : Pointer} : Frame touched k (k.run q) := update rfl (by simp) (by simp)

theorem answer {value : Int} : Frame touched k (k.answer x value) := setPCB (by simp) (by simp)

theorem report {result value : Int} : Frame touched k (k.report result value) := by
  unfold Scene.report
  split
  · exact refl
  · exact update rfl (by simp) (by simp)

end Operations

/-! ## Moves -/

section Moves
variable {r n p q e d o z w t i x : Addr}

theorem block (pool : r.pool = .pcb) (pcb : .pcb ∈ touched) : Frame touched k (k.block r) :=
  (setPCB (.inl pcb) (by simp)).trans (append pool pcb (by rfl))

theorem dispatch {status : ProcessStatus → ProcessStatus} (pool : n.pool = .pcb)
    (pcb : .pcb ∈ touched) : Frame touched k (k.dispatch n status) :=
  ((detach pool pcb (by rfl)).trans (setPCB (.inl pcb) (by simp))).trans run

theorem startTimer {prev : Pointer} {wake : Int} (pool : t.pool = .timer_item)
    (timer : .timer_item ∈ touched) : Frame touched k (k.startTimer prev t r wake) :=
  ((alloc timer).trans (update (by simp) (by simp) (by simp [*]))).trans (insert pool timer (by rfl))

theorem wakeSleeper {prev : Pointer} (pool : p.pool = .pcb) (kind : t.pool = .timer_item)
    (pcb : .pcb ∈ touched) (timer : .timer_item ∈ touched) :
    Frame touched k (k.wakeSleeper prev t p) :=
  ((((detach pool pcb (by rfl)).trans (setPCB (.inl pcb) (by simp))).trans (insert pool pcb (by rfl))).trans
    (detach kind timer (by rfl))).trans (release timer)

theorem rotate (pool : r.pool = .pcb) (kind : n.pool = .pcb) (pcb : .pcb ∈ touched) :
    Frame touched k (k.rotate r n) :=
  ((((detach kind pcb (by rfl)).trans (setPCB (.inl pcb) (by simp))).trans (append pool pcb (by rfl))).trans
    (setPCB (.inl pcb) (by simp))).trans run

theorem reap {result : Int} (entry : e.pool = .pcb_ptr) (pool : z.pool = .pcb)
    (pcb : .pcb ∈ touched) (ptr : .pcb_ptr ∈ touched) : Frame touched k (k.reap r e z result) :=
  (((((detach entry ptr (by rfl)).trans (release ptr)).trans (detach pool pcb (by rfl))).trans answer).trans
    report).trans (release pcb)

theorem reparent (entry : e.pool = .pcb_ptr) (ptr : .pcb_ptr ∈ touched) :
    Frame touched k (k.reparent r i e p) :=
  ((detach entry ptr (by rfl)).trans (append entry ptr (by rfl))).trans (setPCB (by simp) (by simp))

theorem bury (pool : r.pool = .pcb) (pcb : .pcb ∈ touched) : Frame touched k (k.bury r q) :=
  ((setPCB (.inl pcb) (by simp)).trans (append pool pcb (by rfl))).trans (setPCB (by simp) (by simp))

theorem resumeParent (pool : q.pool = .pcb) (entry : e.pool = .pcb_ptr) (pcb : .pcb ∈ touched)
    (ptr : .pcb_ptr ∈ touched) : Frame touched k (k.resumeParent r q e) :=
  ((((detach pool pcb (by rfl)).trans (setPCB (.inl pcb) (by simp))).trans (detach entry ptr (by rfl))).trans answer).trans
    report

theorem dropDescriptor (des : d.pool = .descriptor) (link : e.pool = .descriptor_ptr)
    (descriptor : .descriptor ∈ touched) (ptr : .descriptor_ptr ∈ touched) :
    Frame touched k (k.dropDescriptor r d o e) :=
  (((detach des descriptor (by rfl)).trans (detach link ptr (by rfl))).trans (release ptr)).trans (release descriptor)

theorem vanish (pool : r.pool = .pcb) (pcb : .pcb ∈ touched) : Frame touched k (k.vanish r q) :=
  ((detach pool pcb (by rfl)).trans (release pcb)).trans run

theorem newResource {id type : Int} (sound : k.Sound c) (pool : x.pool = .resource)
    (resource : .resource ∈ touched) (ptr : .descriptor_ptr ∈ touched) :
    Frame touched k (k.newResource x id type) :=
  (((alloc resource).trans (update (by simp) (by simp) (by simp))).trans (reset (fun linked => (sound.kinded linked).2) ptr (by rfl))).trans
    (append pool resource (by rfl))

theorem newQueue {id : Int} (sound : k.Sound c) (pool : q.pool = .message_queue)
    (queue : .message_queue ∈ touched) (ptr : .descriptor_ptr ∈ touched)
    (message : .message ∈ touched) (wrapper : .pcb_ptr ∈ touched) :
    Frame touched k (k.newQueue q id) := by
  have record : Frame touched (k.alloc .message_queue) ((k.alloc .message_queue).update fun s =>
      s.setMQ q fun _ => { id := id, num_written := 0 }) :=
    update (by simp) (by simp) (by simp [*])
  refine ((((((alloc queue).trans record).trans (reset (fun linked => ?_) ptr (by rfl))).trans
    (reset (fun linked => ?_) message (by rfl))).trans (reset (fun linked => ?_) wrapper
      (by rfl))).trans (reset (fun linked => ?_) wrapper (by rfl))).trans
        (append pool queue (by rfl)) <;> exact sound.kind (by simpa using linked)

theorem openDescriptor {resource mq : Pointer} (des : d.pool = .descriptor)
    (link : e.pool = .descriptor_ptr) (descriptor : .descriptor ∈ touched)
    (ptr : .descriptor_ptr ∈ touched) : Frame touched k (k.openDescriptor r o d e resource mq) := by
  have records : Frame touched (k.setPCB r fun u => { u with last_fd := u.last_fd + 1 })
      ((k.setPCB r fun u => { u with last_fd := u.last_fd + 1 }).update fun s =>
        { s.setDescriptor d fun _ =>
            { pcb := some r, resource := resource, mq := mq, fd := (k.store.pcb r).last_fd,
              ptr := some e } with
          descriptor_ptr := Function.update s.descriptor_ptr e (some d) }) :=
    update (by simp) (by simp) (by simp [*])
  exact ((((((setPCB (by simp) (by simp)).trans records).trans (alloc descriptor)).trans (alloc ptr)).trans
    (append des descriptor (by rfl))).trans (append link ptr (by rfl))).trans answer

theorem destroy {global : Head} (pool : x.pool = global.kind) (here : global.kind ∈ touched) :
    Frame touched k (k.destroy r global x) :=
  ((detach pool here (by rfl)).trans (release here)).trans answer

theorem enqueue {waiting : Head} (pool : r.pool = .pcb) (kind : w.pool = .pcb_ptr)
    (wrapper : waiting.kind = .pcb_ptr) (pcb : .pcb ∈ touched) (ptr : .pcb_ptr ∈ touched) :
    Frame touched k (k.enqueue r w waiting) := by
  have names : Frame touched ((k.block r).alloc .pcb_ptr) (((k.block r).alloc .pcb_ptr).update fun s =>
      { s with pcb_ptr := Function.update s.pcb_ptr w (some r) }) :=
    update (by simp) (by simp) (by simp [*])
  exact (((block pool pcb).trans (alloc ptr)).trans names).trans (append kind ptr wrapper)

theorem wakeWaiter {h : Head} (pool : p.pool = .pcb) (kind : w.pool = .pcb_ptr)
    (wrapper : h.kind = .pcb_ptr) (pcb : .pcb ∈ touched) (ptr : .pcb_ptr ∈ touched) :
    Frame touched k (k.wakeWaiter h w p) :=
  (((detach kind ptr wrapper).trans (detach pool pcb (by rfl))).trans (setPCB (.inl pcb) (by simp))).trans
    (append pool pcb (by rfl))

theorem finishRead {m : Addr} {buf_des : Int} (queue : .message_queue ∈ touched) :
    Frame touched k (k.finishRead r q m buf_des) :=
  (update (by simp) (by simp) (by simp [*])).trans answer

theorem finishWrite {length : Int} (queue : .message_queue ∈ touched) :
    Frame touched k (k.finishWrite r q length) :=
  (update (by simp) (by simp) (by simp [*])).trans answer

theorem post {m : Addr} {write_buffer length : Int} (pool : m.pool = .message)
    (message : .message ∈ touched) : Frame touched k (k.post q m write_buffer length) :=
  ((alloc message).trans (update (by simp) (by simp) (by simp [*]))).trans (append pool message (by rfl))

end Moves

end Scene.Frame

end DisastrOS
