import DisastrOS.Processes

/-! Message queues and the processes that wait on them. -/

set_option autoImplicit false

namespace DisastrOS

open Refinement

variable {c : Config} {k : Scene} {runner : Pointer}

/-- The two calls that wait on a queue, each with its list. -/
inductive WaitsIn : (Addr → Head) → Int → Prop where
  | read : WaitsIn .waiting_to_read DSOS_CALL_READ_MQ
  | write : WaitsIn .waiting_to_write DSOS_CALL_WRITE_MQ

namespace WaitsIn
variable {waiting : Addr → Head} {num : Int}

@[simp] theorem kind (which : WaitsIn waiting num) (q : Addr) : (waiting q).kind = .pcb_ptr := by
  cases which <;> rfl

theorem queued (which : WaitsIn waiting num) {w q : Addr} (linked : k.place w = .linked (waiting q)) :
    k.Queued w := by
  cases which
  · exact ⟨q, .inl linked⟩
  · exact ⟨q, .inr linked⟩

end WaitsIn

namespace Waiters

theorem waiter (inv : Waiters k) {waiting : Addr → Head} {num : Int} (which : WaitsIn waiting num)
    {w q : Addr} (linked : k.place w = .linked (waiting q)) :
    ∃ p, k.store.pcb_ptr w = some p ∧ k.Blocked p num ∧ k.intArg p 0 = (k.store.mq q).id := by
  cases which
  · exact inv.reader linked
  · exact inv.writer linked

theorem of_waiter
    (waiter : ∀ {waiting num w q}, WaitsIn waiting num → k.place w = .linked (waiting q) →
      ∃ p, k.store.pcb_ptr w = some p ∧ k.Blocked p num ∧ k.intArg p 0 = (k.store.mq q).id)
    (unique : ∀ {w w'}, k.Queued w → k.Queued w' → k.store.pcb_ptr w = k.store.pcb_ptr w' → w = w') :
    Waiters k := ⟨waiter .read, waiter .write, unique⟩

theorem mono {k' : Scene} (inv : Waiters k)
    (linked : ∀ {waiting num w q}, WaitsIn waiting num → k'.place w = .linked (waiting q) →
      k.place w = .linked (waiting q) ∧ (k'.store.mq q).id = (k.store.mq q).id)
    (ptr : ∀ {w}, k'.Queued w → k'.store.pcb_ptr w = k.store.pcb_ptr w)
    (blocked : ∀ {waiting num w p}, WaitsIn waiting num → k'.Queued w → k.Queued w →
      k.store.pcb_ptr w = some p →
      k.Blocked p num → k'.Blocked p num ∧ k'.intArg p 0 = k.intArg p 0) : Waiters k' := by
  have old {w : Addr} (queued : k'.Queued w) : k.Queued w := by
    obtain ⟨q, here | here⟩ := queued
    · exact ⟨q, .inl (linked .read here).1⟩
    · exact ⟨q, .inr (linked .write here).1⟩
  refine of_waiter (fun {_ _ w q} which here => ?_) fun {w w'} here here' same => ?_
  · obtain ⟨before, id⟩ := linked which here
    obtain ⟨p, names, waits, asks⟩ := inv.waiter which before
    obtain ⟨waits', arg⟩ := blocked which (which.queued here) (which.queued before) names waits
    exact ⟨p, (ptr (which.queued here)).trans names, waits', arg.trans (asks.trans id.symm)⟩
  · rw [ptr here, ptr here'] at same
    exact inv.unique (old here) (old here') same

theorem frame {touched : List Pool} {k' : Scene} (inv : Waiters k)
    (frame : Scene.Frame touched k k') (sound : k.Sound c) (sound' : k'.Sound c)
    (other : .pcb_ptr ∉ touched) (id : ∀ q, (k'.store.mq q).id = (k.store.mq q).id)
    (blocked : ∀ {waiting num p}, WaitsIn waiting num → k.Blocked p num → k'.Blocked p num) :
    Waiters k' := by
  refine inv.mono (fun {_ _ w q} which linked => ⟨?_, id q⟩)
    (fun _ => by rw [frame.pcb_ptr other]) fun {_ _ w p} which _ _ _ waits =>
      ⟨blocked which waits, frame.intArg p 0⟩
  exact (frame.linked sound sound' _ (by rwa [which.kind])).mp linked

theorem enqueue {r w q : Addr} {waiting : Addr → Head} {num : Int} (inv : Waiters k)
    (sound : k.Sound c) (which : WaitsIn waiting num) (unlinked : k.place r = .unlinked)
    (pool : r.pool = .pcb) (ptr : (k.free .pcb_ptr).head? = some w)
    (calls : (k.store.pcb r).syscall_num = num) (asks : k.intArg r 0 = (k.store.mq q).id) :
    Waiters (k.enqueue r w (waiting q)) := by
  have wrapper := sound.top ptr
  have differs : r ≠ w := fun same => by simp [same, wrapper.1] at pool
  have place {x : Addr} : (k.enqueue r w (waiting q)).place x =
      if x = w then .linked (waiting q) else if x = r then .linked .waiting_list else k.place x := by
    simp [Scene.enqueue, Scene.block, Function.update_apply]
  have ptrs {x : Addr} : (k.enqueue r w (waiting q)).store.pcb_ptr x =
      if x = w then some r else k.store.pcb_ptr x := by
    simp [Scene.enqueue, Scene.block, Function.update_apply]
  have arg {x : Addr} : (k.enqueue r w (waiting q)).intArg x 0 = k.intArg x 0 := by
    simp [Scene.intArg, Scene.arg, Scene.enqueue, Scene.block]
  have blocked {x : Addr} {n : Int} (waits : k.Blocked x n) :
      (k.enqueue r w (waiting q)).Blocked x n := by
    refine ⟨?_, by simpa [Scene.enqueue, Scene.block] using waits.2⟩
    rw [place, if_neg (by rintro rfl; simp [Scene.Blocked, wrapper.2.1] at waits)]
    split
    · rfl
    · exact waits.1
  have old {which' : Addr → Head} {n : Int} (isWaiting : WaitsIn which' n) {x u : Addr}
      (here : (k.enqueue r w (waiting q)).place x = .linked (which' u)) :
      x = w ∧ which' u = waiting q ∨ x ≠ w ∧ k.place x = .linked (which' u) := by
    rw [place] at here
    cases isWaiting <;> grind
  have queued {x : Addr} (here : (k.enqueue r w (waiting q)).Queued x) : x = w ∨ x ≠ w ∧ k.Queued x := by
    obtain ⟨u, here | here⟩ := here
    · exact (old .read here).imp (·.1) fun h => ⟨h.1, u, .inl h.2⟩
    · exact (old .write here).imp (·.1) fun h => ⟨h.1, u, .inr h.2⟩
  -- the caller is not asleep yet, so no wrapper that is queued names it
  have other {x : Addr} (here : k.Queued x) : k.store.pcb_ptr x ≠ some r := by
    intro names
    obtain ⟨u, here | here⟩ := here
    · obtain ⟨p, same, waits, -⟩ := inv.reader here
      cases same.symm.trans names
      simp [Scene.Blocked, unlinked] at waits
    · obtain ⟨p, same, waits, -⟩ := inv.writer here
      cases same.symm.trans names
      simp [Scene.Blocked, unlinked] at waits
  refine of_waiter (fun {_ _ x u} isWaiting here => ?_) fun {x x'} here here' same => ?_
  · rw [ptrs]
    rcases old isWaiting here with ⟨rfl, sameList⟩ | ⟨away, before⟩
    · refine ⟨r, if_pos rfl, ⟨by rw [place, if_neg differs, if_pos rfl], ?_⟩, ?_⟩
      · cases which <;> cases isWaiting <;> simp_all [Scene.enqueue, Scene.block]
      · rw [arg, asks]
        cases which <;> cases isWaiting <;> simp_all [Scene.enqueue, Scene.block]
    · obtain ⟨p, names, waits, asks⟩ := inv.waiter isWaiting before
      exact ⟨p, (if_neg away).trans names, blocked waits, arg.trans asks⟩
  · rw [ptrs, ptrs] at same
    rcases queued here with rfl | ⟨away, before⟩
    · rcases queued here' with rfl | ⟨away', before'⟩
      · rfl
      · rw [if_pos rfl, if_neg away'] at same
        exact (other before' same.symm).elim
    · rcases queued here' with rfl | ⟨away', before'⟩
      · rw [if_pos rfl, if_neg away] at same
        exact (other before same).elim
      · rw [if_neg away, if_neg away'] at same
        exact inv.unique before before' same

theorem wakeWaiter {w q p : Addr} {waiting : Addr → Head} {num : Int} (inv : Waiters k)
    (sound : k.Sound c) (which : WaitsIn waiting num) (linked : k.place w = .linked (waiting q))
    (names : k.store.pcb_ptr w = some p) : Waiters (k.wakeWaiter (waiting q) w p) := by
  obtain ⟨p', names', waits, -⟩ := inv.waiter which linked
  cases names.symm.trans names'
  have wrapper := (sound.kind linked).trans (which.kind q)
  have pcb : p.pool = .pcb := sound.kind waits.1
  have place {x : Addr} : (k.wakeWaiter (waiting q) w p).place x =
      if x = p then .linked .ready_list else if x = w then .unlinked else k.place x := by
    simp [Scene.wakeWaiter, Function.update_apply]
    grind
  have queued {x : Addr} (here : (k.wakeWaiter (waiting q) w p).Queued x) : x ≠ w := by
    rintro rfl
    have differs : x ≠ p := fun same => by simp [same, pcb] at wrapper
    simp [Scene.Queued, place, differs] at here
  refine inv.mono (fun {_ _ x u} isWaiting here => ?_) (fun _ => by simp [Scene.wakeWaiter])
    fun {_ _ x u} _ here before same waits' => ?_
  · refine ⟨?_, by simp [Scene.wakeWaiter]⟩
    rw [place] at here
    cases isWaiting <;> grind
  · -- a process has one wrapper, so those that stay queued are of other processes
    have apart : u ≠ p := by
      rintro rfl
      exact queued here (inv.unique before (which.queued linked) (same.trans names.symm))
    refine ⟨⟨?_, by simpa [Scene.wakeWaiter] using waits'.2⟩, ?_⟩
    · have kind : u.pool = .pcb := sound.kind waits'.1
      rw [place, if_neg apart, if_neg (by rintro rfl; simp [kind] at wrapper), waits'.1]
    · simp [Scene.intArg, Scene.arg, Scene.wakeWaiter]

end Waiters

namespace Queues

theorem congr {k' : Scene} (inv : Queues c k)
    (live : ∀ {q}, q.pool = .message_queue → k'.Live c q → k.Live c q)
    (place : ∀ {q}, k'.place q = .linked .mq_list ↔ k.place q = .linked .mq_list)
    (waiting : ∀ {waiting num w q},
      WaitsIn waiting num → k'.place w = .linked (waiting q) → k.place w = .linked (waiting q))
    (messages : ∀ {m q}, k'.place m = .linked (.messages q) → k.place m = .linked (.messages q))
    (mq : k'.store.mq = k.store.mq) (message : k'.store.message = k.store.message) :
    Queues c k' where
  listed alive pool := place.mpr (inv.listed (live pool alive) pool)
  distinct {q q'} linked linked' same := by
    rw [mq] at same
    exact inv.distinct (place.mp linked) (place.mp linked') same
  empty linked := mq ▸ inv.empty (waiting .read linked)
  full linked := mq ▸ inv.full (waiting .write linked)
  bounded linked := message ▸ inv.bounded (messages linked)

theorem frame {touched : List Pool} {k' : Scene} (inv : Queues c k)
    (frame : Scene.Frame touched k k') (sound : k.Sound c) (sound' : k'.Sound c)
    (queue : .message_queue ∉ touched) (message : .message ∉ touched)
    (waiting : .pcb_ptr ∉ touched ∨ ∀ {waiting num w q},
      WaitsIn waiting num → k'.place w = .linked (waiting q) → k.place w = .linked (waiting q)) : Queues c k' := by
  refine inv.congr (fun pool => (frame.live (pool ▸ queue)).mp) (frame.linked sound sound' .mq_list queue)
    (fun {_ _ w q} which linked => ?_) (frame.linked sound sound' (.messages _) message).mp
    (frame.mq queue) (frame.message message)
  rcases waiting with other | waiting
  · exact (frame.linked sound sound' _ (by rwa [which.kind])).mp linked
  · exact waiting which linked

theorem recount {k' : Scene} (inv : Queues c k) (shape : k'.toShape = k.toShape) {q : Addr}
    (count : ∀ {u}, u ≠ q → (k'.store.mq u).num_written = (k.store.mq u).num_written)
    (id : ∀ u, (k'.store.mq u).id = (k.store.mq u).id)
    (message : k'.store.message = k.store.message)
    (unwaited : ∀ {waiting num w}, WaitsIn waiting num → k.place w ≠ .linked (waiting q)) :
    Queues c k' where
  listed {u} alive pool := by
    rw [shape]
    exact inv.listed (by simpa only [Scene.Live, shape] using alive) pool
  distinct {u u'} linked linked' same := by
    rw [shape] at linked linked'
    rw [id, id] at same
    exact inv.distinct linked linked' same
  empty {w u} linked := by
    rw [shape] at linked
    have other : u ≠ q := fun same => unwaited .read (same ▸ linked)
    rw [count other, inv.empty linked]
  full {w u} linked := by
    rw [shape] at linked
    have other : u ≠ q := fun same => unwaited .write (same ▸ linked)
    rw [count other, inv.full linked]
  bounded {m u} linked := by
    rw [shape] at linked
    rw [message]
    exact inv.bounded linked

theorem enqueue {r w q : Addr} {waiting : Addr → Head} {num : Int} (inv : Queues c k)
    (sound : k.Sound c) (which : WaitsIn waiting num) (pool : r.pool = .pcb)
    (ptr : (k.free .pcb_ptr).head? = some w)
    (reads : num = DSOS_CALL_READ_MQ → (k.store.mq q).num_written = 0)
    (writes : num = DSOS_CALL_WRITE_MQ → (k.store.mq q).num_written = c.MAX_NUM_MESSAGES) :
    Queues c (k.enqueue r w (waiting q)) := by
  have wrapper := sound.top ptr
  have place {x : Addr} : (k.enqueue r w (waiting q)).place x =
      if x = w then .linked (waiting q) else if x = r then .linked .waiting_list else k.place x := by
    simp [Scene.enqueue, Scene.block, Function.update_apply]
  have mq : (k.enqueue r w (waiting q)).store.mq = k.store.mq := rfl
  have message : (k.enqueue r w (waiting q)).store.message = k.store.message := rfl
  have live {x : Addr} (kind : x.pool = .message_queue)
      (alive : (k.enqueue r w (waiting q)).Live c x) : k.Live c x :=
    (Shape.live_alloc_of_ne (by simp [kind])).mp alive
  constructor
  · intro x alive kind
    rw [place, if_neg (by rintro rfl; simp [wrapper.1] at kind),
      if_neg (by rintro rfl; simp [pool] at kind)]
    exact inv.listed (live kind alive) kind
  · intro x x' linked linked'
    have distinct := @Queues.distinct _ _ inv x x'
    rw [place] at linked linked'
    rw [mq]
    cases which <;> grind
  · intro x u linked
    have empty := inv.empty (w := x) (q := u)
    rw [place] at linked
    rw [mq]
    cases which <;> grind
  · intro x u linked
    have full := inv.full (w := x) (q := u)
    rw [place] at linked
    rw [mq]
    cases which <;> grind
  · intro x u linked
    have bounded := inv.bounded (m := x) (q := u)
    rw [place] at linked
    rw [message]
    cases which <;> grind

theorem place_newQueue {q x : Addr} {id : Int} {h : Head} :
    (k.newQueue q id).place x = .linked h ↔
      x = q ∧ h = .mq_list ∨
        x ≠ q ∧ k.place x = .linked h ∧ h ≠ .descriptors_ptrs q ∧ h ≠ .messages q ∧
          h ≠ .waiting_to_read q ∧ h ≠ .waiting_to_write q := by
  by_cases same : x = q
  · simp [Scene.newQueue, same, eq_comm]
  · simp [Scene.newQueue, same]
    tauto

theorem newQueue {q : Addr} {id : Int} (inv : Queues c k) (sound : k.Sound c)
    (top : (k.free .message_queue).head? = some q) (absent : k.queue id = none) :
    Queues c (k.newQueue q id) := by
  have fresh := sound.top top
  have live {x : Addr} : (k.newQueue q id).Live c x ↔ x = q ∨ k.Live c x := sound.live_alloc top
  have unused {u : Addr} (linked : k.place u = .linked .mq_list) : (k.store.mq u).id ≠ id := by
    have member := sound.mem_seq.mpr linked
    simpa using List.find?_eq_none.mp absent u member
  have mq {u : Addr} : (k.newQueue q id).store.mq u = if u = q then ⟨id, 0⟩ else k.store.mq u := by
    simp [Scene.newQueue, Function.update_apply]
  refine ⟨fun {x} alive kind => ?_, fun {x x'} linked linked' => ?_, fun {x u} linked => ?_,
    fun {x u} linked => ?_, fun {x u} linked => ?_⟩
  · have listed := inv.listed (q := x)
    rw [live] at alive
    rw [place_newQueue]
    grind
  · have distinct := @Queues.distinct _ _ inv x x'
    have old := @unused x
    have old' := @unused x'
    rw [place_newQueue] at linked linked'
    rw [mq, mq]
    grind
  · have empty := inv.empty (w := x) (q := u)
    rw [place_newQueue] at linked
    rw [mq]
    grind
  · have full := inv.full (w := x) (q := u)
    rw [place_newQueue] at linked
    rw [mq]
    grind
  · have bounded := inv.bounded (m := x) (q := u)
    rw [place_newQueue] at linked
    exact bounded (by grind)

theorem destroy {r q : Addr} (inv : Queues c k) (sound : k.Sound c)
    (linked : k.place q = .linked .mq_list) : Queues c (k.destroy r .mq_list q) := by
  have kind := sound.kind linked
  have live {x : Addr} : (k.destroy r .mq_list q).Live c x ↔ x ≠ q ∧ k.Live c x :=
    Shape.live_release (L := layout c) kind
  refine ⟨fun {x} alive kind => ?_, fun {x x'} linked linked' => ?_, fun {x u} linked => ?_,
    fun {x u} linked => ?_, fun {x u} linked => ?_⟩
  · have listed := inv.listed (q := x)
    rw [live] at alive
    simp [Scene.destroy, Function.update_apply] at *
    grind
  · have distinct := @Queues.distinct _ _ inv x x'
    simp [Scene.destroy, Function.update_apply] at *
    grind
  · have empty := inv.empty (w := x) (q := u)
    simp [Scene.destroy, Function.update_apply] at *
    grind
  · have full := inv.full (w := x) (q := u)
    simp [Scene.destroy, Function.update_apply] at *
    grind
  · have bounded := inv.bounded (m := x) (q := u)
    simp [Scene.destroy, Function.update_apply] at *
    grind

theorem post {q m : Addr} {write_buffer length : Int} (inv : Queues c k) (sound : k.Sound c)
    (block : (k.free .message).head? = some m) (fits : length ≤ c.MAX_LEN_MESSAGE) :
    Queues c (k.post q m write_buffer length) := by
  have fresh := sound.top block
  have live {x : Addr} (kind : x.pool = .message_queue)
      (alive : (k.post q m write_buffer length).Live c x) : k.Live c x :=
    (Shape.live_alloc_of_ne (by simp [kind])).mp alive
  refine ⟨fun {x} alive kind => ?_, fun {x x'} linked linked' => ?_, fun {x u} linked => ?_,
    fun {x u} linked => ?_, fun {x u} linked => ?_⟩
  · have listed := inv.listed (live kind alive) kind
    simp [Scene.post, Function.update_apply] at *
    grind
  · have distinct := @Queues.distinct _ _ inv x x'
    simp [Scene.post, Function.update_apply] at *
    grind
  · have empty := inv.empty (w := x) (q := u)
    simp [Scene.post, Function.update_apply] at *
    grind
  · have full := inv.full (w := x) (q := u)
    simp [Scene.post, Function.update_apply] at *
    grind
  · have bounded := inv.bounded (m := x) (q := u)
    simp [Scene.post, Function.update_apply] at *
    grind

end Queues

end DisastrOS
