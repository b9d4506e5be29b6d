import DisastrOS.Rules

/-! The moves that every event is made of.

A phase is a scene in the middle of an event, with the process at work and the
one being reaped. A move takes a coherent phase to a coherent phase; what an
invariant has to say about an event is what it says about these moves.
-/

set_option autoImplicit false

namespace DisastrOS

open Refinement

structure Phase where
  scene : Scene
  runner : Pointer
  gone : Pointer

def Phase.Coherent (c : Config) (P : Phase) : Prop :=
  DisastrOS.Coherent c P.runner P.gone P.scene

/-- The moves that the conditions on runs are about; `plain` are all others. -/
inductive Tag where
  | plain
  | enter (r : Addr) (num : Int)
  | ticked
  | elapsed
  | forked
  | handed
  | waits (r : Addr)
  | adopted
  | reaped (z : Addr)
  | leaves (r : Addr)
  | buried (r q : Addr)
  | resumed (r q : Addr)
  | destroyed (q : Addr)
  | woken (q : Addr)
  | taken (q m : Addr)
  | posted (q m : Addr)
  | counted (q : Addr)
  | restarted (p : Addr)

inductive Move (c : Config) : Tag → Phase → Phase → Prop where
  | user {k : Scene} {ru go : Pointer} (memory : Int → UInt8) :
      Move c .plain ⟨k, ru, go⟩ ⟨k.update fun s => { s with memory := memory }, ru, go⟩
  | enter {k : Scene} {ru go : Pointer} {r : Addr} (num : Int) (args : Nat → Int)
      (runs : ru = some r) : Move c (.enter r num) ⟨k, ru, go⟩ ⟨k.enter r num args, ru, go⟩
  | tick {k : Scene} {ru go : Pointer} {r : Addr} (runs : ru = some r) :
      Move c .ticked ⟨k, ru, go⟩ ⟨k.tick r, ru, go⟩
  | answer {k : Scene} {ru go : Pointer} (r : Addr) (value : Int) :
      Move c .plain ⟨k, ru, go⟩ ⟨k.answer r value, ru, go⟩
  | idle {k : Scene} {go : Pointer} : Move c .plain ⟨k, none, go⟩ ⟨k.run none, none, go⟩
  | block {k : Scene} {go : Pointer} {r : Addr} (calls : (k.store.pcb r).syscall_num = DSOS_CALL_WAIT) :
      Move c (.waits r) ⟨k, some r, go⟩ ⟨k.block r, none, go⟩
  | doze {k : Scene} {go : Pointer} {r t : Addr} (wake : Int)
      (calls : (k.store.pcb r).syscall_num = DSOS_CALL_SLEEP)
      (top : (k.free .timer_item).head? = some t) :
      Move c .plain ⟨k, some r, go⟩
        ⟨(k.startTimer (k.placeTimer wake) t r wake).block r, none, go⟩
  | enqueue {k : Scene} {go : Pointer} {r w q : Addr} {waiting : Addr → Head} {num : Int}
      (which : WaitsIn waiting num) (ptr : (k.free .pcb_ptr).head? = some w)
      (calls : (k.store.pcb r).syscall_num = num) (found : k.queue (k.intArg r 0) = some q)
      (reads : num = DSOS_CALL_READ_MQ → (k.store.mq q).num_written = 0)
      (writes : num = DSOS_CALL_WRITE_MQ → (k.store.mq q).num_written = c.MAX_NUM_MESSAGES) :
      Move c .plain ⟨k, some r, go⟩ ⟨k.enqueue r w (waiting q), none, go⟩
  | dispatch {k : Scene} {go : Pointer} {n : Addr} (ready : (k.seq .ready_list).head? = some n) :
      Move c .plain ⟨k, none, go⟩ ⟨k.dispatch n fun _ => .Running, some n, go⟩
  | handOver {k : Scene} {go : Pointer} {n : Addr} (ready : (k.seq .ready_list).head? = some n) :
      Move c .handed ⟨k, none, go⟩ ⟨k.dispatch n id, some n, go⟩
  | wakeSleeper {k : Scene} {ru go prev : Pointer} {t p : Addr}
      (first : (k.seq .timer_list).head? = some t)
      (due : (k.store.timer_item t).awakening_time ≤ k.store.disastrOS_time)
      (owner : (k.store.timer_item t).pcb = some p)
      (after : ∀ y, prev = some y → k.place y = .linked .ready_list) :
      Move c .elapsed ⟨k, ru, go⟩ ⟨k.wakeSleeper prev t p, ru, go⟩
  | rotate {k : Scene} {go : Pointer} {r n : Addr} (ready : (k.seq .ready_list).head? = some n) :
      Move c .plain ⟨k, some r, go⟩ ⟨k.rotate r n, some n, go⟩
  | fork {k : Scene} {r p e : Addr} (pcb : (k.free .pcb).head? = some p)
      (ptr : (k.free .pcb_ptr).head? = some e) :
      Move c .forked ⟨k, some r, none⟩ ⟨k.newChild r p e, some r, none⟩
  | spawn {k : Scene} {r p e : Addr} (function argument : Int)
      (pcb : (k.free .pcb).head? = some p) (ptr : (k.free .pcb_ptr).head? = some e) :
      Move c .plain ⟨k, some r, none⟩
        ⟨(k.newChild r p e).setPCB p fun q =>
          { q with cpu_state := .made q.pid function argument }, some r, none⟩
  | reap {k : Scene} {ru : Pointer} {r e z : Addr} (result : Int)
      (entry : k.place e = .linked (.children r)) (names : k.store.pcb_ptr e = some z)
      (zombie : k.status z = .Zombie) :
      Move c (.reaped z) ⟨k, ru, none⟩ ⟨k.reap r e z result, ru, none⟩
  | leave {k : Scene} {ru go : Pointer} {r : Addr} (runs : ru = some r) :
      Move c (.leaves r) ⟨k, ru, go⟩
        ⟨k.setPCB r fun p => { p with return_value := int32 (p.syscall_args 0) }, ru, go⟩
  | adopt {k : Scene} {ru go : Pointer} {r i e p : Addr}
      (first : (k.seq (.children r)).head? = some e) (names : k.store.pcb_ptr e = some p)
      (init : k.store.init_pcb = some i) : Move c .adopted ⟨k, ru, go⟩ ⟨k.reparent r i e p, ru, go⟩
  | bury {k : Scene} {go : Pointer} {r q : Addr} (parent : (k.store.pcb r).parent = some q)
      (childless : k.seq (.children r) = []) :
      Move c (.buried r q) ⟨k, some r, go⟩ ⟨k.bury r q, none, go⟩
  | resume {k : Scene} {r q e : Addr} (zombie : k.place r = .linked .zombie_list)
      (entry : k.entry q (k.store.pcb r).pid = some e)
      (awaits : k.AwaitsDeath q (k.store.pcb r).pid) :
      Move c (.resumed r q) ⟨k, none, none⟩ ⟨k.resumeParent r q e, some q, some r⟩
  | drop {k : Scene} {ru go : Pointer} {r d o e : Addr} (open_ : k.place d = .linked (.descriptors r))
      (of : (k.store.descriptor d).mq = some o ∨ (k.store.descriptor d).resource = some o)
      (ptr : (k.store.descriptor d).ptr = some e) :
      Move c .plain ⟨k, ru, go⟩ ⟨k.dropDescriptor r d o e, ru, go⟩
  | vanish {k : Scene} {r q : Addr} (zombie : k.place r = .linked .zombie_list) :
      Move c .plain ⟨k, some q, some r⟩ ⟨k.vanish r q, some q, none⟩
  | newResource {k : Scene} {ru go : Pointer} {x : Addr} (id type : Int)
      (top : (k.free .resource).head? = some x) :
      Move c .plain ⟨k, ru, go⟩ ⟨k.newResource x id type, ru, go⟩
  | newQueue {k : Scene} {ru go : Pointer} {q : Addr} {id : Int} (absent : k.queue id = none)
      (top : (k.free .message_queue).head? = some q) :
      Move c .plain ⟨k, ru, go⟩ ⟨k.newQueue q id, ru, go⟩
  | openDescriptor {k : Scene} {ru go : Pointer} {r o d e : Addr} {resource mq : Pointer}
      (runs : ru = some r) (des : (k.free .descriptor).head? = some d)
      (ptr : (k.free .descriptor_ptr).head? = some e)
      (of : mq = some o ∧ resource = none ∧ k.place o = .linked .mq_list ∨
        mq = none ∧ resource = some o ∧ k.place o = .linked .resources_list) :
      Move c .plain ⟨k, ru, go⟩ ⟨k.openDescriptor r o d e resource mq, ru, go⟩
  | destroyResource {k : Scene} {ru go : Pointer} {r x : Addr}
      (linked : k.place x = .linked .resources_list) (unused : k.seq (.descriptors_ptrs x) = []) :
      Move c .plain ⟨k, ru, go⟩ ⟨k.destroy r .resources_list x, ru, go⟩
  | destroyQueue {k : Scene} {ru go : Pointer} {r q : Addr}
      (linked : k.place q = .linked .mq_list) (unused : k.seq (.descriptors_ptrs q) = []) :
      Move c (.destroyed q) ⟨k, ru, go⟩ ⟨k.destroy r .mq_list q, ru, go⟩
  | wakeReader {k : Scene} {ru go : Pointer} {q w p : Addr}
      (first : (k.seq (.waiting_to_read q)).head? = some w) (names : k.store.pcb_ptr w = some p) :
      Move c (.woken q) ⟨k, ru, go⟩ ⟨k.wakeWaiter (.waiting_to_read q) w p, ru, go⟩
  | wakeWriter {k : Scene} {ru go : Pointer} {q w p : Addr}
      (first : (k.seq (.waiting_to_write q)).head? = some w) (names : k.store.pcb_ptr w = some p) :
      Move c .plain ⟨k, ru, go⟩ ⟨k.wakeWriter q w p, ru, go⟩
  | take {k : Scene} {ru go : Pointer} {q m : Addr} (linked : k.place m = .linked (.messages q)) :
      Move c (.taken q m) ⟨k, ru, go⟩ ⟨k.detach (.messages q) m, ru, go⟩
  | post {k : Scene} {ru go : Pointer} {q m : Addr} {length : Int} (write_buffer : Int)
      (block : (k.free .message).head? = some m) (fits : length ≤ c.MAX_LEN_MESSAGE) :
      Move c (.posted q m) ⟨k, ru, go⟩ ⟨k.post q m write_buffer length, ru, go⟩
  | finishRead {k : Scene} {ru go : Pointer} (r : Addr) {q m : Addr} (buf_des : Int)
      (unwaited : k.seq (.waiting_to_write q) = []) (unread : k.seq (.waiting_to_read q) = []) :
      Move c (.counted q) ⟨k, ru, go⟩ ⟨k.finishRead r q m buf_des, ru, go⟩
  | finishWrite {k : Scene} {ru go : Pointer} (r : Addr) {q : Addr} (length : Int)
      (unwaited : k.seq (.waiting_to_write q) = []) (unread : k.seq (.waiting_to_read q) = []) :
      Move c (.counted q) ⟨k, ru, go⟩ ⟨k.finishWrite r q length, ru, go⟩
  | restart {k : Scene} {p : Addr} (pcb : (k.free .pcb).head? = some p) :
      Move c (.restarted p) ⟨k, none, none⟩ ⟨k.restart p, some p, none⟩

section Facts
variable {c : Config} {k : Scene} {runner gone : Pointer}

theorem Processes.zombie (inv : Processes c runner k) {z : Addr} (alive : k.Live c z)
    (pool : z.pool = .pcb) (status : k.status z = .Zombie) : k.place z = .linked .zombie_list := by
  have stands := inv.stands alive pool
  simp only [Scene.Stands, status, reduceCtorEq] at stands
  tauto

/-- A process that is ready, waits or is dead has the status of the list it is in. -/
theorem Coherent.listed_status (inv : Coherent c runner gone k) {h : Head} {p : Addr}
    (linked : k.place p = .linked h) (pcb : h.kind = .pcb) :
    h = .ready_list ∧ k.status p = .Ready ∨ h = .waiting_list ∧ k.status p = .Waiting ∨
      h = .zombie_list ∧ k.status p = .Zombie := by
  have stands := inv.processes.stands (inv.sound.live linked) ((inv.sound.kind linked).trans pcb)
  simp [Scene.Stands, linked] at stands
  tauto

theorem Processes.not_waiting (inv : Processes c runner k) {r : Addr} (runs : runner = some r) :
    k.place r = .unlinked := (inv.unlinked runs).1

theorem queue_listed (inv : Coherent c runner gone k) {id : Int} {q : Addr}
    (found : k.queue id = some q) : k.place q = .linked .mq_list ∧ (k.store.mq q).id = id :=
  ⟨inv.sound.mem_seq.mp (List.mem_of_find?_eq_some found),
    by simpa using List.find?_some found⟩

theorem entry_names (inv : Coherent c runner gone k) {r q e : Addr} (alive : k.Live c r)
    (pool : r.pool = .pcb) (entry : k.entry q (k.store.pcb r).pid = some e) :
    k.place e = .linked (.children q) ∧ k.store.pcb_ptr e = some r := by
  have linked : k.place e = .linked (.children q) :=
    inv.sound.mem_seq.mp (List.mem_of_find?_eq_some entry)
  obtain ⟨⟨p, names, live, kind, -⟩, -⟩ := inv.tree.entry linked
  have same : (k.store.pcb p).pid = (k.store.pcb r).pid := by
    simpa [names] using List.find?_some entry
  exact ⟨linked, by rw [names, inv.pids.distinct live kind alive pool same]⟩

theorem AwaitsDeath.blocked (inv : Coherent c runner gone k) {q : Addr} {pid : Int}
    (awaits : k.AwaitsDeath q pid) : k.Blocked q DSOS_CALL_WAIT :=
  ⟨inv.processes.waits awaits.1, awaits.2.1⟩

theorem Descriptors.of_open (inv : Descriptors c k) (sound : k.Sound c) {r d o : Addr}
    (open_ : k.place d = .linked (.descriptors r))
    (of : (k.store.descriptor d).mq = some o ∨ (k.store.descriptor d).resource = some o) :
    k.Of d o := by
  obtain ⟨e, o', ptr, names, there, of'⟩ := inv.des (sound.live open_) (sound.kind open_)
  have same : o' = o := by
    rcases of' with ⟨mq, resource, -⟩ | ⟨mq, resource, -⟩ <;> simp [mq, resource] at of <;> exact of
  exact same ▸ of'

theorem Descriptors.ptr_linked (inv : Descriptors c k) (sound : k.Sound c) {r d o e : Addr}
    (open_ : k.place d = .linked (.descriptors r)) (of : k.Of d o)
    (ptr : (k.store.descriptor d).ptr = some e) : k.place e = .linked (.descriptors_ptrs o) := by
  obtain ⟨e', o', ptr', -, there, of'⟩ := inv.des (sound.live open_) (sound.kind open_)
  have sameLink : e' = e := by simpa [ptr] using ptr'.symm
  have same : o' = o := by
    rcases of' with ⟨mq, resource, -⟩ | ⟨mq, resource, -⟩ <;>
      rcases of with ⟨mq', resource', -⟩ | ⟨mq', resource', -⟩ <;> simp_all
  exact sameLink ▸ same ▸ there

end Facts

/-! ## Soundness -/

section Sound
variable {c : Config} {k : Scene} {runner gone : Pointer}

theorem Scene.Sound.block {r : Addr} (sound : k.Sound c) (alive : k.Live c r) (pool : r.pool = .pcb)
    (unlinked : k.place r = .unlinked) : (k.block r).Sound c :=
  Scene.Sound.append sound alive pool unlinked

theorem Scene.Sound.startTimer {prev : Pointer} {t r : Addr} {wake : Int} (sound : k.Sound c)
    (top : (k.free .timer_item).head? = some t)
    (after : ∀ y, prev = some y → k.place y = .linked .timer_list) :
    (k.startTimer prev t r wake).Sound c := by
  have fresh := sound.top top
  exact Scene.Sound.insert sound.alloc ((Scene.live_alloc sound top).mpr (.inl rfl)) fresh.1
    fresh.2.1 after

theorem Scene.Sound.wakeSleeper {prev : Pointer} {t p : Addr} (sound : k.Sound c)
    (timer : k.place t = .linked .timer_list) (waits : k.place p = .linked .waiting_list)
    (after : ∀ y, prev = some y → k.place y = .linked .ready_list) :
    (k.wakeSleeper prev t p).Sound c := by
  have kind := sound.kind timer
  have pool := sound.kind waits
  have other : t ≠ p := by
    rintro rfl
    simp [timer] at waits
  have woken : ((k.detach .waiting_list p).insert .ready_list prev p).Sound c := by
    refine Scene.Sound.insert (sound.detach waits) (sound.live waits) pool (by simp) fun y last => ?_
    have ready := after y last
    have differs : y ≠ p := by
      rintro rfl
      simp [ready] at waits
    simpa [differs] using ready
  refine Scene.Sound.release (Scene.Sound.detach woken ?_) (sound.live timer) kind (by simp)
  simpa [other] using timer

theorem Scene.Sound.rotate {r n : Addr} (sound : k.Sound c) (alive : k.Live c r)
    (pool : r.pool = .pcb) (unlinked : k.place r = .unlinked)
    (ready : k.place n = .linked .ready_list) : (k.rotate r n).Sound c := by
  have other : r ≠ n := by
    rintro rfl
    simp [unlinked] at ready
  exact Scene.Sound.append (sound.detach ready) alive pool (by simpa [other] using unlinked)

theorem Scene.Sound.newChild {r p e : Addr} (sound : k.Sound c)
    (pcb : (k.free .pcb).head? = some p) (ptr : (k.free .pcb_ptr).head? = some e) :
    (k.newChild r p e).Sound c := by
  have fresh := sound.top pcb
  have wrapper := sound.top ptr
  have other : p ≠ e := fun same => by simp [same, wrapper.1] at fresh
  have ptr' : ((k.alloc .pcb).free .pcb_ptr).head? = some e := by simpa using ptr
  have live {x : Addr} : ((k.alloc .pcb).alloc .pcb_ptr).Live c x ↔ x = e ∨ x = p ∨ k.Live c x :=
    (Scene.live_alloc sound.alloc ptr').trans (or_congr_right (Scene.live_alloc sound pcb))
  have linked : ((((k.alloc .pcb).alloc .pcb_ptr).reset (.descriptors p)).reset
      (.children p)).append (.children r) e |>.Sound c :=
    Scene.Sound.append sound.alloc.alloc.reset.reset (live.mpr (.inl rfl)) wrapper.1
      (by simpa using wrapper.2.1)
  exact Scene.Sound.append linked (live.mpr (.inr (.inl rfl))) fresh.1
    (by simpa [other] using fresh.2.1)

theorem Scene.Sound.restart {p : Addr} (sound : k.Sound c) : (k.restart p).Sound c :=
  Scene.Sound.reset (Scene.Sound.reset sound.alloc)

theorem Scene.Sound.reap {r e z : Addr} {result : Int} (sound : k.Sound c)
    (entry : k.place e = .linked (.children r)) (zombie : k.place z = .linked .zombie_list) :
    (k.reap r e z result).Sound c := by
  have kind := sound.kind entry
  have pool := sound.kind zombie
  have other : z ≠ e := by
    rintro rfl
    simp [entry] at zombie
  have freed : ((k.detach (.children r) e).release .pcb_ptr e).Sound c :=
    Scene.Sound.release (sound.detach entry) (sound.live entry) kind (by simp)
  have gone : (((k.detach (.children r) e).release .pcb_ptr e).detach .zombie_list z).Sound c :=
    Scene.Sound.detach freed (by simpa [other] using zombie)
  have alive : ((k.detach (.children r) e).release .pcb_ptr e).Live c z :=
    (Shape.live_release_of_ne (L := layout c) (by simp [pool, Head.kind])).mpr (sound.live zombie)
  refine Scene.Sound.release (Scene.sound_report.mpr gone) ?_ pool (by simp)
  simpa [Scene.Live] using alive

theorem Scene.Sound.reparent {r i e p : Addr} (sound : k.Sound c)
    (entry : k.place e = .linked (.children r)) : (k.reparent r i e p).Sound c :=
  Scene.Sound.append (sound.detach entry) (sound.live entry)
    (by simpa [Head.kind] using sound.kind entry) (by simp)

theorem Scene.Sound.resumeParent {r q e : Addr} (sound : k.Sound c)
    (entry : k.place e = .linked (.children q)) (waits : k.place q = .linked .waiting_list) :
    (k.resumeParent r q e).Sound c := by
  have other : e ≠ q := by
    rintro rfl
    simp [entry] at waits
  exact Scene.sound_report.mpr
    (Scene.Sound.detach (sound.detach waits) (by simpa [other] using entry))

theorem Scene.Sound.dropDescriptor {r d o e : Addr} (sound : k.Sound c)
    (open_ : k.place d = .linked (.descriptors r))
    (linked : k.place e = .linked (.descriptors_ptrs o)) : (k.dropDescriptor r d o e).Sound c := by
  have kind := sound.kind open_
  have link := sound.kind linked
  have other : e ≠ d := by
    rintro rfl
    simp [linked] at open_
  have detached : ((k.detach (.descriptors r) d).detach (.descriptors_ptrs o) e).Sound c :=
    Scene.Sound.detach (sound.detach open_) (by simpa [other] using linked)
  have freed : (((k.detach (.descriptors r) d).detach (.descriptors_ptrs o) e).release
      .descriptor_ptr e).Sound c :=
    Scene.Sound.release detached (sound.live linked) link (by simp)
  refine Scene.Sound.release freed ?_ kind (by simp [Ne.symm other])
  exact (Shape.live_release_of_ne (L := layout c) (by simp [kind, Head.kind])).mpr
    (sound.live open_)

theorem Scene.Sound.vanish {r q : Addr} (sound : k.Sound c)
    (zombie : k.place r = .linked .zombie_list) : (k.vanish r q).Sound c :=
  Scene.Sound.release (sound.detach zombie) (sound.live zombie) (sound.kind zombie) (by simp)

theorem Scene.Sound.newResource {x : Addr} {id type : Int} (sound : k.Sound c)
    (top : (k.free .resource).head? = some x) : (k.newResource x id type).Sound c := by
  have fresh := sound.top top
  exact Scene.Sound.append (Scene.Sound.reset sound.alloc)
    ((Scene.live_alloc sound top).mpr (.inl rfl)) fresh.1 (by simpa using fresh.2.1)

theorem Scene.Sound.newQueue {q : Addr} {id : Int} (sound : k.Sound c)
    (top : (k.free .message_queue).head? = some q) : (k.newQueue q id).Sound c := by
  have fresh := sound.top top
  exact Scene.Sound.append (Scene.Sound.reset (Scene.Sound.reset (Scene.Sound.reset
    (Scene.Sound.reset sound.alloc)))) ((Scene.live_alloc sound top).mpr (.inl rfl)) fresh.1
      (by simpa using fresh.2.1)

theorem Scene.Sound.openDescriptor {r o d e : Addr} {resource mq : Pointer} (sound : k.Sound c)
    (des : (k.free .descriptor).head? = some d) (ptr : (k.free .descriptor_ptr).head? = some e) :
    (k.openDescriptor r o d e resource mq).Sound c := by
  have fresh := sound.top des
  have link := sound.top ptr
  have other : e ≠ d := fun same => by simp [same, fresh.1] at link
  have ptr' : ((k.alloc .descriptor).free .descriptor_ptr).head? = some e := by simpa using ptr
  have live {x : Addr} : ((k.alloc .descriptor).alloc .descriptor_ptr).Live c x ↔
      x = e ∨ x = d ∨ k.Live c x :=
    (Scene.live_alloc sound.alloc ptr').trans (or_congr_right (Scene.live_alloc sound des))
  have opened : (((k.alloc .descriptor).alloc .descriptor_ptr).append (.descriptors r) d).Sound c :=
    Scene.Sound.append sound.alloc.alloc (live.mpr (.inr (.inl rfl))) fresh.1 fresh.2.1
  exact Scene.Sound.append opened (live.mpr (.inl rfl)) link.1 (by simpa [other] using link.2.1)

theorem Scene.Sound.destroy {r x : Addr} {global : Head} (sound : k.Sound c)
    (linked : k.place x = .linked global) : (k.destroy r global x).Sound c :=
  Scene.Sound.release (sound.detach linked) (sound.live linked) (sound.kind linked) (by simp)

theorem Scene.Sound.enqueue {r w : Addr} {waiting : Head} (sound : k.Sound c) (alive : k.Live c r)
    (pool : r.pool = .pcb) (unlinked : k.place r = .unlinked)
    (ptr : (k.free .pcb_ptr).head? = some w) (kind : waiting.kind = .pcb_ptr) :
    (k.enqueue r w waiting).Sound c := by
  have blocked := sound.block alive pool unlinked
  have fresh := sound.top ptr
  have other : w ≠ r := by
    rintro rfl
    simp [pool] at fresh
  have top : ((k.block r).free .pcb_ptr).head? = some w := by simpa [Scene.block] using ptr
  exact Scene.Sound.append (Scene.Sound.alloc blocked)
    ((Scene.live_alloc blocked top).mpr (.inl rfl)) (fresh.1.trans kind.symm)
    (by simpa [Scene.block, other] using fresh.2.1)

theorem Scene.Sound.wakeWaiter {waiting : Head} {w p : Addr} (sound : k.Sound c)
    (linked : k.place w = .linked waiting) (kind : waiting.kind = .pcb_ptr)
    (waits : k.place p = .linked .waiting_list) : (k.wakeWaiter waiting w p).Sound c := by
  have pool := sound.kind waits
  have other : p ≠ w := by
    rintro rfl
    rw [waits, Place.linked.injEq] at linked
    simp [← linked, Head.kind] at kind
  have detached : ((k.detach waiting w).detach .waiting_list p).Sound c :=
    Scene.Sound.detach (sound.detach linked) (by simpa [other] using waits)
  exact Scene.Sound.append detached (sound.live waits) pool (by simp)

theorem Scene.Sound.wakeWriter {q w p : Addr} (sound : k.Sound c)
    (linked : k.place w = .linked (.waiting_to_write q))
    (waits : k.place p = .linked .waiting_list) : (k.wakeWriter q w p).Sound c := by
  have kind := sound.kind linked
  have pool := sound.kind waits
  have other : w ≠ p := by
    rintro rfl
    simp [linked] at waits
  exact Scene.Sound.release (sound.wakeWaiter linked (by rfl) waits) (sound.live linked) kind
    (by simp [Scene.wakeWaiter, other])

theorem Scene.Sound.post {q m : Addr} {write_buffer length : Int} (sound : k.Sound c)
    (top : (k.free .message).head? = some m) : (k.post q m write_buffer length).Sound c := by
  have fresh := sound.top top
  exact Scene.Sound.append sound.alloc ((Scene.live_alloc sound top).mpr (.inl rfl)) fresh.1
    fresh.2.1

end Sound

/-! ## Coherence -/

theorem WaitsIn.waiter {c : Config} {k : Scene} {runner gone : Pointer} {waiting : Addr → Head} {num : Int}
    (inv : Coherent c runner gone k) (which : WaitsIn waiting num) {q w : Addr}
    (linked : k.place w = .linked (waiting q)) :
    ∃ p, k.store.pcb_ptr w = some p ∧ k.Blocked p num ∧ k.intArg p 0 = (k.store.mq q).id := by
  cases which with
  | read => exact inv.waiters.reader linked
  | write => exact inv.waiters.writer linked

theorem WaitsIn.waiter_blocked {c : Config} {k : Scene} {runner gone : Pointer}
    {waiting : Addr → Head} {num : Int} (inv : Coherent c runner gone k)
    (which : WaitsIn waiting num) {q w p : Addr} (first : (k.seq (waiting q)).head? = some w)
    (names : k.store.pcb_ptr w = some p) :
    k.place w = .linked (waiting q) ∧ k.Blocked p num := by
  have linked := inv.sound.first first
  obtain ⟨p', names', blocked, -⟩ := which.waiter inv linked
  cases names.symm.trans names'
  exact ⟨linked, blocked⟩

theorem Coherent.place_timer {c : Config} {k : Scene} {runner gone : Pointer}
    (inv : Coherent c runner gone k) {wake : Int} {y : Addr} (last : k.placeTimer wake = some y) :
    k.place y = .linked .timer_list :=
  inv.sound.mem_seq.mp (List.takeWhile_subset _ (List.mem_of_getLast? last))

theorem Move.coherent {c : Config} {tag : Tag} {P P' : Phase} (move : Move c tag P P')
    (inv : P.Coherent c) : P'.Coherent c := by
  -- each part of the invariant has its lemma; what is left is where the blocks are that it asks about
  cases move with
  | @user k ru go memory =>
    have same : Scene.Frame [] k (k.update fun s => { s with memory := memory }) :=
      .update rfl (by simp) (by simp)
    exact inv.quiet same (fun _ => rfl) inv.sound
  | enter num args runs => exact inv.enter runs
  | @tick k ru go r runs =>
    have saved : Scene.Frame [] k (k.setPCB r fun p => { p with cpu_state := .swapped p.pid }) :=
      .setPCB (by simp) (by simp)
    have counted : Scene.Frame [] k (k.tick r) := saved.trans (.update rfl (by simp) (by simp))
    exact inv.quiet counted (by simp [Scene.tick]) inv.sound
  | answer r value => exact inv.answer
  | idle => exact inv.run_none
  | block calls =>
    obtain ⟨alive, pool⟩ := inv.processes.runs rfl
    exact inv.block (inv.sound.block alive pool (inv.processes.not_waiting rfl))
      (by rw [calls]; decide)
  | @doze k go r t wake calls top =>
    obtain ⟨alive, pool⟩ := inv.processes.runs rfl
    have started : (k.startTimer (k.placeTimer wake) t r wake).Sound c :=
      inv.sound.startTimer top fun y last => inv.place_timer last
    have other : r ≠ t := by
      rintro rfl
      simp [(inv.sound.top top).1] at pool
    refine inv.doze calls top (started.block ?_ pool ?_)
    · exact (Shape.live_alloc_of_ne (L := layout c) (by simp [pool])).mpr alive
    · simpa [Scene.startTimer, other] using inv.processes.not_waiting rfl
  | enqueue which ptr calls found reads writes =>
    obtain ⟨alive, pool⟩ := inv.processes.runs rfl
    have listed := queue_listed inv found
    exact inv.enqueue which ptr calls listed.2.symm reads writes
      (inv.sound.enqueue alive pool (inv.processes.not_waiting rfl) ptr (which.kind _))
  | @dispatch k go n ready =>
    have linked := inv.sound.first ready
    have next : DisastrOS.Coherent c (some n) go (k.dispatch n fun _ => .Running) :=
      inv.dispatch linked (.inl rfl) (inv.sound.detach linked)
    exact next
  | handOver ready =>
    have linked := inv.sound.first ready
    exact inv.dispatch linked (by right; rfl) (inv.sound.detach linked)
  | wakeSleeper first due owner after =>
    have linked := inv.sound.first first
    obtain ⟨p, names, blocked⟩ := inv.timers.owner linked
    cases owner.symm.trans names
    exact inv.wakeSleeper first owner (inv.sound.wakeSleeper linked blocked.1 after)
  | rotate ready =>
    have linked := inv.sound.first ready
    obtain ⟨alive, pool⟩ := inv.processes.runs rfl
    exact inv.rotate linked
      (inv.sound.rotate alive pool (inv.processes.not_waiting rfl) linked)
  | fork pcb ptr => exact inv.newChild pcb ptr (inv.sound.newChild pcb ptr)
  | @spawn k r p e function argument pcb ptr =>
    have child := inv.newChild pcb ptr (inv.sound.newChild pcb ptr)
    have made : Scene.Frame [] (k.newChild r p e) ((k.newChild r p e).setPCB p fun q =>
        { q with cpu_state := .made q.pid function argument }) := .setPCB (by simp) (by simp)
    exact child.quiet made (by simp) child.sound
  | reap result entry names zombie =>
    obtain ⟨⟨p, names', alive, pool, -⟩, -⟩ := inv.tree.entry entry
    cases names.symm.trans names'
    have there := inv.processes.zombie alive pool zombie
    exact inv.reap entry names there (inv.sound.reap entry there)
  | @leave k ru go r runs =>
    have stored : Scene.Frame [] k
        (k.setPCB r fun p => { p with return_value := int32 (p.syscall_args 0) }) :=
      .setPCB (by simp) (by simp)
    exact inv.quiet stored (by simp) inv.sound
  | adopt first names init =>
    have linked := inv.sound.first first
    exact inv.reparent linked init (inv.sound.reparent linked)
  | @bury k go r q parent childless =>
    obtain ⟨alive, pool⟩ := inv.processes.runs rfl
    exact inv.bury (by simp [parent]) childless
      (Scene.Sound.append inv.sound alive pool (inv.processes.not_waiting rfl))
  | resume zombie entry awaits =>
    have named := entry_names inv (inv.sound.live zombie) (inv.sound.kind zombie) entry
    have blocked := AwaitsDeath.blocked inv awaits
    exact inv.resumeParent named.1 named.2 blocked (inv.sound.resumeParent named.1 blocked.1)
  | drop open_ of ptr =>
    have of' := inv.descriptors.of_open inv.sound open_ of
    have linked := inv.descriptors.ptr_linked inv.sound open_ of' ptr
    exact inv.drop open_ of' ptr (inv.sound.dropDescriptor open_ linked)
  | vanish zombie => exact inv.vanish zombie (inv.sound.vanish zombie)
  | newResource id type top => exact inv.newResource top (inv.sound.newResource top)
  | newQueue absent top => exact inv.newQueue top absent (inv.sound.newQueue top)
  | openDescriptor runs des ptr of =>
    exact inv.openDescriptor des ptr of (inv.sound.openDescriptor des ptr)
  | destroyResource linked unused =>
    exact inv.destroyResource linked unused (inv.sound.destroy linked)
  | destroyQueue linked unused => exact inv.destroyQueue linked unused (inv.sound.destroy linked)
  | wakeReader first names =>
    obtain ⟨linked, blocked⟩ := WaitsIn.read.waiter_blocked inv first names
    exact inv.wakeWaiter .read linked names (inv.sound.wakeWaiter linked (by rfl) blocked.1)
  | wakeWriter first names =>
    obtain ⟨linked, blocked⟩ := WaitsIn.write.waiter_blocked inv first names
    have woken := inv.wakeWaiter .write linked names
      (inv.sound.wakeWaiter linked (by rfl) blocked.1)
    exact woken.release_ptr (inv.sound.wakeWriter linked blocked.1)
  | take linked => exact inv.take linked (inv.sound.detach linked)
  | post write_buffer block fits => exact inv.post block fits (inv.sound.post block)
  | finishRead r buf_des unwaited unread =>
    apply inv.finishRead
    intro waiting num w which there
    cases which with
    | read => simpa [unread] using inv.sound.mem_seq.mpr there
    | write => simpa [unwaited] using inv.sound.mem_seq.mpr there
  | finishWrite r length unwaited unread =>
    apply inv.finishWrite
    intro waiting num w which there
    cases which with
    | read => simpa [unread] using inv.sound.mem_seq.mpr there
    | write => simpa [unwaited] using inv.sound.mem_seq.mpr there
  | restart pcb => exact inv.restart pcb inv.sound.restart

theorem Coherent.moved {c : Config} {tag : Tag} {k k' : Scene} {runner gone : Pointer}
    (inv : Coherent c runner gone k) (move : Move c tag ⟨k, runner, gone⟩ ⟨k', runner, gone⟩) :
    Coherent c runner gone k' := move.coherent inv

theorem Coherent.entered {c : Config} {k : Scene} {r : Addr} (inv : Coherent c k.store.running none k)
    (runs : k.store.running = some r) (num : Int) (args : Nat → Int) :
    Coherent c (some r) none (k.enter r num args) := by
  rw [runs] at inv
  exact inv.moved (.enter num args rfl)

end DisastrOS
