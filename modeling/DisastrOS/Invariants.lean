import DisastrOS.Calls

/-! What holds of every scene between two events, one structure per part of the kernel.

The parts share the scene and little else, so a move keeps most of them because
it leaves what they read alone.
-/

set_option autoImplicit false

namespace DisastrOS

open Refinement

namespace Scene

def Sound (c : Config) (k : Scene) : Prop := k.toShape.Sound (layout c)

def status (k : Scene) (p : Addr) : ProcessStatus := (k.store.pcb p).status

def Blocked (k : Scene) (p : Addr) (num : Int) : Prop :=
  k.place p = .linked .waiting_list ∧ (k.store.pcb p).syscall_num = num

/-- `d` is a descriptor of the queue or the resource `o`, which is in its global list. -/
def Of (k : Scene) (d o : Addr) : Prop :=
  (k.store.descriptor d).mq = some o ∧ (k.store.descriptor d).resource = none ∧
      k.place o = .linked .mq_list ∨
    (k.store.descriptor d).mq = none ∧ (k.store.descriptor d).resource = some o ∧
      k.place o = .linked .resources_list

/-- The wrapper `w` is in a list of some queue. -/
def Queued (k : Scene) (w : Addr) : Prop :=
  ∃ q, k.place w = .linked (.waiting_to_read q) ∨ k.place w = .linked (.waiting_to_write q)

end Scene

section Sound
variable {c : Config} {k : Scene}

theorem Scene.Sound.kind (sound : k.Sound c) {x : Addr} {h : Head} (linked : k.place x = .linked h) :
    x.pool = h.kind := (sound.kinded linked).2

theorem Scene.Sound.live (sound : k.Sound c) {x : Addr} {h : Head} (linked : k.place x = .linked h) :
    k.Live c x := sound.live_of_linked linked

theorem Scene.Sound.first (sound : k.Sound c) {x : Addr} {h : Head} (first : (k.seq h).head? = some x) :
    k.place x = .linked h := sound.place_first first

theorem Scene.Sound.top (sound : k.Sound c) {x : Addr} {p : Pool} (top : (k.free p).head? = some x) :
    x.pool = p ∧ k.place x = .unlinked ∧ ¬ k.Live c x := by
  have clean := sound.free_clean (List.mem_of_mem_head? top)
  exact ⟨clean.2.1, clean.2.2, sound.not_live_top top⟩

theorem Scene.Sound.ne_top (sound : k.Sound c) {x y : Addr} {p : Pool} {h : Head}
    (top : (k.free p).head? = some y) (linked : k.place x = .linked h) : x ≠ y := by
  rintro rfl
  cases (sound.top top).2.1.symm.trans linked

end Sound

/-- Where an allocated PCB stands, and the status it has there, when `runner` is
the process at work. A process that `internal_wait` or `internal_sleep` put to
run keeps the status `Ready`. -/
def Scene.Stands (k : Scene) (runner : Pointer) (p : Addr) : Prop :=
  runner = some p ∧ k.place p = .unlinked ∧ (k.status p = .Running ∨ k.status p = .Ready) ∨
    runner ≠ some p ∧
      (k.place p = .linked .ready_list ∧ k.status p = .Ready ∨
        k.place p = .linked .waiting_list ∧ k.status p = .Waiting ∨
        k.place p = .linked .zombie_list ∧ k.status p = .Zombie)

structure Processes (c : Config) (runner : Pointer) (k : Scene) : Prop where
  runs : ∀ {r}, runner = some r → k.Live c r ∧ r.pool = .pcb
  stands : ∀ {p}, k.Live c p → p.pool = .pcb → k.Stands runner p
  waits : ∀ {p}, k.status p = .Waiting → k.place p = .linked .waiting_list

/-- Process identifiers are never reused. -/
structure Pids (c : Config) (k : Scene) : Prop where
  range : ∀ {p}, k.Live c p → p.pool = .pcb →
    0 ≤ (k.store.pcb p).pid ∧ (k.store.pcb p).pid < k.store.last_pid
  distinct : ∀ {p p'}, k.Live c p → p.pool = .pcb → k.Live c p' → p'.pool = .pcb →
    (k.store.pcb p).pid = (k.store.pcb p').pid → p = p'

/-- The children lists: every process that somebody has created is a child of one
process that has not exited. The others are `init` and those that were `init`
before it, and none of them exits. The process `gone` is being reaped. -/
structure Tree (c : Config) (gone : Pointer) (k : Scene) : Prop where
  init : ∃ i, k.store.init_pcb = some i ∧ k.Live c i ∧ i.pool = .pcb ∧ (k.store.pcb i).parent = none
  root : ∀ {p}, k.Live c p → p.pool = .pcb → (k.store.pcb p).parent = none →
    k.place p ≠ .linked .zombie_list
  entry : ∀ {e q}, k.place e = .linked (.children q) →
    (∃ p, k.store.pcb_ptr e = some p ∧ k.Live c p ∧ p.pool = .pcb ∧ (k.store.pcb p).parent ≠ none ∧
        gone ≠ some p) ∧
      k.Live c q ∧ q.pool = .pcb ∧ k.place q ≠ .linked .zombie_list
  unique : ∀ {e e' q q'}, k.place e = .linked (.children q) → k.place e' = .linked (.children q') →
    k.store.pcb_ptr e = k.store.pcb_ptr e' → e = e'
  child : ∀ {p}, k.Live c p → p.pool = .pcb → (k.store.pcb p).parent ≠ none → gone ≠ some p →
    ∃ e q, k.place e = .linked (.children q) ∧ k.store.pcb_ptr e = some p

/-- The wrappers in the lists of the queues. -/
structure Waiters (k : Scene) : Prop where
  reader : ∀ {w q}, k.place w = .linked (.waiting_to_read q) →
    ∃ p, k.store.pcb_ptr w = some p ∧ k.Blocked p DSOS_CALL_READ_MQ ∧
      k.intArg p 0 = (k.store.mq q).id
  writer : ∀ {w q}, k.place w = .linked (.waiting_to_write q) →
    ∃ p, k.store.pcb_ptr w = some p ∧ k.Blocked p DSOS_CALL_WRITE_MQ ∧
      k.intArg p 0 = (k.store.mq q).id
  unique : ∀ {w w'}, k.Queued w → k.Queued w' → k.store.pcb_ptr w = k.store.pcb_ptr w' → w = w'

structure Queues (c : Config) (k : Scene) : Prop where
  listed : ∀ {q}, k.Live c q → q.pool = .message_queue → k.place q = .linked .mq_list
  distinct : ∀ {q q'}, k.place q = .linked .mq_list → k.place q' = .linked .mq_list →
    (k.store.mq q).id = (k.store.mq q').id → q = q'
  empty : ∀ {w q}, k.place w = .linked (.waiting_to_read q) → (k.store.mq q).num_written = 0
  full : ∀ {w q}, k.place w = .linked (.waiting_to_write q) →
    (k.store.mq q).num_written = c.MAX_NUM_MESSAGES
  bounded : ∀ {m q}, k.place m = .linked (.messages q) →
    (k.store.message m).length ≤ c.MAX_LEN_MESSAGE

/-- `num_written` counts the messages. -/
def Counted (c : Config) (k : Scene) : Prop :=
  ∀ q, (k.store.mq q).num_written = (k.seq (.messages q)).length ∧
    (k.seq (.messages q)).length ≤ c.MAX_NUM_MESSAGES

structure Timers (c : Config) (k : Scene) : Prop where
  listed : ∀ {t}, k.Live c t → t.pool = .timer_item → k.place t = .linked .timer_list
  owner : ∀ {t}, k.place t = .linked .timer_list →
    ∃ p, (k.store.timer_item t).pcb = some p ∧ k.Blocked p DSOS_CALL_SLEEP
  unique : ∀ {t t'}, k.place t = .linked .timer_list → k.place t' = .linked .timer_list →
    (k.store.timer_item t).pcb = (k.store.timer_item t').pcb → t = t'
  sleeping : ∀ {p}, k.Blocked p DSOS_CALL_SLEEP →
    ∃ t, k.place t = .linked .timer_list ∧ (k.store.timer_item t).pcb = some p
  sorted : (k.seq .timer_list).Pairwise fun t t' =>
    (k.store.timer_item t).awakening_time ≤ (k.store.timer_item t').awakening_time
  unset : ∀ p, (k.store.pcb p).timer = none

/-- Descriptors and their pointers are in bijection. -/
structure Descriptors (c : Config) (k : Scene) : Prop where
  des : ∀ {d}, k.Live c d → d.pool = .descriptor →
    ∃ e o, (k.store.descriptor d).ptr = some e ∧ k.store.descriptor_ptr e = some d ∧
      k.place e = .linked (.descriptors_ptrs o) ∧ k.Of d o
  ptr : ∀ {e}, k.Live c e → e.pool = .descriptor_ptr →
    ∃ d, k.store.descriptor_ptr e = some d ∧ (k.store.descriptor d).ptr = some e ∧
      k.Live c d ∧ d.pool = .descriptor
  owner : ∀ {d p}, k.place d = .linked (.descriptors p) → (k.store.descriptor d).pcb = some p
  counter : ∀ p, 0 ≤ (k.store.pcb p).last_fd
  fd : ∀ {d p}, k.place d = .linked (.descriptors p) →
    0 ≤ (k.store.descriptor d).fd ∧ (k.store.descriptor d).fd < (k.store.pcb p).last_fd
  distinct : ∀ {d d' p}, k.place d = .linked (.descriptors p) →
    k.place d' = .linked (.descriptors p) →
    (k.store.descriptor d).fd = (k.store.descriptor d').fd → d = d'
  listed : ∀ {x}, k.Live c x → x.pool = .resource → k.place x = .linked .resources_list

/-- All of it; `Counted` is left out because `read` and `write` break it while
they wake the waiting processes. -/
structure Coherent (c : Config) (runner gone : Pointer) (k : Scene) : Prop where
  sound : k.Sound c
  processes : Processes c runner k
  pids : Pids c k
  tree : Tree c gone k
  waiters : Waiters k
  queues : Queues c k
  timers : Timers c k
  descriptors : Descriptors c k

end DisastrOS
