import DisastrOS.Trials

/-! A message queue is a monitor: nobody waits for what is there. -/

set_option autoImplicit false

namespace DisastrOS

open Refinement

/-- The wrapper `w` is of a process that is suspended in the call `num` on the queue `q`. -/
def Suspended (m : Kernel) (w q : Addr) (num : Int) : Prop :=
  ∃ p, m.store.pcb_ptr w = some p ∧ p ∈ m.list .waiting_list ∧ (m.store.pcb p).status = .Waiting ∧
    (m.store.pcb p).syscall_num = num ∧ int32 ((m.store.pcb p).syscall_args 0) = (m.store.mq q).id

structure Monitor (c : Config) (m : Kernel) (q : Addr) : Prop where
  count : (m.store.mq q).num_written = (m.data.links.head (.messages q)).size
  bounded : 0 ≤ (m.store.mq q).num_written ∧ (m.store.mq q).num_written ≤ c.MAX_NUM_MESSAGES
  empty : m.list (.waiting_to_read q) ≠ [] → m.list (.messages q) = []
  full : m.list (.waiting_to_write q) ≠ [] → (m.store.mq q).num_written = c.MAX_NUM_MESSAGES
  exclusive : m.list (.waiting_to_read q) = [] ∨ m.list (.waiting_to_write q) = []
  readers : ∀ w ∈ m.list (.waiting_to_read q), Suspended m w q DSOS_CALL_READ_MQ
  writers : ∀ w ∈ m.list (.waiting_to_write q), Suspended m w q DSOS_CALL_WRITE_MQ

section
variable {c : Config} {m : Kernel} {k : Scene}

theorem Shows.suspended {runner gone : Pointer} (shows : Shows c m k) (inv : Coherent c runner gone k)
    {w q p : Addr} {num : Int} (names : k.store.pcb_ptr w = some p) (blocked : k.Blocked p num)
    (asked : k.intArg p 0 = (k.store.mq q).id) : Suspended m w q num := by
  have waiting : k.status p = .Waiting := by simpa using inv.listed_status blocked.1 rfl
  rw [Suspended, shows.store]
  exact ⟨p, names, shows.mem_list.mpr blocked.1, waiting, blocked.2, asked⟩

end

/-- Every queue is a monitor, and nobody waits in two places. -/
theorem queues_monitored (c : Constants) {m : Kernel} (reach : Reachable c.toConfig m) :
    (∀ q ∈ m.list .mq_list, Monitor c.toConfig m q) ∧
      ∀ q q' w w', (w ∈ m.list (.waiting_to_read q) ∨ w ∈ m.list (.waiting_to_write q)) →
        (w' ∈ m.list (.waiting_to_read q') ∨ w' ∈ m.list (.waiting_to_write q')) →
        m.store.pcb_ptr w = m.store.pcb_ptr w' → w = w' := by
  obtain ⟨k, shows, inv, counted⟩ := reach.shows
  constructor
  · intro q _
    have size : (m.data.links.head (.messages q)).size = (k.seq (.messages q)).length := by
      rw [(shows.holds _).size, shows.list]
    have reader {w : Addr} (waits : w ∈ m.list (.waiting_to_read q)) := inv.queues.empty (shows.mem_list.mp waits)
    have writer {w : Addr} (waits : w ∈ m.list (.waiting_to_write q)) := inv.queues.full (shows.mem_list.mp waits)
    -- a queue with room for nothing would be empty and full at once
    have room : 0 < c.MAX_NUM_MESSAGES := by
      have items := c.positive .message
      simp only [Config.num_items] at items
      exact Nat.pos_of_ne_zero fun zero => by simp [zero] at items
    have count := counted q
    constructor
    · rw [shows.store, size, count.1]
    · rw [shows.store]
      omega
    · intro waits
      obtain ⟨w, there⟩ := List.exists_mem_of_ne_nil _ waits
      have none_written := reader there
      rw [shows.list, ← List.length_eq_zero_iff]
      omega
    · intro waits
      obtain ⟨w, there⟩ := List.exists_mem_of_ne_nil _ waits
      rw [shows.store, writer there]
    · by_contra both
      obtain ⟨readers, writers⟩ := not_or.mp both
      obtain ⟨w, there⟩ := List.exists_mem_of_ne_nil _ readers
      obtain ⟨w', there'⟩ := List.exists_mem_of_ne_nil _ writers
      have none_written := reader there
      have all_written := writer there'
      omega
    · intro w waits
      obtain ⟨p, names, blocked, asked⟩ := inv.waiters.reader (shows.mem_list.mp waits)
      exact shows.suspended inv names blocked asked
    · intro w waits
      obtain ⟨p, names, blocked, asked⟩ := inv.waiters.writer (shows.mem_list.mp waits)
      exact shows.suspended inv names blocked asked
  · intro q q' w w' there there' same
    rw [shows.mem_list, shows.mem_list] at there there'
    rw [shows.store] at same
    exact inv.waiters.unique ⟨q, there⟩ ⟨q', there'⟩ same

/-- A reader waits for the first message of a queue. -/
def reader_waits : Observed always fun m => block .message_queue 0 ∈ m.list .mq_list ∧
    m.list (.waiting_to_read (block .message_queue 0)) ≠ [] :=
  observe always
    [.syscall DSOS_CALL_OPEN_MQ (arguments [5, 1]), .syscall DSOS_CALL_SPAWN (arguments [1, 2]),
      .syscall DSOS_CALL_READ_MQ (arguments [5, 1000, 64])] (by decide +kernel)

theorem queues_monitored_reader : ∃ m, Reachable constants.toConfig m ∧
    m.list (.waiting_to_read (block .message_queue 0)) ≠ [] ∧
      Monitor constants.toConfig m (block .message_queue 0) := by
  obtain ⟨m, reach, there, waits⟩ := reader_waits
  exact ⟨m, reach.reachable, waits, (queues_monitored constants reach.reachable).1 _ there⟩

end DisastrOS
