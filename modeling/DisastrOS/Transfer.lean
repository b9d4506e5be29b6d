import DisastrOS.Exhaustion

/-! What `read` and `write` do, from the call to the answer. -/

set_option autoImplicit false

namespace DisastrOS

open Refinement
open Relation (ReflTransGen)

/-! ## The processes that are woken -/

/-- The processes that wait in a list of a queue, in order. -/
def Kernel.waiters (m : Kernel) (waiting : Head) : List Addr := (m.list waiting).filterMap m.store.pcb_ptr

/-- The processes that wait in a list of `q` are the last ones that are ready, in the same order. -/
structure WakesAll (m m' : Kernel) (waiting : Head) : Prop where
  gone : m'.list waiting = []
  ready : m'.list .ready_list = m.list .ready_list ++ m.waiters waiting
  slept : m'.list .waiting_list = (m.list .waiting_list).filter fun p => p ∉ m.waiters waiting
  status : ∀ p ∈ m.waiters waiting, (m'.store.pcb p).status = .Ready

section
variable (c : Config) (m : Kernel) (r : Addr) (args : Nat → Int)

/-- The oldest message `x` goes to the buffer of the caller. -/
def Takes (q x : Addr) : Prop :=
  ∃ m', Step c m (.syscall DSOS_CALL_READ_MQ args) m' ∧ m'.store.running = some r ∧
    (m'.store.pcb r).syscall_retvalue = (m.store.message x).length ∧
    (∀ address, m'.store.memory address =
      if args 1 ≤ address ∧ address < args 1 + (m.store.message x).length then
        (m.store.message x).message (address - args 1).toNat
      else m.store.memory address) ∧
    (m'.store.mq q).num_written = (m.store.mq q).num_written - 1 ∧
    m.list (.messages q) = x :: m'.list (.messages q) ∧ WakesAll m m' (.waiting_to_write q) ∧
    ∀ h, h ≠ .messages q → h ≠ .waiting_to_write q → h ≠ .ready_list → h ≠ .waiting_list →
      m'.list h = m.list h

/-- What a call of `read` should do while some process is ready. -/
def ReadsWell : Prop :=
  m.list .ready_list ≠ [] →
    match m.queue (int32 (args 0)) with
    | none => Rejects c m r DSOS_CALL_READ_MQ args
    | some q =>
      match m.list (.messages q) with
      | [] => Suspends c m r DSOS_CALL_READ_MQ args .waiting_to_read
      | x :: _ =>
        if (m.store.message x).length > int32 (args 2) then Rejects c m r DSOS_CALL_READ_MQ args
        else Takes c m r args q x

/-- There is a queue with the id. If it is empty there is a wrapper for the caller,
and if its oldest message is to be copied there is a buffer. -/
def ReadApplies : Prop :=
  m.list .ready_list ≠ [] →
    ∃ q, m.queue (int32 (args 0)) = some q ∧
      (m.list (.messages q) = [] → (m.data.pools .pcb_ptr).size ≠ 0) ∧
      ∀ x, (m.list (.messages q)).head? = some x → (m.store.message x).length ≤ int32 (args 2) →
        0 < (m.store.message x).length → args 1 ≠ 0

/-- One message with the bytes of the buffer is the last of the queue. -/
def Writes (q : Addr) : Prop :=
  ∃ m' x, Step c m (.syscall DSOS_CALL_WRITE_MQ args) m' ∧ m'.store.running = some r ∧
    0 ≤ int32 (args 2) ∧ int32 (args 2) ≤ c.MAX_LEN_MESSAGE ∧
    (m'.store.pcb r).syscall_retvalue = int32 (args 2) ∧
    m'.list (.messages q) = m.list (.messages q) ++ [x] ∧ ¬ m.Allocated c x ∧
    (m'.store.message x).length = int32 (args 2) ∧
    (∀ i : Nat, i < int32 (args 2) → (m'.store.message x).message i = m.store.memory (args 1 + i)) ∧
    (∀ y, y ≠ x → m'.store.message y = m.store.message y) ∧
    (m'.store.mq q).num_written = (m.store.mq q).num_written + 1 ∧
    WakesAll m m' (.waiting_to_read q) ∧
    ∀ h, h ≠ .messages q → h ≠ .waiting_to_read q → h ≠ .ready_list → h ≠ .waiting_list →
      m'.list h = m.list h

/-- What a call of `write` should do while some process is ready and some message is free. -/
def WritesWell : Prop :=
  m.list .ready_list ≠ [] → (m.data.pools .message).size ≠ 0 →
    (∃ q, m.queue (int32 (args 0)) = some q ∧ Writes c m r args q) ∨
    Rejects c m r DSOS_CALL_WRITE_MQ args ∨
    (∃ q, m.queue (int32 (args 0)) = some q ∧ (m.store.mq q).num_written = c.MAX_NUM_MESSAGES) ∧
      Suspends c m r DSOS_CALL_WRITE_MQ args .waiting_to_write

/-- If the queue is full there is a wrapper for the caller. If it has room the
length is not negative, and there is a buffer unless it is 0. -/
def WriteApplies : Prop :=
  m.list .ready_list ≠ [] → (m.data.pools .message).size ≠ 0 → int32 (args 2) ≤ c.MAX_LEN_MESSAGE →
    ∀ q, m.queue (int32 (args 0)) = some q →
      ((m.store.mq q).num_written = c.MAX_NUM_MESSAGES → (m.data.pools .pcb_ptr).size ≠ 0) ∧
      ((m.store.mq q).num_written ≠ c.MAX_NUM_MESSAGES →
        0 ≤ int32 (args 2) ∧ (0 < int32 (args 2) → args 1 ≠ 0))

end

def Scene.owners (k : Scene) (ws : List Addr) : List Addr := ws.filterMap k.store.pcb_ptr

structure Scene.Woken (waiting : Head) (k k' : Scene) (ws : List Addr) : Prop where
  gone : k.seq waiting = ws ++ k'.seq waiting
  ready : k'.seq .ready_list = k.seq .ready_list ++ k.owners ws
  slept : k'.seq .waiting_list = (k.seq .waiting_list).filter fun p => p ∉ k.owners ws
  others : ∀ h, h ≠ waiting → h ≠ .ready_list → h ≠ .waiting_list → k'.seq h = k.seq h
  store : ∃ pcb, k'.store = { k.store with pcb := pcb } ∧
    (∀ p ∉ k.owners ws, pcb p = k.store.pcb p) ∧
    ∀ p ∈ k.owners ws, (pcb p).status = .Ready ∧ (pcb p).syscall_retvalue = -20

namespace Scene.Woken
variable {waiting : Head} {k j : Scene} {ws : List Addr}

theorem refl : Woken waiting k k [] where
  gone := rfl
  ready := by simp [Scene.owners]
  slept := by simp [Scene.owners]
  others _ _ _ _ := rfl
  store := ⟨_, rfl, fun _ _ => rfl, by simp [Scene.owners]⟩

theorem names (woken : Woken waiting k j ws) : j.store.pcb_ptr = k.store.pcb_ptr := by
  obtain ⟨pcb, store, -⟩ := woken.store
  rw [store]

theorem wake {w p : Addr} (woken : Woken waiting k j ws) (first : (j.seq waiting).head? = some w)
    (owner : j.store.pcb_ptr w = some p) (nodup : (j.seq .waiting_list).Nodup)
    (apart : waiting ≠ .ready_list ∧ waiting ≠ .waiting_list) :
    Woken waiting k (j.wakeWaiter waiting w p) (ws ++ [w]) := by
  obtain ⟨rest, seq⟩ := List.head?_eq_some_iff.mp first
  obtain ⟨pcb, store, still, moved⟩ := woken.store
  have owner' : k.store.pcb_ptr w = some p := by rw [← woken.names, owner]
  have more : k.owners (ws ++ [w]) = k.owners ws ++ [p] := by simp [Scene.owners, owner']
  constructor
  · simp [Scene.wakeWaiter, apart, woken.gone, seq]
  · simp [Scene.wakeWaiter, Ne.symm apart.1, woken.ready, more]
  · have erased : (j.wakeWaiter waiting w p).seq .waiting_list = (j.seq .waiting_list).erase p := by
      simp [Scene.wakeWaiter, Ne.symm apart.2]
    rw [erased, nodup.erase_eq_filter, woken.slept, List.filter_filter]
    apply List.filter_congr
    intro x _
    by_cases same : x = p <;> simp [more, same]
  · intro h here ready waits
    simp [Scene.wakeWaiter, here, ready, waits, woken.others h here ready waits]
  · refine ⟨Function.update pcb p { pcb p with status := .Ready, syscall_retvalue := -20 }, ?_,
      fun x unnamed => ?_, fun x named => ?_⟩
    · simp [Scene.wakeWaiter, store, Store.setPCB]
    · rw [more, List.mem_append, not_or, List.mem_singleton] at unnamed
      rw [Function.update_of_ne unnamed.2, still x unnamed.1]
    · by_cases same : x = p
      · simp [same]
      · rw [more, List.mem_append, List.mem_singleton, or_iff_left same] at named
        rw [Function.update_of_ne same]
        exact moved x named

theorem release {w : Addr} (woken : Woken waiting k j ws) : Woken waiting k (j.release .pcb_ptr w) ws where
  gone := woken.gone
  ready := woken.ready
  slept := woken.slept
  others := woken.others
  store := woken.store

end Scene.Woken

section
variable {c : Config} {m m' : Kernel} {k k' : Scene} {r q : Addr} {args : Nat → Int}

theorem WakeWriters.woken {runner : Pointer} (inv : Coherent c runner none k) (wakes : WakeWriters q k k') :
    k.Woken (.waiting_to_write q) k' (k.seq (.waiting_to_write q)) := by
  have some_woken : ∃ ws, k.Woken (.waiting_to_write q) k' ws := by
    obtain ⟨rounds, -⟩ := wakes
    induction rounds with
    | refl => exact ⟨[], .refl⟩
    | tail rounds round ih =>
      obtain ⟨ws, woken⟩ := ih
      have chain := (WakeWriterRound.chain (A := fun _ _ => True) (fun _ => trivial) inv rounds).1
      obtain ⟨first, writer⟩ := round
      have nodup := (chain.coherent inv).sound.nodup .waiting_list
      exact ⟨_, (woken.wake first writer nodup (by simp)).release⟩
  obtain ⟨ws, woken⟩ := some_woken
  have all : k.seq (.waiting_to_write q) = ws := by rw [woken.gone, wakes.2, List.append_nil]
  rwa [all]

theorem WakeReaders.woken {runner : Pointer} (inv : Coherent c runner none k) (wakes : WakeReaders q k k') :
    k.Woken (.waiting_to_read q) k' (k.seq (.waiting_to_read q)) := by
  have some_woken : ∃ ws, k.Woken (.waiting_to_read q) k' ws := by
    obtain ⟨rounds, -⟩ := wakes
    induction rounds with
    | refl => exact ⟨[], .refl⟩
    | tail rounds round ih =>
      obtain ⟨ws, woken⟩ := ih
      have chain := (WakeReaderRound.chain (A := fun _ _ => True) (fun _ _ => trivial) inv rounds).1
      obtain ⟨first, reader⟩ := round
      have nodup := (chain.coherent inv).sound.nodup .waiting_list
      exact ⟨_, woken.wake first reader nodup (by simp)⟩
  obtain ⟨ws, woken⟩ := some_woken
  have all : k.seq (.waiting_to_read q) = ws := by rw [woken.gone, wakes.2, List.append_nil]
  rwa [all]

theorem copyOut_apply (memory : Int → UInt8) (target : Int) (message : Nat → UInt8) (n : Nat) (address : Int) :
    copyOut memory target message n address =
      if target ≤ address ∧ address < target + n then message (address - target).toNat else memory address := by
  induction n with
  | zero =>
    have none : ¬ (target ≤ address ∧ address < target + (0 : Nat)) := by omega
    rw [if_neg none]
    rfl
  | succ n ih =>
    rw [copyOut, Function.update_apply, ih]
    by_cases last : address = target + n
    · have there : target ≤ address ∧ address < target + (n + 1 : Nat) := by omega
      rw [if_pos last, if_pos there]
      congr 1
      omega
    · have upTo : (target ≤ address ∧ address < target + (n + 1 : Nat)) ↔
          target ≤ address ∧ address < target + n := by omega
      simp only [if_neg last, upTo]

theorem copyIn_apply (memory : Int → UInt8) (source : Int) (message : Nat → UInt8) (n i : Nat) :
    copyIn memory source message n i = if i < n then memory (source + i) else message i := by
  induction n with
  | zero => rfl
  | succ n ih =>
    rw [copyIn, Function.update_apply, ih]
    by_cases last : i = n
    · simp [last]
    · have upTo : i < n + 1 ↔ i < n := by omega
      simp only [if_neg last, upTo]

theorem Shows.wakes_all {waiting : Head} {j j' : Scene} (shows : Shows c m k) (shows' : Shows c m' k')
    (woken : j.Woken waiting j' (j.seq waiting)) (names : j.store.pcb_ptr = k.store.pcb_ptr)
    (same : ∀ h, h = waiting ∨ h = .ready_list ∨ h = .waiting_list → j.seq h = k.seq h ∧ k'.seq h = j'.seq h)
    (status : ∀ p, (k'.store.pcb p).status = (j'.store.pcb p).status) : WakesAll m m' waiting := by
  have waiters : m.waiters waiting = j.owners (j.seq waiting) := by
    rw [Kernel.waiters, shows.list, shows.store, Scene.owners, names, (same _ (.inl rfl)).1]
  obtain ⟨pcb, store, -, moved⟩ := woken.store
  have all : j.seq waiting = j.seq waiting ++ j'.seq waiting := woken.gone
  constructor
  · rw [shows'.list, (same _ (.inl rfl)).2]
    exact List.self_eq_append_right.mp all
  · have kept := same .ready_list (.inr (.inl rfl))
    rw [shows'.list, shows.list, kept.2, woken.ready, waiters, kept.1]
  · have kept := same .waiting_list (.inr (.inr rfl))
    rw [shows'.list, shows.list, kept.2, woken.slept, waiters, kept.1]
  · intro p named
    rw [waiters] at named
    rw [shows'.store, status, store]
    exact (moved p named).1

structure Took (m m' : Kernel) (r q x : Addr) (args : Nat → Int) : Prop where
  running : m'.store.running = some r
  value : (m'.store.pcb r).syscall_retvalue = (m.store.message x).length
  copied : ∀ address, m'.store.memory address =
    if args 1 ≤ address ∧ address < args 1 + (m.store.message x).length then
      (m.store.message x).message (address - args 1).toNat
    else m.store.memory address
  written : (m'.store.mq q).num_written = (m.store.mq q).num_written - 1
  left : m.list (.messages q) = x :: m'.list (.messages q)
  woken : WakesAll m m' (.waiting_to_write q)
  others : ∀ h, h ≠ .messages q → h ≠ .waiting_to_write q → h ≠ .ready_list → h ≠ .waiting_list → m'.list h = m.list h
  message : m'.store.message = m.store.message

theorem Shows.took {x : Addr} {j : Scene} (shows : Shows c m k) (inv : Coherent c k.store.running none k)
    (runs : k.store.running = some r) (first : (k.seq (.messages q)).head? = some x)
    (wakes : WakeWriters q ((k.enter r DSOS_CALL_READ_MQ args).detach (.messages q) x) j)
    (shows' : Shows c m' (j.finishRead r q x (args 1))) : Took m m' r q x args := by
  have entered := inv.entered runs DSOS_CALL_READ_MQ args
  have taken : Coherent c (some r) none ((k.enter r DSOS_CALL_READ_MQ args).detach (.messages q) x) :=
    entered.moved (.take (entered.sound.first first))
  have woken := wakes.woken taken
  obtain ⟨rest, seq⟩ := List.head?_eq_some_iff.mp first
  obtain ⟨pcb, store, -, -⟩ := woken.store
  constructor
  · rw [shows'.store]
    simpa [Scene.finishRead, store, Scene.enter] using runs
  · rw [shows'.store, shows.store]
    simp [Scene.finishRead, store, Scene.enter]
  · intro address
    have copied : (j.finishRead r q x (args 1)).store.memory =
        copyOut k.store.memory (args 1) (k.store.message x).message (k.store.message x).length.toNat := by
      simp [Scene.finishRead, store, Scene.enter]
    -- a negative length copies nothing, and no address is below it
    have upTo : args 1 ≤ address ∧ address < args 1 + ((k.store.message x).length.toNat : Int) ↔
        args 1 ≤ address ∧ address < args 1 + (k.store.message x).length := by omega
    rw [shows'.store, shows.store, copied, copyOut_apply, if_congr upTo rfl rfl]
  · rw [shows'.store, shows.store]
    simp [Scene.finishRead, store, Scene.enter]
  · have others : j.seq (.messages q) = rest := by
      rw [woken.others _ (by simp) (by simp) (by simp)]
      simp [seq]
    rw [shows'.list, shows.list, seq]
    simp [Scene.finishRead, others]
  · refine shows.wakes_all shows' woken rfl ?_ fun p => by simp [Scene.finishRead]
    rintro h (rfl | rfl | rfl) <;> simp [Scene.finishRead]
  · intro h _ _ _ _
    rw [shows'.list, shows.list]
    have others : j.seq h = k.seq h := by
      rw [woken.others h (by assumption) (by assumption) (by assumption)]
      simp [*]
    simpa [Scene.finishRead] using others
  · rw [shows'.store, shows.store]
    simp [Scene.finishRead, store, Scene.enter]

theorem Shows.takes {x : Addr} {j : Scene} (shows : Shows c m k) (inv : Coherent c k.store.running none k)
    (runs : k.store.running = some r) (step : Step c m (.syscall DSOS_CALL_READ_MQ args) m')
    (first : (k.seq (.messages q)).head? = some x)
    (wakes : WakeWriters q ((k.enter r DSOS_CALL_READ_MQ args).detach (.messages q) x) j)
    (shows' : Shows c m' (j.finishRead r q x (args 1))) : Takes c m r args q x := by
  obtain ⟨running, value, copied, written, left, woken, others, -⟩ := shows.took inv runs first wakes shows'
  exact ⟨m', step, running, value, copied, written, left, woken, others⟩

structure Wrote (m m' : Kernel) (r q x : Addr) (args : Nat → Int) : Prop where
  running : m'.store.running = some r
  value : (m'.store.pcb r).syscall_retvalue = int32 (args 2)
  grown : m'.list (.messages q) = m.list (.messages q) ++ [x]
  length : (m'.store.message x).length = int32 (args 2)
  copied : ∀ i : Nat, i < int32 (args 2) → (m'.store.message x).message i = m.store.memory (args 1 + i)
  kept : ∀ y, y ≠ x → m'.store.message y = m.store.message y
  written : (m'.store.mq q).num_written = (m.store.mq q).num_written + 1
  woken : WakesAll m m' (.waiting_to_read q)
  others : ∀ h, h ≠ .messages q → h ≠ .waiting_to_read q → h ≠ .ready_list → h ≠ .waiting_list → m'.list h = m.list h

theorem Shows.wrote {x : Addr} {j : Scene} (shows : Shows c m k) (inv : Coherent c k.store.running none k)
    (runs : k.store.running = some r) (top : (k.free .message).head? = some x) (fits : int32 (args 2) ≤ c.MAX_LEN_MESSAGE)
    (wakes : WakeReaders q ((k.enter r DSOS_CALL_WRITE_MQ args).post q x (args 1) (int32 (args 2))) j)
    (shows' : Shows c m' (j.finishWrite r q (int32 (args 2)))) : Wrote m m' r q x args := by
  have entered := inv.entered runs DSOS_CALL_WRITE_MQ args
  have posted : Coherent c (some r) none ((k.enter r DSOS_CALL_WRITE_MQ args).post q x (args 1) (int32 (args 2))) :=
    entered.moved (.post (args 1) top fits)
  have woken := wakes.woken posted
  obtain ⟨pcb, store, -, -⟩ := woken.store
  constructor
  · rw [shows'.store]
    simpa [Scene.finishWrite, store, Scene.post, Scene.enter] using runs
  · rw [shows'.store]
    simp [Scene.finishWrite]
  · have others : j.seq (.messages q) = k.seq (.messages q) ++ [x] := by
      rw [woken.others _ (by simp) (by simp) (by simp)]
      simp [Scene.post]
    rw [shows'.list, shows.list]
    simpa [Scene.finishWrite] using others
  · rw [shows'.store]
    simp [Scene.finishWrite, store, Scene.post]
  · intro i small
    -- the byte is one of those that are copied
    have below : i < (int32 (args 2)).toNat := by omega
    rw [shows'.store, shows.store]
    simp [Scene.finishWrite, store, Scene.post, Scene.enter, copyIn_apply, below]
  · intro y other
    rw [shows'.store, shows.store]
    simp [Scene.finishWrite, store, Scene.post, Scene.enter, other]
  · rw [shows'.store, shows.store]
    simp [Scene.finishWrite, store, Scene.post, Scene.enter]
  · refine shows.wakes_all shows' woken rfl ?_ fun p => by simp [Scene.finishWrite]
    rintro h (rfl | rfl | rfl) <;> simp [Scene.finishWrite, Scene.post]
  · intro h _ _ _ _
    rw [shows'.list, shows.list]
    have others : j.seq h = k.seq h := by
      rw [woken.others h (by assumption) (by assumption) (by assumption)]
      simp [Scene.post, *]
    simpa [Scene.finishWrite] using others

theorem Shows.writes {x : Addr} {j : Scene} (shows : Shows c m k) (inv : Coherent c k.store.running none k)
    (runs : k.store.running = some r) (step : Step c m (.syscall DSOS_CALL_WRITE_MQ args) m')
    (top : (k.free .message).head? = some x) (positive : 0 ≤ int32 (args 2))
    (fits : int32 (args 2) ≤ c.MAX_LEN_MESSAGE)
    (wakes : WakeReaders q ((k.enter r DSOS_CALL_WRITE_MQ args).post q x (args 1) (int32 (args 2))) j)
    (shows' : Shows c m' (j.finishWrite r q (int32 (args 2)))) : Writes c m r args q := by
  have fresh : ¬ m.Allocated c x := fun old => (inv.sound.top top).2.2 ((shows.allocated x).mp old)
  obtain ⟨running, value, grown, length, copied, kept, written, woken, others⟩ :=
    shows.wrote inv runs top fits wakes shows'
  exact ⟨m', x, step, running, positive, fits, value, grown, fresh, length, copied, kept, written, woken, others⟩

/-! ## Read -/

theorem read_message {x : Addr} {ending : Ending} (found : k.queue (int32 (args 0)) = some q)
    (first : (k.seq (.messages q)).head? = some x) (ends : Read r (k.enter r DSOS_CALL_READ_MQ args) ending) :
    (k.store.message x).length > int32 (args 2) ∧
        ending = .done () ((k.enter r DSOS_CALL_READ_MQ args).answer r (-15)) ∨
      (k.store.message x).length ≤ int32 (args 2) ∧
        ((0 < (k.store.message x).length ∧ args 1 = 0) ∧ ending = .fault .nullUser ∨
          ¬ (0 < (k.store.message x).length ∧ args 1 = 0) ∧
            ∃ j, WakeWriters q ((k.enter r DSOS_CALL_READ_MQ args).detach (.messages q) x) j ∧
              ending = .done () (j.finishRead r q x (args 1))) := by
  have buffer : (k.enter r DSOS_CALL_READ_MQ args).arg r 1 = args 1 := arg_enter (by decide)
  have size : (k.enter r DSOS_CALL_READ_MQ args).intArg r 2 = int32 (args 2) := intArg_enter (by decide)
  have named : (k.enter r DSOS_CALL_READ_MQ args).queue
      ((k.enter r DSOS_CALL_READ_MQ args).intArg r 0) = some q := (queue_enter (by decide)).trans found
  have first' : ((k.enter r DSOS_CALL_READ_MQ args).seq (.messages q)).head? = some x := first
  -- the queue and its first message are given, so the length decides, then the buffer
  cases ends with
  | waits empty suspends =>
    rw [empty q named] at first'
    cases first'
  | short same head long =>
    cases named.symm.trans same
    cases first'.symm.trans head
    rw [size] at long
    exact .inl ⟨long, rfl⟩
  | nullUser same head fits wakes null =>
    cases named.symm.trans same
    cases first'.symm.trans head
    rw [size] at fits
    rw [buffer] at null
    exact .inr ⟨fits, .inl ⟨null, rfl⟩⟩
  | takes same head fits wakes user =>
    cases named.symm.trans same
    cases first'.symm.trans head
    rw [size] at fits
    rw [buffer] at user ⊢
    exact .inr ⟨fits, .inr ⟨user, _, wakes, rfl⟩⟩

theorem Step.read_known (step : Step c m (.syscall DSOS_CALL_READ_MQ args) m') (shows : Shows c m k)
    (inv : Coherent c k.store.running none k) (runs : k.store.running = some r) :
    m.queue (int32 (args 0)) ≠ none := by
  intro absent
  rw [shows.queue] at absent
  have handler : Handles c DSOS_CALL_READ_MQ = some Read := rfl
  obtain ⟨k', -, ends⟩ := step.handled shows inv runs handler
  have unnamed : (k.enter r DSOS_CALL_READ_MQ args).queue
      ((k.enter r DSOS_CALL_READ_MQ args).intArg r 0) = none := (queue_enter (by decide)).trans absent
  cases ends with
  | waits empty suspends =>
    cases suspends with
    | suspended ptr found ready => cases unnamed.symm.trans found
  | short found => cases unnamed.symm.trans found
  | takes found => cases unnamed.symm.trans found

theorem Shows.reads_message {x : Addr} (shows : Shows c m k) (inv : Coherent c k.store.running none k)
    (runs : k.store.running = some r) (found : k.queue (int32 (args 0)) = some q)
    (first : (k.seq (.messages q)).head? = some x) :
    ((k.store.message x).length > int32 (args 2) → Rejects c m r DSOS_CALL_READ_MQ args) ∧
      ((k.store.message x).length ≤ int32 (args 2) →
        (Takes c m r args q x ↔ (0 < (k.store.message x).length → args 1 ≠ 0))) := by
  have handler : Handles c DSOS_CALL_READ_MQ = some Read := rfl
  have taken : Coherent c (some r) none ((k.enter r DSOS_CALL_READ_MQ args).detach (.messages q) x) := by
    have entered := inv.entered runs DSOS_CALL_READ_MQ args
    exact entered.moved (.take (entered.sound.first first))
  have user (fits : (k.store.message x).length ≤ int32 (args 2)) (takes : Takes c m r args q x) :
      0 < (k.store.message x).length → args 1 ≠ 0 := by
    obtain ⟨m', step, -⟩ := takes
    obtain ⟨k', -, ends⟩ := step.handled shows inv runs handler
    rcases read_message found first ends with ⟨long, -⟩ | ⟨-, ⟨-, same⟩ | ⟨user, -⟩⟩
    · exact absurd long (not_lt.mpr fits)
    · cases same
    · exact fun some_bytes null => user ⟨some_bytes, null⟩
  -- the call comes back, stops, leaves nobody running or loops; the last two do not happen
  rcases shows.handled inv runs handler args with
    ⟨m', k', step, shows', ends⟩ | ⟨stop, -, stopped⟩ | ⟨k', ends, idle⟩ | loops
  · rcases read_message found first ends with ⟨long, same⟩ | ⟨fits, ⟨-, same⟩ | ⟨-, j, wakes, same⟩⟩
    · cases same
      exact ⟨fun _ => shows.rejects step shows' (by decide), fun fits => absurd long (not_lt.mpr fits)⟩
    · cases same
    · cases same
      exact ⟨fun long => absurd long (not_lt.mpr fits), fun _ =>
        ⟨user fits, fun _ => shows.takes inv runs step first wakes shows'⟩⟩
  · rcases read_message found first stopped with ⟨-, same⟩ | ⟨fits, ⟨null, -⟩ | ⟨-, j, -, same⟩⟩
    · cases same
    · exact ⟨fun long => absurd long (not_lt.mpr fits), fun _ =>
        ⟨user fits, fun buffer => absurd null.2 (buffer null.1)⟩⟩
    · cases same
  · have still : k'.store.running = k.store.running := by
      rcases read_message found first ends with ⟨-, same⟩ | ⟨-, ⟨-, same⟩ | ⟨-, j, wakes, same⟩⟩
      · cases same
        rfl
      · cases same
      · cases same
        exact (WakeWriterRound.chain (A := fun _ _ => True) (fun _ => trivial) taken wakes.1).2.2.2
    cases (still.symm.trans idle).symm.trans runs
  · rcases read_message found first loops with ⟨-, same⟩ | ⟨-, ⟨-, same⟩ | ⟨-, j, -, same⟩⟩ <;> cases same

theorem Shows.reads_well (shows : Shows c m k) (inv : Coherent c k.store.running none k)
    (runs : k.store.running = some r) : ReadsWell c m r args ↔ ReadApplies m args := by
  apply imp_congr_right
  intro ready
  cases found : m.queue (int32 (args 0)) with
  | none =>
    constructor
    · rintro ⟨value, -, m', step, -⟩
      exact absurd found (step.read_known shows inv runs)
    · rintro ⟨q, impossible, -⟩
      cases impossible
  | some q =>
    have named : k.queue (int32 (args 0)) = some q := by rw [← shows.queue, found]
    simp only
    cases messages : m.list (.messages q) with
    | nil =>
      -- an empty queue: the caller waits, which takes a wrapper
      have wait : MustWaitToRead m args := ⟨q, found, messages⟩
      simp only
      constructor
      · rintro ⟨m', q', w, n, step, -⟩
        exact ⟨q, rfl, fun _ => ((shows.read_waits inv runs wait).1 ⟨m', step⟩).1, by simp [messages]⟩
      · rintro ⟨q', same, wrappers, -⟩
        cases same
        exact (shows.read_waits inv runs wait).2 (wrappers messages) ready
    | cons x rest =>
      have first : (k.seq (.messages q)).head? = some x := by
        rw [← shows.list, messages]
        rfl
      obtain ⟨rejects, takes⟩ := shows.reads_message inv runs named first
      rw [← shows.store] at rejects takes
      simp only
      split
      -- a message too long is rejected, and nothing is asked of the buffer
      next long =>
        refine iff_of_true (rejects long) ⟨q, rfl, fun empty => ?_, fun x' head fits => ?_⟩
        · cases messages.symm.trans empty
        · cases (messages ▸ head : (x :: rest).head? = some x')
          exact absurd long (not_lt.mpr fits)
      next fits =>
        rw [takes (not_lt.mp fits)]
        constructor
        · intro buffer
          refine ⟨q, rfl, fun empty => ?_, fun x' head _ => ?_⟩
          · cases messages.symm.trans empty
          · cases (messages ▸ head : (x :: rest).head? = some x')
            exact buffer
        · rintro ⟨q', same, -, buffer⟩
          cases same
          exact buffer x (by rw [messages]; rfl) (not_lt.mp fits)

end

/-- `read` works exactly when it applies. -/
theorem read_end_to_end (c : Constants) {m : Kernel} (reach : Reachable c.toConfig m) {r : Addr}
    (runs : m.store.running = some r) (args : Nat → Int) :
    ReadsWell c.toConfig m r args ↔ ReadApplies m args := by
  obtain ⟨k, shows, inv, -⟩ := reach.shows
  rw [shows.store] at runs
  exact shows.reads_well inv runs

/-- The first process has a child that is ready, and has written one message of three bytes. -/
def one_message : Observed always fun m => m.store.running = some (block .pcb 0) ∧
    m.queue 5 = some (block .message_queue 0) ∧
    m.list (.messages (block .message_queue 0)) = [block .message 0] ∧
    (m.store.message (block .message 0)).length = 3 ∧ m.queue 7 = none ∧ m.list .ready_list = [block .pcb 1] :=
  observe always [.syscall DSOS_CALL_SPAWN (arguments [1, 2]), .syscall DSOS_CALL_OPEN_MQ (arguments [5, 1]),
    .syscall DSOS_CALL_WRITE_MQ (arguments [5, 100, 3])] (by decide +kernel)

theorem read_end_to_end_three : ∃ m, Reachable constants.toConfig m ∧
    Takes constants.toConfig m (block .pcb 0) (arguments [5, 200, 10]) (block .message_queue 0) (block .message 0) := by
  obtain ⟨m, reached, runs, found, messages, length, -, ready⟩ := one_message
  have id : int32 (arguments [5, 200, 10] 0) = 5 := by decide
  have size : int32 (arguments [5, 200, 10] 2) = 10 := by decide
  have applies : ReadApplies m (arguments [5, 200, 10]) := by
    refine fun _ => ⟨_, by rw [id, found], by simp [messages], fun x first fits some_bytes => by decide⟩
  have reads := (read_end_to_end constants reached.reachable runs _).mpr applies (by simp [ready])
  simp only [id, found, messages, length, size] at reads
  rw [if_neg (by decide)] at reads
  exact ⟨m, reached.reachable, reads⟩

/-- A `read` of the id 7, which no queue has, does not come back. -/
theorem read_unknown_stops : ¬ ∀ m, Reachable constants.toConfig m → ∀ r, m.store.running = some r →
    ∀ args : Nat → Int, ReadsWell constants.toConfig m r args := by
  intro every
  obtain ⟨m, reached, runs, -, -, -, absent, ready⟩ := one_message
  obtain ⟨k, shows, inv, -⟩ := reached.reachable.shows
  have reads := every m reached.reachable _ runs (arguments [7, 200, 10]) (by simp [ready])
  have id : int32 (arguments [7, 200, 10] 0) = 7 := by decide
  simp only [id, absent] at reads
  obtain ⟨value, -, m', step, -⟩ := reads
  exact step.read_known shows inv (shows.store ▸ runs) (by rw [id, absent])

/-! ## Write -/

section
variable {c : Config} {m m' : Kernel} {k k' : Scene} {r q : Addr} {args : Nat → Int}

theorem write_room {x : Addr} {ending : Ending} (found : k.queue (int32 (args 0)) = some q)
    (fits : int32 (args 2) ≤ c.MAX_LEN_MESSAGE) (room : (k.store.mq q).num_written ≠ c.MAX_NUM_MESSAGES)
    (top : (k.free .message).head? = some x) (ends : Write c r (k.enter r DSOS_CALL_WRITE_MQ args) ending) :
    (0 < int32 (args 2) ∧ args 1 = 0) ∧ ending = .fault .nullUser ∨
      ¬ (0 < int32 (args 2) ∧ args 1 = 0) ∧
        ∃ j, WakeReaders q ((k.enter r DSOS_CALL_WRITE_MQ args).post q x (args 1) (int32 (args 2))) j ∧
          ending = .done () (j.finishWrite r q (int32 (args 2))) := by
  have buffer : (k.enter r DSOS_CALL_WRITE_MQ args).arg r 1 = args 1 := arg_enter (by decide)
  have size : (k.enter r DSOS_CALL_WRITE_MQ args).intArg r 2 = int32 (args 2) := intArg_enter (by decide)
  have named : (k.enter r DSOS_CALL_WRITE_MQ args).queue
      ((k.enter r DSOS_CALL_WRITE_MQ args).intArg r 0) = some q := (queue_enter (by decide)).trans found
  cases ends with
  | tooLong long =>
    rw [size] at long
    omega
  | unknown _ absent => cases named.symm.trans absent
  | waits _ same full =>
    cases named.symm.trans same
    exact absurd full room
  | noBlock _ same _ spent =>
    have spent : k.free .message = [] := spent
    simp [spent] at top
  | nullUser _ same _ block null =>
    rw [size, buffer] at null
    exact .inl ⟨null, rfl⟩
  | writes _ same _ block user wakes =>
    cases named.symm.trans same
    -- the block is the first of its pool in both
    have block : (k.free .message).head? = some _ := block
    cases top.symm.trans block
    rw [size, buffer] at user wakes
    rw [size]
    exact .inr ⟨user, _, wakes, rfl⟩

theorem write_block (found : k.queue (int32 (args 0)) = some q) (fits : int32 (args 2) ≤ c.MAX_LEN_MESSAGE)
    (room : (k.store.mq q).num_written ≠ c.MAX_NUM_MESSAGES)
    (ends : Write c r (k.enter r DSOS_CALL_WRITE_MQ args) (.done () k')) : ∃ x, (k.free .message).head? = some x := by
  have size : (k.enter r DSOS_CALL_WRITE_MQ args).intArg r 2 = int32 (args 2) := intArg_enter (by decide)
  have named : (k.enter r DSOS_CALL_WRITE_MQ args).queue
      ((k.enter r DSOS_CALL_WRITE_MQ args).intArg r 0) = some q := (queue_enter (by decide)).trans found
  cases ends with
  | tooLong long =>
    rw [size] at long
    exact absurd long (not_lt.mpr fits)
  | unknown _ absent => cases named.symm.trans absent
  | waits _ same full =>
    cases named.symm.trans same
    exact absurd full room
  | writes _ same _ block => exact ⟨_, block⟩

theorem Shows.writes_room {x : Addr} (shows : Shows c m k) (inv : Coherent c k.store.running none k)
    (runs : k.store.running = some r) (found : k.queue (int32 (args 0)) = some q)
    (fits : int32 (args 2) ≤ c.MAX_LEN_MESSAGE) (room : (k.store.mq q).num_written ≠ c.MAX_NUM_MESSAGES)
    (top : (k.free .message).head? = some x) :
    ((∃ m', Step c m (.syscall DSOS_CALL_WRITE_MQ args) m') → (0 < int32 (args 2) → args 1 ≠ 0)) ∧
      (∀ m', Step c m (.syscall DSOS_CALL_WRITE_MQ args) m' → m'.list (.messages q) ≠ m.list (.messages q)) ∧
      (0 ≤ int32 (args 2) → (0 < int32 (args 2) → args 1 ≠ 0) → Writes c m r args q) := by
  have handler : Handles c DSOS_CALL_WRITE_MQ = some (Write c) := rfl
  have posted : Coherent c (some r) none
      ((k.enter r DSOS_CALL_WRITE_MQ args).post q x (args 1) (int32 (args 2))) := by
    have entered := inv.entered runs DSOS_CALL_WRITE_MQ args
    exact entered.moved (.post (args 1) top fits)
  refine ⟨?_, fun m' step => ?_, fun positive buffer => ?_⟩
  · rintro ⟨m', step⟩ some_bytes null
    obtain ⟨k', -, ends⟩ := step.handled shows inv runs handler
    rcases write_room found fits room top ends with ⟨-, same⟩ | ⟨user, -⟩
    · cases same
    · exact user ⟨some_bytes, null⟩
  · obtain ⟨k', shows', ends⟩ := step.handled shows inv runs handler
    rcases write_room found fits room top ends with ⟨-, same⟩ | ⟨-, j, wakes, same⟩
    · cases same
    · cases same
      have others : j.seq (.messages q) = k.seq (.messages q) ++ [x] := by
        rw [(wakes.woken posted).others _ (by simp) (by simp) (by simp)]
        simp [Scene.post]
      -- the new message is in the list, whatever was woken
      have grown : (j.finishWrite r q (int32 (args 2))).seq (.messages q) = j.seq (.messages q) := by
        simp [Scene.finishWrite]
      rw [shows'.list, shows.list, grown, others]
      simp
  · rcases shows.handled inv runs handler args with
      ⟨m', k', step, shows', ends⟩ | ⟨stop, -, stopped⟩ | ⟨k', ends, idle⟩ | loops
    · rcases write_room found fits room top ends with ⟨-, same⟩ | ⟨-, j, wakes, same⟩
      · cases same
      · cases same
        exact shows.writes inv runs step top positive fits wakes shows'
    · rcases write_room found fits room top stopped with ⟨null, -⟩ | ⟨-, j, -, same⟩
      · exact absurd null.2 (buffer null.1)
      · cases same
    · rcases write_room found fits room top ends with ⟨-, same⟩ | ⟨-, j, wakes, same⟩
      · cases same
      · cases same
        have still : j.store.running = k.store.running :=
          (WakeReaderRound.chain (A := fun _ _ => True) (fun _ _ => trivial) posted wakes.1).2.2.2.1
        cases (still.symm.trans idle).symm.trans runs
    · rcases write_room found fits room top loops with ⟨-, same⟩ | ⟨-, j, -, same⟩ <;> cases same

theorem Shows.write_refused (shows : Shows c m k) (inv : Coherent c k.store.running none k)
    (runs : k.store.running = some r)
    (refused : int32 (args 2) > c.MAX_LEN_MESSAGE ∨ k.queue (int32 (args 0)) = none) :
    Rejects c m r DSOS_CALL_WRITE_MQ args := by
  have handler : Handles c DSOS_CALL_WRITE_MQ = some (Write c) := rfl
  have size : (k.enter r DSOS_CALL_WRITE_MQ args).intArg r 2 = int32 (args 2) := intArg_enter (by decide)
  -- both the queue and a length that fits are needed to get past the two checks
  have never {q : Addr} (fits : (k.enter r DSOS_CALL_WRITE_MQ args).intArg r 2 ≤ c.MAX_LEN_MESSAGE)
      (found : (k.enter r DSOS_CALL_WRITE_MQ args).queue
        ((k.enter r DSOS_CALL_WRITE_MQ args).intArg r 0) = some q) : False := by
    rw [size] at fits
    rw [queue_enter (by decide)] at found
    rcases refused with long | absent
    · omega
    · cases absent.symm.trans found
  rcases shows.handled inv runs handler args with
    ⟨m', k', step, shows', ends⟩ | ⟨stop, -, stopped⟩ | ⟨k', ends, idle⟩ | loops
  · cases ends with
    | tooLong long => exact shows.rejects step shows' (by decide)
    | unknown fits absent => exact shows.rejects step shows' (by decide)
    | waits fits found => exact (never fits found).elim
    | writes fits found => exact (never fits found).elim
  · cases stopped with
    | waits fits found => exact (never fits found).elim
    | noBlock fits found => exact (never fits found).elim
    | nullUser fits found => exact (never fits found).elim
  · cases ends with
    | tooLong long => cases runs.symm.trans idle
    | unknown fits absent => cases runs.symm.trans idle
    | waits fits found => exact (never fits found).elim
    | writes fits found => exact (never fits found).elim
  · cases loops with
    | waits fits found => exact (never fits found).elim

theorem Shows.writes_well (shows : Shows c m k) (inv : Coherent c k.store.running none k)
    (runs : k.store.running = some r) : WritesWell c m r args ↔ WriteApplies c m args := by
  refine imp_congr_right fun ready => imp_congr_right fun some_free => ?_
  obtain ⟨x, top⟩ := shows.some_free.mp some_free
  by_cases fits : int32 (args 2) ≤ c.MAX_LEN_MESSAGE
  · cases found : m.queue (int32 (args 0)) with
    | none =>
      have absent : k.queue (int32 (args 0)) = none := by rw [← shows.queue, found]
      exact iff_of_true (.inr (.inl (shows.write_refused inv runs (.inr absent)))) (by simp)
    | some q =>
      have named : k.queue (int32 (args 0)) = some q := by rw [← shows.queue, found]
      simp only [fits, forall_const, Option.some.injEq, forall_eq']
      by_cases full : (m.store.mq q).num_written = c.MAX_NUM_MESSAGES
      · have wait : MustWaitToWrite c m args := ⟨fits, q, found, full⟩
        constructor
        · intro well
          refine ⟨fun _ => ((shows.write_waits inv runs wait).1 ?_).1, fun room => absurd full room⟩
          rcases well with ⟨-, -, m', x, step, -⟩ | ⟨value, -, m', step, -⟩ | ⟨-, m', q', w, n, step, -⟩ <;>
            exact ⟨m', step⟩
        · intro applies
          exact .inr (.inr ⟨⟨q, rfl, full⟩, (shows.write_waits inv runs wait).2 (applies.1 full) ready⟩)
      · -- a rejected call leaves every list as it is, and here the list of the messages grows
        have room : (k.store.mq q).num_written ≠ c.MAX_NUM_MESSAGES := by rwa [← shows.store]
        obtain ⟨buffer, grows, writes⟩ := shows.writes_room inv runs named fits room top
        constructor
        · rintro (⟨q', same, written⟩ | ⟨value, -, m', step, -, lists, -⟩ | ⟨⟨q', same, impossible⟩, -⟩)
          · obtain ⟨m', y, step, -, positive, -⟩ := written
            exact ⟨fun now => absurd now full, fun _ => ⟨positive, buffer ⟨m', step⟩⟩⟩
          · exact absurd (lists _) (grows m' step)
          · cases same
            exact absurd impossible full
        · intro applies
          exact .inl ⟨q, rfl, writes (applies.2 full).1 (applies.2 full).2⟩
  · exact iff_of_true (.inr (.inl (shows.write_refused inv runs (.inl (not_le.mp fits)))))
      fun less => absurd less fits

end

/-! ## The lengths of the messages -/

def Scene.Lengths (k : Scene) : Prop := ∀ q, ∀ x ∈ k.seq (.messages q), 0 ≤ (k.store.message x).length

/-- A `write` that finds room has a length that is not negative. -/
def StoresLength (c : Config) (m : Kernel) (e : Event) : Prop :=
  ∀ args, e = .syscall DSOS_CALL_WRITE_MQ args → int32 (args 2) ≤ c.MAX_LEN_MESSAGE →
    (∃ q, m.queue (int32 (args 0)) = some q ∧ (m.store.mq q).num_written ≠ c.MAX_NUM_MESSAGES) →
    0 ≤ int32 (args 2)

section
variable {c : Config} {m : Kernel} {k k' : Scene} {e : Event}

theorem Move.message {tag : Tag} {P P' : Phase} (move : Move c tag P P') (other : ∀ q x, tag ≠ .posted q x) :
    P'.scene.store.message = P.scene.store.message := by
  cases move with
  | post => exact absurd rfl (other _ _)
  | _ =>
    simp [Scene.tick, Scene.enter, Scene.block, Scene.startTimer, Scene.dispatch, Scene.enqueue, Scene.wakeSleeper,
      Scene.rotate, Scene.reparent, Scene.bury, Scene.destroy, Scene.newQueue, Scene.resumeParent,
      Scene.dropDescriptor, Scene.newResource, Scene.finishRead, Scene.finishWrite,
      Scene.openDescriptor, Scene.wakeWaiter, Scene.wakeWriter, Scene.reap, Scene.vanish, Scene.restart, Scene.newChild]

theorem Move.lengths {tag : Tag} {P P' : Phase} (move : Move c tag P P') (inv : P.Coherent c)
    (other : ∀ q x, tag ≠ .posted q x) (holds : P.scene.Lengths) : P'.scene.Lengths := by
  intro q x member
  rw [move.message other]
  rcases move.joins inv ((move.coherent inv).sound.mem_seq.mp member) with before | joins
  · exact holds q x (inv.sound.mem_seq.mpr before)
  · cases joins with
    | posted top => exact absurd rfl (other _ _)

theorem Does.posted {j : Scene} {q x : Addr} (does : Does c k e j (.posted q x)) :
    ∃ args, e = .syscall DSOS_CALL_WRITE_MQ args := by
  cases does with
  | posts args => exact ⟨args, rfl⟩

theorem Write.lengths {r : Addr} {args : Nat → Int} (inv : Coherent c k.store.running none k)
    (runs : k.store.running = some r) (holds : k.Lengths)
    (positive : int32 (args 2) ≤ c.MAX_LEN_MESSAGE →
      (∃ q, k.queue (int32 (args 0)) = some q ∧ (k.store.mq q).num_written ≠ c.MAX_NUM_MESSAGES) → 0 ≤ int32 (args 2))
    (ends : Write c r (k.enter r DSOS_CALL_WRITE_MQ args) (.done () k')) : k'.Lengths := by
  have size : (k.enter r DSOS_CALL_WRITE_MQ args).intArg r 2 = int32 (args 2) := intArg_enter (by decide)
  have entered := inv.entered runs DSOS_CALL_WRITE_MQ args
  cases ends with
  | tooLong long => exact fun q x member => by simpa [Scene.enter] using holds q x member
  | unknown fits absent => exact fun q x member => by simpa [Scene.enter] using holds q x member
  | waits fits found full suspends =>
    cases suspends with
    | suspended ptr mq ready =>
      intro q x member
      have before : x ∈ k.seq (.messages q) := by
        simpa [Scene.dispatch, Scene.enqueue, Scene.block] using member
      simpa [Scene.dispatch, Scene.enqueue, Scene.block, Scene.enter] using holds q x before
  | @writes q x j fits found room top user wakes =>
    have long := positive (size ▸ fits) ⟨q, (queue_enter (by decide)).symm.trans found, room⟩
    have posted := entered.moved (.post (q := q) ((k.enter r DSOS_CALL_WRITE_MQ args).arg r 1) top fits)
    have woken := wakes.woken posted
    obtain ⟨pcb, store, -, -⟩ := woken.store
    intro q' y member
    have there : y ∈ ((k.enter r DSOS_CALL_WRITE_MQ args).post q x ((k.enter r DSOS_CALL_WRITE_MQ args).arg r 1)
        ((k.enter r DSOS_CALL_WRITE_MQ args).intArg r 2)).seq (.messages q') := by
      rw [← woken.others (.messages q') (by simp) (by simp) (by simp)]
      simpa [Scene.finishWrite] using member
    -- only the block of the new message has changed
    by_cases new : y = x
    · simpa [Scene.finishWrite, store, Scene.post, new, size] using long
    · have before : y ∈ k.seq (.messages q') := by
        by_cases same : q' = q
        · subst same
          simpa [Scene.post, new] using there
        · simpa [Scene.post, same] using there
      simpa [Scene.finishWrite, store, Scene.post, new, Scene.enter] using holds q' y before

theorem Reacts.lengths (shows : Shows c m k) (inv : Coherent c k.store.running none k) (counted : Counted c k)
    (stores : StoresLength c m e) (holds : k.Lengths) (reacts : Reacts c k e (.done () k')) : k'.Lengths := by
  by_cases writes : ∃ args, e = .syscall DSOS_CALL_WRITE_MQ args
  · obtain ⟨args, rfl⟩ := writes
    obtain ⟨r, runs⟩ := reacts.runs
    have handler : Handles c DSOS_CALL_WRITE_MQ = some (Write c) := rfl
    refine Write.lengths inv runs holds (fun fits room => stores args rfl fits ?_) (reacts.handler_ends handler runs)
    rw [shows.queue, shows.store]
    exact room
  · refine ((reacts.chain inv counted).keeps (J := fun P => P.scene.Lengths) inv
      (fun does inv' move holds => move.lengths inv' (fun q x posted => ?_) holds) holds).2
    subst posted
    exact writes does.posted

end

theorem Fresh.lengths {c : Config} {k : Scene} (fresh : Fresh c k) : k.Lengths := by
  intro q x member
  simp [fresh.seq] at member

/-- `write` works exactly when it applies, and where no negative length is stored
the messages have lengths from 0 to `MAX_LEN_MESSAGE`. -/
theorem write_end_to_end (c : Constants) :
    (∀ m, Reachable c.toConfig m → ∀ r, m.store.running = some r → ∀ args : Nat → Int,
      (WritesWell c.toConfig m r args ↔ WriteApplies c.toConfig m args)) ∧
    ∀ m, ReachableWith c.toConfig (StoresLength c.toConfig) m → ∀ q, ∀ x ∈ m.list (.messages q),
      0 ≤ (m.store.message x).length ∧ (m.store.message x).length ≤ c.MAX_LEN_MESSAGE := by
  constructor
  · intro m reach r runs args
    obtain ⟨k, shows, inv, -⟩ := reach.shows
    rw [shows.store] at runs
    exact shows.writes_well inv runs
  · intro m reach q x member
    obtain ⟨k, shows, inv, -, holds⟩ := reach.shows (J := Scene.Lengths) Fresh.lengths
      fun shows inv counted stores holds reacts => reacts.lengths shows inv counted stores holds
    rw [shows.list] at member
    rw [shows.store]
    exact ⟨holds q x member, inv.queues.bounded (inv.sound.mem_seq.mp member)⟩

/-- The first process has a child that is ready, and has created a queue. -/
def empty_queue : Observed always fun m => m.store.running = some (block .pcb 0) ∧
    m.queue 5 = some (block .message_queue 0) ∧ (m.store.mq (block .message_queue 0)).num_written = 0 ∧
    (m.data.pools .message).size = 327680 ∧ m.list .ready_list = [block .pcb 1] :=
  observe always [.syscall DSOS_CALL_SPAWN (arguments [1, 2]), .syscall DSOS_CALL_OPEN_MQ (arguments [5, 1])]
    (by decide +kernel)

theorem write_end_to_end_three : ∃ m, Reachable constants.toConfig m ∧
    WritesWell constants.toConfig m (block .pcb 0) (arguments [5, 100, 3]) := by
  obtain ⟨m, reached, runs, found, written, -⟩ := empty_queue
  have applies : WriteApplies constants.toConfig m (arguments [5, 100, 3]) := by
    intro _ _ _ q named
    have id : int32 (arguments [5, 100, 3] 0) = 5 := by decide
    rw [id, found] at named
    cases named
    rw [written]
    exact ⟨fun full => absurd full (by decide), fun _ => ⟨by decide, fun _ => by decide⟩⟩
  exact ⟨m, reached.reachable, ((write_end_to_end constants).1 m reached.reachable _ runs _).mpr applies⟩

/-- A message of length -1 is stored, and its length is the answer. -/
theorem write_negative_length : ¬ ∀ m, Reachable constants.toConfig m → ∀ r, m.store.running = some r →
    ∀ args : Nat → Int, WritesWell constants.toConfig m r args := by
  intro every
  obtain ⟨m, reached, runs, found, written, left, ready⟩ := empty_queue
  obtain ⟨k, shows, inv, -⟩ := reached.reachable.shows
  have applies := (shows.writes_well inv (shows.store ▸ runs)).mp (every m reached.reachable _ runs (arguments [5, 100, -1]))
  have id : int32 (arguments [5, 100, -1] 0) = 5 := by decide
  have short : int32 (arguments [5, 100, -1] 2) ≤ constants.MAX_LEN_MESSAGE := by decide
  have room : (m.store.mq (block .message_queue 0)).num_written ≠ constants.MAX_NUM_MESSAGES := by
    rw [written]
    decide
  have some_free : (m.data.pools .message).size ≠ 0 := by
    rw [left]
    decide
  have positive := ((applies (by simp [ready]) some_free short _ (by rw [id, found])).2 room).1
  exact absurd positive (by decide)

end DisastrOS
