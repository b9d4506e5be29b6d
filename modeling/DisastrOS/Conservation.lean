import Mathlib.Algebra.BigOperators.Ring.Finset
import Mathlib.Algebra.Order.BigOperators.Group.List
import DisastrOS.Outstanding
import DisastrOS.Placement

/-! Where the blocks of messages and of wrappers are.

A block that is allocated should be in a list that is still in use. Each of the
two pools loses blocks in calls that can be named from the state before them,
and a run without such calls loses none.
-/

set_option autoImplicit false

namespace DisastrOS

open Refinement

/-! ## Messages -/

/-- Every message that is allocated is in a queue that exists. -/
def Scene.Homed (c : Config) (k : Scene) : Prop :=
  ∀ x, k.Live c x → x.pool = .message → ∃ q, k.place x = .linked (.messages q) ∧ k.place q = .linked .mq_list

section
variable {c : Config} {tag : Tag} {P P' : Phase}

theorem Move.message_born (move : Move c tag P P') (inv : P.Coherent c) {x : Addr} (pool : x.pool = .message)
    (alive : P'.scene.Live c x) :
    P.scene.Live c x ∨ ∃ q, tag = .posted q x ∧ P'.scene.place x = .linked (.messages q) := by
  cases move with
  | @post k ru go q m length write_buffer block fits =>
    have born : (k.alloc .message).Live c x := alive
    rcases (Scene.live_alloc inv.sound block).mp born with rfl | before
    · exact .inr ⟨q, rfl, by simp [Scene.post]⟩
    · exact .inl before
  | _ =>
    left
    simpa [Scene.tick, Scene.enter, Scene.block, Scene.startTimer, Scene.dispatch, Scene.enqueue, Scene.wakeSleeper,
      Scene.rotate, Scene.reparent, Scene.bury, Scene.destroy, Scene.newQueue, Scene.resumeParent, Head.kind,
      Scene.dropDescriptor, Scene.newResource, Scene.finishRead, Scene.finishWrite, Scene.newChild,
      Scene.openDescriptor, Scene.wakeWaiter, Scene.wakeWriter, Scene.reap, Scene.vanish, Scene.restart,
      Scene.live_release_of_ne, Scene.live_alloc_of_ne, pool] using alive

theorem Move.queue_stays (move : Move c tag P P') (inv : P.Coherent c) {q : Addr} (kept : tag ≠ .destroyed q)
    (listed : P.scene.place q = .linked .mq_list) : P'.scene.place q = .linked .mq_list := by
  rcases move.leaves inv listed with leaves | still
  · cases leaves with
    | queue unused => exact absurd rfl kept
    | lost owner => cases owner
  · exact still

theorem Move.homed (move : Move c tag P P') (inv : P.Coherent c) (untaken : ∀ q x, tag ≠ .taken q x)
    (destroyed : ∀ q, tag = .destroyed q → P.scene.seq (.messages q) = [])
    (posted : ∀ q x, tag = .posted q x → P.scene.place q = .linked .mq_list) (homed : P.scene.Homed c) :
    P'.scene.Homed c := by
  intro x alive pool
  rcases move.message_born inv pool alive with before | ⟨q, rfl, home⟩
  · obtain ⟨q, home, listed⟩ := homed x before pool
    have occupied : P.scene.seq (.messages q) ≠ [] := List.ne_nil_of_mem (inv.sound.mem_seq.mpr home)
    refine ⟨q, ?_, move.queue_stays inv (fun gone => occupied (destroyed q gone)) listed⟩
    rcases move.leaves inv home with leaves | still
    · cases leaves with
      | taken => exact absurd rfl (untaken q x)
      | lost owner dead =>
        cases owner
        exact absurd (inv.sound.live listed) dead
    · exact still
  · exact ⟨q, home, move.queue_stays inv nofun (posted q x rfl)⟩

end

/-- No message is read, and no queue is destroyed with messages in it. -/
def MessagesStay (m : Kernel) : Event → Prop
  | .syscall num args => ∀ q ∈ m.queue (int32 (args 0)),
      (num = DSOS_CALL_READ_MQ → ∀ x ∈ (m.list (.messages q)).head?,
        int32 (args 2) < (m.store.message x).length) ∧
      (num = DSOS_CALL_DESTROY_MQ → m.list (.descriptors_ptrs q) = [] → m.list (.messages q) = [])
  | _ => True

instance : ∀ m e, Decidable (MessagesStay m e)
  | m, .syscall num args => by
    unfold MessagesStay
    infer_instance
  | _, .user _ => inferInstanceAs (Decidable True)
  | _, .tick => inferInstanceAs (Decidable True)
  | _, .proceed => inferInstanceAs (Decidable True)

/-- As many messages are allocated as are in the queues, so that there is one for every write. -/
structure MessagesConserved (c : Config) (m : Kernel) : Prop where
  count : ({x | m.Allocated c x ∧ x.pool = .message}.ncard : Int) =
    ((m.list .mq_list).map fun q => (m.data.links.head (.messages q)).size).sum
  left : ∀ args, ¬ Halts c m (.syscall DSOS_CALL_WRITE_MQ args) .insertNull

section
variable {c : Config} {m : Kernel} {k k' : Scene} {e : Event}

theorem Does.untaken {j : Scene} {q x : Addr} (shows : Shows c m k) (stay : MessagesStay m e)
    (does : Does c k e j (.taken q x)) : False := by
  cases does with
  | takes args runs found first fits =>
    have short := (stay q (by rw [shows.queue, found]; rfl)).1 rfl x (by rw [shows.list, first]; rfl)
    rw [shows.store] at short
    omega

theorem Does.destroys_empty {j : Scene} {q : Addr} (shows : Shows c m k) (stay : MessagesStay m e)
    (does : Does c k e j (.destroyed q)) : j.seq (.messages q) = [] := by
  cases does with
  | destroys args runs found closed =>
    have empty := (stay q (by rw [shows.queue, found]; rfl)).2 rfl (by rw [shows.list, closed])
    rwa [shows.list] at empty

theorem Does.posts_listed {j : Scene} {q x : Addr} {runner gone : Pointer} (inv : Coherent c runner gone k)
    (does : Does c k e j (.posted q x)) : j.place q = .linked .mq_list := by
  cases does with
  | posts args runs found room block => exact (queue_listed inv found).1

theorem Reacts.homed (shows : Shows c m k) (inv : Coherent c k.store.running none k) (counted : Counted c k)
    (stay : MessagesStay m e) (homed : k.Homed c) (reacts : Reacts c k e (.done () k')) : k'.Homed c := by
  refine ((reacts.chain inv counted).keeps (J := fun P => P.scene.Homed c) inv
    (fun does inv' move holds => move.homed inv' ?_ ?_ ?_ holds) homed).2
  · rintro q x rfl
    exact does.untaken shows stay
  · rintro q rfl
    exact does.destroys_empty shows stay
  · rintro q x rfl
    exact does.posts_listed inv

theorem Scene.Homed.card (homed : k.Homed c) (sound : k.Sound c) :
    (k.outstanding c .message).card = ((k.seq .mq_list).map fun q => (k.seq (.messages q)).length).sum := by
  have union : k.outstanding c .message =
      (k.seq .mq_list).toFinset.biUnion fun q => (k.seq (.messages q)).toFinset := by
    ext x
    simp only [Scene.mem_outstanding, Finset.mem_biUnion, List.mem_toFinset]
    constructor
    · rintro ⟨alive, pool⟩
      obtain ⟨q, home, listed⟩ := homed x alive pool
      exact ⟨q, sound.mem_seq.mpr listed, sound.mem_seq.mpr home⟩
    · rintro ⟨q, listed, member⟩
      have home := sound.mem_seq.mp member
      exact ⟨sound.live home, sound.kind home⟩
  rw [union, Finset.card_biUnion, List.sum_toFinset _ (sound.nodup .mq_list)]
  · refine congrArg List.sum (List.map_congr_left fun q _ => ?_)
    exact List.toFinset_card_of_nodup (sound.nodup _)
  · intro q _ q' _ differ
    apply Finset.disjoint_left.mpr
    intro x member member'
    rw [List.mem_toFinset, sound.mem_seq] at member member'
    cases member.symm.trans member'
    exact differ rfl

/-- Fewer messages than there are blocks: every queue but one may be full. -/
theorem Scene.Homed.room {c : Constants} {k : Scene} {q : Addr} (homed : k.Homed c.toConfig)
    (inv : Coherent c.toConfig k.store.running none k) (counted : Counted c.toConfig k)
    (listed : k.place q = .linked .mq_list) (room : (k.store.mq q).num_written ≠ c.MAX_NUM_MESSAGES) :
    k.free .message ≠ [] := by
  intro spent
  have all : (k.outstanding c.toConfig .message).card = c.num_items .message := by
    have total := inv.sound.outstanding_add_free .message
    rwa [spent, List.length_nil, Nat.add_zero] at total
  have queues : (k.seq .mq_list).length ≤ c.MAX_NUM_MESSAGEQUEUES := by
    rw [← List.toFinset_card_of_nodup (inv.sound.nodup .mq_list)]
    have inside : (k.seq .mq_list).toFinset ⊆ k.outstanding c.toConfig .message_queue := by
      intro q' member
      have linked := inv.sound.mem_seq.mp (List.mem_toFinset.mp member)
      exact Scene.mem_outstanding.mpr ⟨inv.sound.live linked, inv.sound.kind linked⟩
    have total : _ + _ = c.MAX_NUM_MESSAGEQUEUES := inv.sound.outstanding_add_free .message_queue
    exact (Finset.card_le_card inside).trans (by omega)
  have short : (k.seq (.messages q)).length < c.MAX_NUM_MESSAGES := by
    have count := counted q
    omega
  -- every message is in a queue, and this queue has room for one more
  have fewer : (k.outstanding c.toConfig .message).card < c.MAX_NUM_MESSAGES * c.MAX_NUM_MESSAGEQUEUES :=
    calc (k.outstanding c.toConfig .message).card
        = ((k.seq .mq_list).map fun q => (k.seq (.messages q)).length).sum := homed.card inv.sound
      _ < ((k.seq .mq_list).map fun _ => c.MAX_NUM_MESSAGES).sum :=
        List.sum_lt_sum _ _ (fun q' _ => (counted q').2) ⟨q, inv.sound.mem_seq.mpr listed, short⟩
      _ = (k.seq .mq_list).length * c.MAX_NUM_MESSAGES := by simp
      _ ≤ c.MAX_NUM_MESSAGES * c.MAX_NUM_MESSAGEQUEUES := by
        rw [Nat.mul_comm]
        exact Nat.mul_le_mul_left _ queues
  have items := c.positive .message
  simp only [Config.num_items] at items all
  have extra : 0 < c.MESSAGES_EXTRA * 10 := by
    rw [Nat.mul_assoc] at items
    exact Nat.pos_of_mul_pos_left items
  have enough := Nat.le_mul_of_pos_right (c.MAX_NUM_MESSAGES * c.MAX_NUM_MESSAGEQUEUES) extra
  rw [← Nat.mul_assoc] at enough
  omega

end

theorem messages_conserved (c : Constants) {m : Kernel} (reach : ReachableWith c.toConfig MessagesStay m) :
    MessagesConserved c.toConfig m := by
  obtain ⟨k, shows, inv, counted, homed⟩ := reach.shows (J := fun k => k.Homed c.toConfig)
    (fun fresh x alive pool => by cases (fresh.live x).mp alive; cases pool)
    fun shows inv counted stay homed reacts => reacts.homed shows inv counted stay homed
  constructor
  · have sizes : (fun q => (m.data.links.head (.messages q)).size) =
        fun q => ((k.seq (.messages q)).length : Int) := by
      funext q
      rw [(shows.holds _).size, shows.list]
    rw [shows.ncard, homed.card inv.sound, shows.list, sizes]
    rw [Nat.cast_list_sum, List.map_map]
    rfl
  · intro args halts
    obtain ⟨r, runs, stops⟩ := (halts.reacts shows inv).handler_stops rfl ⟨nofun, nofun⟩
    cases stops with
    | noBlock fits found room spent =>
      exact homed.room inv counted (queue_listed inv found).1 room spent
    | waits fits found full suspends => cases suspends

/-- A queue holds the message written to it. -/
def one_written : Observed MessagesStay fun m => (m.data.pools .message).size + 1 = constants.num_items .message :=
  observe MessagesStay
    [.syscall DSOS_CALL_OPEN_MQ (arguments [5, 1]), .syscall DSOS_CALL_WRITE_MQ (arguments [5, 1000, 3])]
    (by decide +kernel)

theorem messages_conserved_one : ∃ m, ReachableWith constants.toConfig MessagesStay m ∧
    (m.data.pools .message).size + 1 = constants.num_items .message ∧ MessagesConserved constants.toConfig m := by
  obtain ⟨m, reach, written⟩ := one_written
  exact ⟨m, reach, written, messages_conserved constants reach⟩

/-- The message has been read, and the queue is empty. -/
def one_read : Observed always fun m =>
    ((m.list .mq_list).map fun q => (m.data.links.head (.messages q)).size).sum = 0 ∧
      (m.data.pools .message).size ≠ constants.num_items .message :=
  observe always
    [.syscall DSOS_CALL_OPEN_MQ (arguments [5, 1]), .syscall DSOS_CALL_WRITE_MQ (arguments [5, 1000, 3]),
      .syscall DSOS_CALL_READ_MQ (arguments [5, 2000, 64])]
    (by decide +kernel)

/-- The block of a message that has been read is lost. -/
theorem message_lost : ¬ ∀ m, Reachable constants.toConfig m → MessagesConserved constants.toConfig m := by
  intro every
  obtain ⟨m, reach, empty, missing⟩ := one_read
  obtain ⟨k, shows, -⟩ := reach.reachable.shows
  have count := (every m reach.reachable).count
  have total := shows.ncard_add_size .message
  rw [count, empty, zero_add] at total
  exact missing total

/-! ## Wrappers -/

/-- Every wrapper that is allocated is in the children of a process or in a
waiting list of a queue that exists. -/
def Scene.Wrapped (c : Config) (k : Scene) : Prop :=
  ∀ w, k.Live c w → w.pool = .pcb_ptr → (∃ q, k.place w = .linked (.children q)) ∨
    ∃ q, (k.place w = .linked (.waiting_to_read q) ∨ k.place w = .linked (.waiting_to_write q)) ∧
      k.place q = .linked .mq_list

section
variable {c : Config} {tag : Tag} {P P' : Phase} {w : Addr}

theorem Move.wrapper_born (move : Move c tag P P') (inv : P.Coherent c) (pool : w.pool = .pcb_ptr)
    (alive : P'.scene.Live c w) :
    P.scene.Live c w ∨ (∃ q, P'.scene.place w = .linked (.children q)) ∨
      ∃ q, (P'.scene.place w = .linked (.waiting_to_read q) ∨ P'.scene.place w = .linked (.waiting_to_write q)) ∧
        P.scene.place q = .linked .mq_list ∧ tag = .plain := by
  cases move with
  | @fork k r p e pcb ptr | @spawn k r p e function argument pcb ptr =>
    have kind := (inv.sound.top pcb).1
    have other : w ≠ p := by
      rintro rfl
      cases kind.symm.trans pool
    have born : ((k.alloc .pcb).alloc .pcb_ptr).Live c w := by
      simpa [Scene.newChild] using alive
    rcases (Scene.live_alloc (k := k.alloc .pcb) inv.sound.alloc (by simpa using ptr)).mp born with rfl | before
    · exact .inr (.inl ⟨r, by simp [Scene.newChild, other]⟩)
    · exact .inl ((Scene.live_alloc_of_ne (by simp [pool])).mp before)
  | @enqueue k go r e q waiting num which ptr calls found reads writes =>
    have born : (k.alloc .pcb_ptr).Live c w := alive
    rcases (Scene.live_alloc inv.sound ptr).mp born with rfl | before
    · refine .inr (.inr ⟨q, ?_, (queue_listed inv found).1, rfl⟩)
      cases which
      · exact .inl (by simp [Scene.enqueue])
      · exact .inr (by simp [Scene.enqueue])
    · exact .inl before
  | @reap k ru r e z result entry names zombie =>
    have freed : ((k.detach (.children r) e).release .pcb_ptr e).Live c w := by
      simpa [Scene.reap, Scene.live_release_of_ne, pool] using alive
    exact .inl ((Scene.live_release (inv.sound.kind entry)).mp freed).2
  | wakeWriter first names => exact .inl ((Scene.live_release (inv.sound.kind (inv.sound.first first))).mp alive).2
  | _ =>
    left
    simpa [Scene.tick, Scene.enter, Scene.block, Scene.startTimer, Scene.dispatch, Scene.wakeSleeper,
      Scene.rotate, Scene.reparent, Scene.bury, Scene.destroy, Scene.newQueue, Scene.resumeParent, Head.kind,
      Scene.dropDescriptor, Scene.newResource, Scene.finishRead, Scene.finishWrite, Scene.post,
      Scene.openDescriptor, Scene.wakeWaiter, Scene.vanish, Scene.restart,
      Scene.live_release_of_ne, Scene.live_alloc_of_ne, pool] using alive

inductive WrapperLeaves (c : Config) (P P' : Phase) (w : Addr) : Head → Tag → Prop where
  | adopted {r i : Addr} (there : P'.scene.place w = .linked (.children i)) :
      WrapperLeaves c P P' w (.children r) .adopted
  | collected {r z : Addr} (freed : ¬ P'.scene.Live c w) : WrapperLeaves c P P' w (.children r) (.reaped z)
  | resumes {r q : Addr} : WrapperLeaves c P P' w (.children q) (.resumed r q)
  | reader {q p : Addr} (names : P.scene.store.pcb_ptr w = some p)
      (ready : P'.scene.place p = .linked .ready_list) : WrapperLeaves c P P' w (.waiting_to_read q) (.woken q)
  | writer {q p : Addr} (names : P.scene.store.pcb_ptr w = some p)
      (ready : P'.scene.place p = .linked .ready_list) (freed : ¬ P'.scene.Live c w) :
      WrapperLeaves c P P' w (.waiting_to_write q) .plain

theorem Move.wrapper_leaves (move : Move c tag P P') (inv : P.Coherent c) {h : Head} (kind : h.kind = .pcb_ptr)
    (owned : ∀ o, h.owner = some o → P.scene.Live c o) (linked : P.scene.place w = .linked h) :
    P'.scene.place w = .linked h ∨ WrapperLeaves c P P' w h tag := by
  have pool : w.pool = .pcb_ptr := (inv.sound.kind linked).trans kind
  have fresh {y : Addr} {p : Pool} (top : (P.scene.free p).head? = some y) : w ≠ y := inv.sound.ne_top top linked
  have apart {y : Addr} {h' : Head} (there : P.scene.place y = .linked h') (other : h'.kind ≠ .pcb_ptr) : w ≠ y := by
    rintro rfl
    exact other ((inv.sound.kind there).symm.trans pool)
  have idle {r : Addr} (runs : P.runner = some r) : w ≠ r := by
    rintro rfl
    cases (inv.processes.not_waiting runs).symm.trans linked
  have owner {o : Addr} {p : Pool} (top : (P.scene.free p).head? = some o) : h.owner ≠ some o := fun own =>
    (inv.sound.top top).2.2 (owned o own)
  -- the five moves that take a wrapper out of a list come first
  cases move with
  | @adopt k ru go r i e p first names init =>
    by_cases same : w = e
    · subst same
      cases (inv.sound.first first).symm.trans linked
      exact .inr (.adopted (i := i) (by simp [Scene.reparent]))
    · exact .inl (by simpa [Scene.reparent, same] using linked)
  | @reap k ru r e z result entry names zombie =>
    obtain ⟨⟨z', names', process, kind', -⟩, -⟩ := inv.tree.entry entry
    cases names.symm.trans names'
    by_cases same : w = e
    · subst same
      cases entry.symm.trans linked
      refine .inr (.collected fun alive => ?_)
      have freed : ((k.detach (.children r) w).release .pcb_ptr w).Live c w := by
        simpa [Scene.reap, Scene.live_release_of_ne, pool] using alive
      exact ((Scene.live_release pool).mp freed).1 rfl
    · have dead : w ≠ z := by
        rintro rfl
        cases kind'.symm.trans pool
      exact .inl (by simpa [Scene.reap, same, dead] using linked)
  | @resume k r q e zombie entry awaits =>
    have wrapper := entry_names inv (inv.sound.live zombie) (inv.sound.kind zombie) entry
    have blocked := AwaitsDeath.blocked inv awaits
    by_cases same : w = e
    · subst same
      cases wrapper.1.symm.trans linked
      exact .inr .resumes
    · exact .inl (by simpa [Scene.resumeParent, same, apart blocked.1 (by simp [Head.kind])] using linked)
  | @wakeReader k ru go q e p first names =>
    obtain ⟨wrapper, blocked⟩ := WaitsIn.read.waiter_blocked inv first names
    by_cases same : w = e
    · subst same
      cases wrapper.symm.trans linked
      exact .inr (.reader names (by simp [Scene.wakeWaiter]))
    · exact .inl (by simpa [Scene.wakeWaiter, same, apart blocked.1 (by simp [Head.kind])] using linked)
  | @wakeWriter k ru go q e p first names =>
    obtain ⟨wrapper, blocked⟩ := WaitsIn.write.waiter_blocked inv first names
    by_cases same : w = e
    · subst same
      cases wrapper.symm.trans linked
      refine .inr (.writer names (by simp [Scene.wakeWriter, Scene.wakeWaiter]) fun alive => ?_)
      exact ((Scene.live_release pool).mp alive).1 rfl
    · exact .inl (by simpa [Scene.wakeWriter, Scene.wakeWaiter, same, apart blocked.1 (by simp [Head.kind])] using linked)
  -- a new owner empties its lists, and none of them has a wrapper: the owner was not allocated
  | @fork k r p e pcb ptr | @spawn k r p e function argument pcb ptr =>
    have children : h ≠ .children p := by
      rintro rfl
      exact owner pcb rfl
    have descriptors : h ≠ .descriptors p := by
      rintro rfl
      cases kind
    exact .inl (by simpa [Scene.newChild, fresh pcb, fresh ptr, children, descriptors] using linked)
  | @restart k p pcb =>
    have children : h ≠ .children p := by
      rintro rfl
      exact owner pcb rfl
    have descriptors : h ≠ .descriptors p := by
      rintro rfl
      cases kind
    exact .inl (by simpa [Scene.restart, fresh pcb, children, descriptors] using linked)
  | @newResource k ru go y id type top =>
    have ptrs : h ≠ .descriptors_ptrs y := by
      rintro rfl
      cases kind
    exact .inl (by simpa [Scene.newResource, fresh top, ptrs] using linked)
  | @newQueue k ru go q id absent top =>
    have ptrs : h ≠ .descriptors_ptrs q ∧ h ≠ .messages q := by
      constructor <;>
        rintro rfl <;>
        cases kind
    have readers : h ≠ .waiting_to_read q := by
      rintro rfl
      exact owner top rfl
    have writers : h ≠ .waiting_to_write q := by
      rintro rfl
      exact owner top rfl
    exact .inl (by simpa [Scene.newQueue, fresh top, ptrs, readers, writers] using linked)
  -- the others detach no wrapper
  | user | enter | tick | answer | idle | leave | finishRead | finishWrite => exact .inl linked
  | block calls => exact .inl (by simpa [Scene.block, idle rfl] using linked)
  | doze wake calls top =>
    exact .inl (by simpa [Scene.startTimer, Scene.block, idle rfl, fresh top] using linked)
  | enqueue which ptr calls found reads writes =>
    exact .inl (by simpa [Scene.enqueue, Scene.block, idle rfl, fresh ptr] using linked)
  | dispatch ready | handOver ready =>
    exact .inl (by simpa [Scene.dispatch, apart (inv.sound.first ready) (by simp [Head.kind])] using linked)
  | wakeSleeper first due names after =>
    obtain ⟨p, names', blocked⟩ := inv.timers.owner (inv.sound.first first)
    cases names.symm.trans names'
    have timer := apart (inv.sound.first first) (by simp [Head.kind])
    have sleeper := apart blocked.1 (by simp [Head.kind])
    exact .inl (by simpa [Scene.wakeSleeper, timer, sleeper] using linked)
  | rotate ready =>
    exact .inl (by simpa [Scene.rotate, apart (inv.sound.first ready) (by simp [Head.kind]), idle rfl] using linked)
  | bury parent childless => exact .inl (by simpa [Scene.bury, idle rfl] using linked)
  | drop open_ of ptr =>
    have link := inv.descriptors.ptr_linked inv.sound open_ (inv.descriptors.of_open inv.sound open_ of) ptr
    have des := apart open_ (by simp [Head.kind])
    have pointer := apart link (by simp [Head.kind])
    exact .inl (by simpa [Scene.dropDescriptor, des, pointer] using linked)
  | vanish zombie => exact .inl (by simpa [Scene.vanish, apart zombie (by simp [Head.kind])] using linked)
  | openDescriptor runs des ptr of =>
    exact .inl (by simpa [Scene.openDescriptor, fresh des, fresh ptr] using linked)
  | destroyResource there unused | destroyQueue there unused =>
    exact .inl (by simpa [Scene.destroy, apart there (by simp [Head.kind])] using linked)
  | take there => exact .inl (by simpa [apart there (by simp [Head.kind])] using linked)
  | post write_buffer block fits => exact .inl (by simpa [Scene.post, fresh block] using linked)

theorem Move.wrapped (move : Move c tag P P') (inv : P.Coherent c) (unresumed : ∀ r q, tag ≠ .resumed r q)
    (unwoken : ∀ q, tag ≠ .woken q)
    (destroyed : ∀ q, tag = .destroyed q →
      P.scene.seq (.waiting_to_read q) = [] ∧ P.scene.seq (.waiting_to_write q) = [])
    (wrapped : P.scene.Wrapped c) : P'.scene.Wrapped c := by
  intro w alive pool
  have stays {h : Head} (kind : h.kind = .pcb_ptr) (owned : ∀ o, h.owner = some o → P.scene.Live c o)
      (linked : P.scene.place w = .linked h) :
      P'.scene.place w = .linked h ∨ ∃ i, P'.scene.place w = .linked (.children i) := by
    rcases move.wrapper_leaves inv kind owned linked with still | leaves
    · exact .inl still
    · cases leaves with
      | adopted there => exact .inr ⟨_, there⟩
      | collected freed => exact absurd alive freed
      | resumes => exact absurd rfl (unresumed _ _)
      | reader names ready => exact absurd rfl (unwoken _)
      | writer names ready freed => exact absurd alive freed
  rcases move.wrapper_born inv pool alive with before | child | ⟨q, waits, listed, rfl⟩
  · rcases wrapped w before pool with ⟨q, linked⟩ | ⟨q, waits, listed⟩
    · have owner := (inv.tree.entry linked).2.1
      rcases stays rfl (fun o own => by cases own; exact owner) linked with still | adopted
      · exact .inl ⟨q, still⟩
      · exact .inl adopted
    · have occupied : ¬ (P.scene.seq (.waiting_to_read q) = [] ∧ P.scene.seq (.waiting_to_write q) = []) := by
        rintro ⟨readers, writers⟩
        rcases waits with reads | writes
        · exact List.ne_nil_of_mem (inv.sound.mem_seq.mpr reads) readers
        · exact List.ne_nil_of_mem (inv.sound.mem_seq.mpr writes) writers
      -- a queue with somebody waiting is not destroyed, so the list stays one of a queue that exists
      have listed' := move.queue_stays inv (fun gone => occupied (destroyed q gone)) listed
      have owner := inv.sound.live listed
      rcases waits with reads | writes
      · rcases stays rfl (fun o own => by cases own; exact owner) reads with still | adopted
        · exact .inr ⟨q, .inl still, listed'⟩
        · exact .inl adopted
      · rcases stays rfl (fun o own => by cases own; exact owner) writes with still | adopted
        · exact .inr ⟨q, .inr still, listed'⟩
        · exact .inl adopted
  · exact .inl child
  · exact .inr ⟨q, waits, move.queue_stays inv nofun listed⟩

end

/-- No parent is resumed by a death, no reader is woken by a write, and no queue
is destroyed while a process waits on it. -/
def WrappersStay (c : Config) (m : Kernel) : Event → Prop
  | .syscall num args =>
      (num = DSOS_CALL_EXIT → ∀ r ∈ m.store.running, ∀ q ∈ (m.store.pcb r).parent,
        ¬ ((m.store.pcb q).status = .Waiting ∧ (m.store.pcb q).syscall_num = DSOS_CALL_WAIT ∧
          ((m.store.pcb q).syscall_args 0 = 0 ∨ (m.store.pcb q).syscall_args 0 = (m.store.pcb r).pid))) ∧
      ∀ q ∈ m.queue (int32 (args 0)),
        (num = DSOS_CALL_WRITE_MQ → int32 (args 2) ≤ c.MAX_LEN_MESSAGE → m.list (.waiting_to_read q) = []) ∧
        (num = DSOS_CALL_DESTROY_MQ → m.list (.descriptors_ptrs q) = [] →
          m.list (.waiting_to_read q) = [] ∧ m.list (.waiting_to_write q) = [])
  | _ => True

instance : ∀ c m e, Decidable (WrappersStay c m e)
  | _, m, .syscall num args => by
    unfold WrappersStay
    infer_instance
  | _, _, .user _ => inferInstanceAs (Decidable True)
  | _, _, .tick => inferInstanceAs (Decidable True)
  | _, _, .proceed => inferInstanceAs (Decidable True)

/-- Every wrapper that is allocated is in one list, of a process or of a queue. -/
def WrappersConserved (c : Config) (m : Kernel) : Prop :=
  ∀ w, m.Allocated c w → w.pool = .pcb_ptr → ∃ h, w ∈ m.list h ∧ (∀ h', w ∈ m.list h' → h' = h) ∧
    ((∃ q, h = .children q ∧ m.Allocated c q ∧ q.pool = .pcb) ∨
      ∃ q ∈ m.list .mq_list, h = .waiting_to_read q ∨ h = .waiting_to_write q)

section
variable {c : Config} {m : Kernel} {k k' : Scene} {e : Event}

theorem Does.resumes_nobody {j : Scene} {r q : Addr} (shows : Shows c m k) (stay : WrappersStay c m e)
    (does : Does c k e j (.resumed r q)) : False := by
  cases does with
  | resumes args j runs parent awaits =>
    refine stay.1 rfl r ?_ q ?_ ?_
    · rw [shows.store, runs]
      rfl
    · rw [shows.store, parent]
      rfl
    · rw [shows.store]
      exact awaits

theorem Does.wakes_nobody {j : Scene} {q : Addr} (shows : Shows c m k) (stay : WrappersStay c m e)
    (does : Does c k e j (.woken q)) : False := by
  cases does with
  | wakes args j runs fits found room block readers =>
    have none_waits := (stay.2 q (by rw [shows.queue, found]; rfl)).1 rfl fits
    rw [shows.list] at none_waits
    exact readers none_waits

theorem Does.destroys_unwaited {j : Scene} {q : Addr} (shows : Shows c m k) (stay : WrappersStay c m e)
    (does : Does c k e j (.destroyed q)) :
    j.seq (.waiting_to_read q) = [] ∧ j.seq (.waiting_to_write q) = [] := by
  cases does with
  | destroys args runs found closed =>
    have none_waits := (stay.2 q (by rw [shows.queue, found]; rfl)).2 rfl (by rw [shows.list, closed])
    rwa [shows.list, shows.list] at none_waits

theorem Reacts.wrapped (shows : Shows c m k) (inv : Coherent c k.store.running none k) (counted : Counted c k)
    (stay : WrappersStay c m e) (wrapped : k.Wrapped c) (reacts : Reacts c k e (.done () k')) : k'.Wrapped c := by
  refine ((reacts.chain inv counted).keeps (J := fun P => P.scene.Wrapped c) inv
    (fun does inv' move holds => move.wrapped inv' ?_ ?_ ?_ holds) wrapped).2
  · rintro r q rfl
    exact does.resumes_nobody shows stay
  · rintro q rfl
    exact does.wakes_nobody shows stay
  · rintro q rfl
    exact does.destroys_unwaited shows stay

end

theorem wrappers_conserved (c : Constants) {m : Kernel} (reach : ReachableWith c.toConfig (WrappersStay c.toConfig) m) :
    WrappersConserved c.toConfig m := by
  obtain ⟨k, shows, inv, -, wrapped⟩ := reach.shows (J := fun k => k.Wrapped c.toConfig)
    (fun fresh x alive pool => by cases (fresh.live x).mp alive; cases pool)
    fun shows inv counted stay wrapped reacts => reacts.wrapped shows inv counted stay wrapped
  intro w alive pool
  have one {h : Head} (linked : k.place w = .linked h) : w ∈ m.list h ∧ ∀ h', w ∈ m.list h' → h' = h := by
    refine ⟨shows.mem_list.mpr linked, fun h' there => ?_⟩
    cases (shows.mem_list.mp there).symm.trans linked
    rfl
  rcases wrapped w ((shows.allocated w).mp alive) pool with ⟨q, linked⟩ | ⟨q, waits, listed⟩
  · obtain ⟨-, owner, kind, -⟩ := inv.tree.entry linked
    exact ⟨_, (one linked).1, (one linked).2, .inl ⟨q, rfl, (shows.allocated q).mpr owner, kind⟩⟩
  · have there := shows.mem_list.mpr listed
    rcases waits with reads | writes
    · exact ⟨_, (one reads).1, (one reads).2, .inr ⟨q, there, .inl rfl⟩⟩
    · exact ⟨_, (one writes).1, (one writes).2, .inr ⟨q, there, .inr rfl⟩⟩

/-- A child waits for a message. -/
def child_waits : Observed (WrappersStay constants.toConfig) fun m =>
    m.list (.waiting_to_read (block .message_queue 0)) ≠ [] :=
  observe (WrappersStay constants.toConfig)
    [.syscall DSOS_CALL_OPEN_MQ (arguments [5, 1]), .syscall DSOS_CALL_SPAWN (arguments [1, 2]),
      .syscall DSOS_CALL_READ_MQ (arguments [5, 1000, 64])] (by decide +kernel)

theorem wrappers_conserved_reader : ∃ m, ReachableWith constants.toConfig (WrappersStay constants.toConfig) m ∧
    m.list (.waiting_to_read (block .message_queue 0)) ≠ [] ∧ WrappersConserved constants.toConfig m := by
  obtain ⟨m, reach, waits⟩ := child_waits
  exact ⟨m, reach, waits, wrappers_conserved constants reach⟩

/-- A child died while its parent waited, and nobody is in a list any more. -/
def wrapper_left : Observed always fun m =>
    (m.data.pools .pcb_ptr).size ≠ constants.num_items .pcb_ptr ∧ m.list .mq_list = [] ∧
      (m.data.pools .pcb).size + 1 = constants.num_items .pcb ∧ m.store.running = some (block .pcb 0) ∧
      m.list (.children (block .pcb 0)) = [] :=
  observe always
    [.syscall DSOS_CALL_SPAWN (arguments [1, 2]), .syscall DSOS_CALL_WAIT (arguments [0, 0]),
      .syscall DSOS_CALL_EXIT (arguments [7])] (by decide +kernel)

/-- The wrapper of the child is in no list. -/
theorem wrapper_lost : ¬ ∀ m, Reachable constants.toConfig m → WrappersConserved constants.toConfig m := by
  intro every
  obtain ⟨m, reach, missing, queueless, alone, runs, childless⟩ := wrapper_left
  obtain ⟨k, shows, inv, -⟩ := reach.reachable.shows
  have wrappers := shows.ncard_add_size .pcb_ptr
  have processes := shows.ncard_add_size .pcb
  rw [shows.ncard] at wrappers processes
  obtain ⟨w, member⟩ : (k.outstanding constants.toConfig .pcb_ptr).Nonempty := by
    rw [← Finset.card_pos]
    omega
  obtain ⟨alive, pool⟩ := Scene.mem_outstanding.mp member
  obtain ⟨h, there, -, ⟨q, rfl, owner, kind⟩ | ⟨q, listed, -⟩⟩ :=
    every m reach.reachable w ((shows.allocated w).mpr alive) pool
  · have only : (k.outstanding constants.toConfig .pcb).card = 1 := by omega
    obtain ⟨p, single⟩ := Finset.card_eq_one.mp only
    have running : block .pcb 0 ∈ k.outstanding constants.toConfig .pcb := by
      rw [shows.store] at runs
      exact Scene.mem_outstanding.mpr (inv.processes.runs runs)
    have parent : q ∈ k.outstanding constants.toConfig .pcb :=
      Scene.mem_outstanding.mpr ⟨(shows.allocated q).mp owner, kind⟩
    rw [single, Finset.mem_singleton] at running parent
    rw [parent, ← running, childless] at there
    cases there
  · rw [queueless] at listed
    cases listed

end DisastrOS
