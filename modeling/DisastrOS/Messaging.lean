import DisastrOS.Sharing

/-! The code that reads and writes messages has the outcomes that `Read` and `Write` list. -/

set_option autoImplicit false

namespace DisastrOS

open Refinement
open Relation (ReflTransGen)

section
variable {c : Config} {fuel : Nat} {k : Scene} {r : Addr} {runner gone : Pointer}

theorem suspend_meets {waiting : Addr → Head} {num : Int} {mq : Pointer}
    (inv : Coherent c (some r) none k) (which : WaitsIn waiting num) :
    k.Meets c fuel (suspend r mq waiting) (Suspend r mq waiting k) := by
  have sound := inv.sound
  obtain ⟨alive, pool⟩ := inv.processes.runs rfl
  have unlinked := inv.processes.not_waiting rfl
  cases ptr : (k.free .pcb_ptr).head? with
  | none =>
    simp [Scene.Meets, suspend, PCBPtr_alloc, ptr, sound]
    exact ⟨⟨alive, pool, unlinked⟩, fun _ _ => .noPtr (List.head?_eq_none_iff.mp ptr)⟩
  | some w =>
    have fresh := sound.top ptr
    have other : w ≠ r := by
      rintro rfl
      cases pool.symm.trans fresh.1
    -- the wrapper is taken before the queue is looked at
    cases mq with
    | none =>
      simp [Scene.Meets, suspend, PCBPtr_alloc, ptr, sound, other, fresh.2.1]
      exact ⟨⟨alive, pool, unlinked⟩, fun _ _ => .noQueue ptr rfl⟩
    | some q =>
      have live := (Scene.live_alloc sound ptr).mpr (.inl rfl)
      have kind := which.kind q
      have elsewhere : Head.ready_list ≠ waiting q := by cases which <;> simp
      cases ready : (k.seq .ready_list).head? with
      | none =>
        have idle : k.seq .ready_list = [] := List.head?_eq_none_iff.mp ready
        simp [Scene.Meets, suspend, PCBPtr_alloc, ptr, sound, other, fresh.2.1, run_next, elsewhere, idle]
        exact ⟨⟨alive, pool, unlinked⟩, fun _ _ => ⟨⟨live, fresh.1.trans kind.symm⟩, fun _ =>
          .stuck ptr rfl idle⟩⟩
      | some n =>
        have linked := sound.first ready
        have awake : n ≠ r := by
          rintro rfl
          cases unlinked.symm.trans linked
        have differs : n ≠ w := by
          rintro rfl
          cases fresh.2.1.symm.trans linked
        simp [Scene.Meets, suspend, PCBPtr_alloc, ptr, sound, other, fresh.2.1, run_next, elsewhere, ready,
          awake, differs]
        exact ⟨⟨alive, pool, unlinked⟩, fun _ _ => ⟨⟨live, fresh.1.trans kind.symm⟩, fun _ =>
          ⟨linked, fun _ => .suspended ptr rfl ready⟩⟩⟩

@[simp] theorem Scene.wp_user {Q : Unit → Scene → Prop} {E : Option Stop → Prop}
    {address length : Int} : k.wp c fuel (user address length) Q E ↔
      if 0 < length ∧ address = 0 then k.Sound c → E (some .nullUser) else k.Sound c → Q () k := by
  unfold user
  split <;> simp

theorem wp_wake_waiter {waiting : Addr → Head} {num : Int} {q : Addr} {finish : Addr → Code Unit}
    {Q : Unit ⊕ Unit → Scene → Prop} {E : Option Stop → Prop} (inv : Coherent c runner gone k)
    (which : WaitsIn waiting num) (last : k.seq (waiting q) = [] → Q (.inr ()) k)
    (round : ∀ w p, (k.seq (waiting q)).head? = some w → k.store.pcb_ptr w = some p →
      (k.wakeWaiter (waiting q) w p).wp c fuel (finish w) (fun _ k' => Q (.inl ()) k') E) :
    k.wp c fuel (wake_waiter (waiting q) finish) Q E := by
  cases first : (k.seq (waiting q)).head? with
  | none =>
    have empty : k.seq (waiting q) = [] := List.head?_eq_none_iff.mp first
    simpa [wake_waiter, empty] using fun _ => last empty
  | some w =>
    have sound := inv.sound
    have linked := sound.first first
    have busy : 0 < (k.seq (waiting q)).length := List.length_pos_of_mem (List.mem_of_mem_head? first)
    obtain ⟨p, names, blocked, -⟩ := which.waiter inv linked
    have other : p ≠ w := by
      rintro rfl
      rw [blocked.1, Place.linked.injEq] at linked
      cases which <;> cases linked
    have woken := round w p first names
    simp [wake_waiter, busy, first, names, sound, other]
    have pool : p.pool = .pcb := sound.kind blocked.1
    refine ⟨linked, fun _ => ⟨blocked.1, fun _ => ⟨⟨sound.live blocked.1, pool⟩, ?_⟩⟩⟩
    exact Scene.wp_mono woken (fun _ _ _ holds _ => holds) fun _ => id

theorem length_wakeWaiter {waiting : Addr → Head} {num : Int} {q w p : Addr}
    (which : WaitsIn waiting num) (first : (k.seq (waiting q)).head? = some w) :
    ((k.wakeWaiter (waiting q) w p).seq (waiting q)).length < (k.seq (waiting q)).length := by
  have member := List.mem_of_mem_head? first
  have shrinks := List.length_erase_of_mem member
  have nonempty := List.length_pos_of_mem member
  have elsewhere : waiting q ≠ .ready_list ∧ waiting q ≠ .waiting_list := by cases which <;> simp
  simp [Scene.wakeWaiter, elsewhere, shrinks]
  omega

theorem wp_wake_readers {q : Addr} {Q : Unit → Scene → Prop} {E : Option Stop → Prop}
    (inv : Coherent c runner gone k) (enough : (blocks c).card < fuel)
    (post : ∀ k', Coherent c runner gone k' → WakeReaders q k k' →
      k'.store.running = k.store.running → Q () k') :
    k.wp c fuel (.iterate (fun _ => wake_reader q) ()) Q E := by
  refine Scene.wp_iterate (fun n _ k' => ReflTransGen (WakeReaderRound q) k k' ∧
      Coherent c runner gone k' ∧ (k'.seq (.waiting_to_read q)).length = n ∧
      k'.store.running = k.store.running) ?_
    (lt_of_le_of_lt (inv.sound.length_seq_le (.waiting_to_read q)) enough) () ⟨.refl, inv, rfl, rfl⟩
  rintro n _ k' ⟨woken, inv', rfl, running⟩
  refine wp_wake_waiter inv' .read (fun empty => post k' inv' ⟨woken, empty⟩ running)
    fun w p first names => ?_
  simpa using fun _ => ⟨length_wakeWaiter .read first, woken.tail (.wake first names),
    (Move.wakeReader first names).coherent inv', running⟩

theorem wp_wake_writers {q : Addr} {Q : Unit → Scene → Prop} {E : Option Stop → Prop}
    (inv : Coherent c runner gone k) (enough : (blocks c).card < fuel)
    (post : ∀ k', Coherent c runner gone k' → WakeWriters q k k' →
      k'.store.running = k.store.running → k'.store.message = k.store.message → Q () k') :
    k.wp c fuel (.iterate (fun _ => wake_writer q) ()) Q E := by
  refine Scene.wp_iterate (fun n _ k' => ReflTransGen (WakeWriterRound q) k k' ∧
      Coherent c runner gone k' ∧ (k'.seq (.waiting_to_write q)).length = n ∧
      k'.store.running = k.store.running ∧ k'.store.message = k.store.message) ?_
    (lt_of_le_of_lt (inv.sound.length_seq_le (.waiting_to_write q)) enough) ()
    ⟨.refl, inv, rfl, rfl, rfl⟩
  rintro n _ k' ⟨woken, inv', rfl, running, messages⟩
  refine wp_wake_waiter inv' .write (fun empty => post k' inv' ⟨woken, empty⟩ running messages)
    fun w p first names => ?_
  obtain ⟨linked, blocked⟩ := WaitsIn.write.waiter_blocked inv' first names
  have other : w ≠ p := by
    rintro rfl
    cases linked.symm.trans blocked.1
  have code : ¬ PoolAllocatorResult.Success.code < 0 := by decide
  have unlinked : (k'.wakeWaiter (.waiting_to_write q) w p).place w = .unlinked := by
    simp [Scene.wakeWaiter, other]
  simp [PCBPtr_free, unlinked, code]
  exact fun _ => ⟨⟨inv'.sound.live linked, inv'.sound.kind linked⟩, fun _ =>
    ⟨length_wakeWaiter .write first, woken.tail (.wake first names),
      (Move.wakeWriter first names).coherent inv', running, messages⟩⟩

theorem internal_MessageQueue_read_meets (inv : Coherent c (some r) none k)
    (runs : k.store.running = some r) (enough : (blocks c).card < fuel) :
    k.Meets c fuel internal_MessageQueue_read (Read r k) := by
  have sound := inv.sound
  simp [Scene.Meets, internal_MessageQueue_read, Scene.wp_self runs, Scene.wp_syscall_arg runs, sound]
  apply wp_MessageQueueList_byId enough
  intro _
  -- an unknown queue and an empty one end in the same suspension
  have waits (empty : ∀ q, k.queue (k.intArg r 0) = some q → k.seq (.messages q) = []) :
      k.Meets c fuel (suspend r (k.queue (k.intArg r 0)) .waiting_to_read) (Read r k) :=
    (suspend_meets inv .read).mono fun _ => .waits empty
  cases found : k.queue (int32 (k.arg r 0)) with
  | none =>
    have there : k.queue (k.intArg r 0) = none := found
    simp only [there] at waits
    simp
    exact waits (by simp)
  | some q =>
    have there : k.queue (k.intArg r 0) = some q := found
    cases first : (k.seq (.messages q)).head? with
    | none =>
      have empty : k.seq (.messages q) = [] := List.head?_eq_none_iff.mp first
      simp only [there] at waits
      simp [first]
      exact waits (by simpa using empty)
    | some m =>
      have linked := sound.first first
      by_cases fits : (k.store.message m).length ≤ k.intArg r 2
      -- the message leaves its list before the buffer is tested
      · have taken := inv.moved (.take linked)
        simp [first, sound, show ¬ (k.store.message m).length > int32 (k.arg r 2) from not_lt.mpr fits]
        refine ⟨linked, wp_wake_writers taken enough fun k' inv' wakes running messages => ?_⟩
        have running' : k'.store.running = some r := running.trans runs
        have same : k'.store.message m = k.store.message m := congrFun messages m
        by_cases null : 0 < (k.store.message m).length ∧ k.arg r 1 = 0
        · simp [wakes.2, same, null]
          exact fun _ => .nullUser found first fits wakes null
        · have ends := Read.takes found first fits wakes null
          simp [wakes.2, same, null, Scene.wp_setRetvalue, running']
          intro _
          convert ends using 2
          simp [Scene.finishRead, Scene.answer, Scene.update, Scene.setPCB, same]
          rfl
      · have short : int32 (k.arg r 2) < (k.store.message m).length := not_le.mp fits
        simp [first, sound, short, Scene.wp_setRetvalue runs]
        exact .short found first short

theorem internal_MessageQueue_write_meets (inv : Coherent c (some r) none k)
    (runs : k.store.running = some r) (enough : (blocks c).card < fuel) :
    k.Meets c fuel (internal_MessageQueue_write c) (Write c r k) := by
  have sound := inv.sound
  simp [Scene.Meets, internal_MessageQueue_write, Scene.wp_self runs, Scene.wp_syscall_arg runs, sound]
  by_cases fits : k.intArg r 2 ≤ c.MAX_LEN_MESSAGE
  · refine (if_neg (not_lt.mpr fits)).mpr (wp_MessageQueueList_byId enough fun _ => ?_)
    cases found : k.queue (int32 (k.arg r 0)) with
    | none =>
      simp [Scene.wp_setRetvalue runs, sound]
      exact .unknown fits found
    | some q =>
      by_cases full : (k.store.mq q).num_written = c.MAX_NUM_MESSAGES
      · simp [full]
        exact (suspend_meets inv .write).mono fun _ => .waits fits found full
      · cases top : (k.free .message).head? with
        | none =>
          have spent : k.free .message = [] := List.head?_eq_none_iff.mp top
          simp [full, Message_alloc, top, sound]
          exact .noBlock fits found full spent
        | some m =>
          have fresh := sound.top top
          by_cases null : 0 < int32 (k.arg r 2) ∧ k.arg r 1 = 0
          · simp [full, Message_alloc, top, sound, null, fresh.2.1]
            exact .nullUser fits found full top null
          · have live := (Scene.live_alloc sound top).mpr (.inl rfl)
            have posted := inv.moved (.post (q := q) (k.arg r 1) top fits)
            -- the code fills the message in two steps, the scene posts it in one
            have filled : k.post q m (k.arg r 1) (k.intArg r 2) =
                (((k.alloc .message).update fun s => s.setMessage m fun u =>
                  { u with length := int32 (k.arg r 2) }).update fun s => s.setMessage m fun u =>
                  { u with
                    message := copyIn s.memory (k.arg r 1) u.message
                      (int32 (k.arg r 2)).toNat }).append (.messages q) m := by
              simp [Scene.post, Scene.update, Scene.intArg, Store.setMessage]
            simp [full, Message_alloc, top, sound, null, fresh.2.1, ← filled]
            refine ⟨⟨live, fresh.1⟩, wp_wake_readers posted enough fun k' inv' wakes running => ?_⟩
            have running' : k'.store.running = some r := running.trans runs
            simp [Scene.wp_setRetvalue, running']
            exact fun _ => .writes fits found full top null wakes
  · have long : (c.MAX_LEN_MESSAGE : Int) < int32 (k.arg r 2) := not_le.mp fits
    simp [long, Scene.wp_setRetvalue runs, sound]
    exact .tooLong long

end

end DisastrOS
