import DisastrOS.Trials

/-! What any move may do to the place of a block.

A block leaves a list for one of few reasons, and joins one for as few. What an
invariant of the lists needs of a move is read off these reasons.
-/

set_option autoImplicit false

namespace DisastrOS

open Refinement

/-- The block whose list this is. -/
def Head.owner : Head → Pointer
  | .children x | .descriptors x | .descriptors_ptrs x | .messages x | .waiting_to_read x
  | .waiting_to_write x => some x
  | _ => none

/-- How the wait of `p` ends, and the move that ends it. -/
inductive Wakeup (k : Scene) (p : Addr) : Tag → Prop where
  | timer {t : Addr} (first : (k.seq .timer_list).head? = some t)
      (due : (k.store.timer_item t).awakening_time ≤ k.store.disastrOS_time)
      (owner : (k.store.timer_item t).pcb = some p) : Wakeup k p .elapsed
  | message {q w : Addr} (first : (k.seq (.waiting_to_read q)).head? = some w)
      (names : k.store.pcb_ptr w = some p) : Wakeup k p (.woken q)
  | room {q w : Addr} (first : (k.seq (.waiting_to_write q)).head? = some w)
      (names : k.store.pcb_ptr w = some p) : Wakeup k p .plain
  | child {r e : Addr} (zombie : k.place r = .linked .zombie_list)
      (entry : k.entry p (k.store.pcb r).pid = some e) (awaits : k.AwaitsDeath p (k.store.pcb r).pid) :
      Wakeup k p (.resumed r p)

inductive Leaves (c : Config) (k : Scene) (x : Addr) : Head → Tag → Prop where
  | runs (first : (k.seq .ready_list).head? = some x) : Leaves c k x .ready_list .plain
  | handed (first : (k.seq .ready_list).head? = some x) : Leaves c k x .ready_list .handed
  | wakes {tag : Tag} (wakeup : Wakeup k x tag) : Leaves c k x .waiting_list tag
  | reaped : Leaves c k x .zombie_list (.reaped x)
  | vanishes : Leaves c k x .zombie_list .plain
  | elapsed (first : (k.seq .timer_list).head? = some x)
      (due : (k.store.timer_item x).awakening_time ≤ k.store.disastrOS_time) :
      Leaves c k x .timer_list .elapsed
  | collected {r z : Addr} (names : k.store.pcb_ptr x = some z) (zombie : k.status z = .Zombie) :
      Leaves c k x (.children r) (.reaped z)
  | adopted {r : Addr} : Leaves c k x (.children r) .adopted
  | resumes {r q : Addr} (names : k.store.pcb_ptr x = some r)
      (awaits : k.AwaitsDeath q (k.store.pcb r).pid) : Leaves c k x (.children q) (.resumed r q)
  | closed {r : Addr} : Leaves c k x (.descriptors r) .plain
  | unlinked {o : Addr} : Leaves c k x (.descriptors_ptrs o) .plain
  | resource (unused : k.seq (.descriptors_ptrs x) = []) : Leaves c k x .resources_list .plain
  | queue (unused : k.seq (.descriptors_ptrs x) = []) : Leaves c k x .mq_list (.destroyed x)
  | reader {q : Addr} (first : (k.seq (.waiting_to_read q)).head? = some x) :
      Leaves c k x (.waiting_to_read q) (.woken q)
  | writer {q : Addr} (first : (k.seq (.waiting_to_write q)).head? = some x) :
      Leaves c k x (.waiting_to_write q) .plain
  | taken {q : Addr} : Leaves c k x (.messages q) (.taken q x)
  | lost {tag : Tag} {h : Head} {o : Addr} (owner : h.owner = some o) (dead : ¬ k.Live c o) :
      Leaves c k x h tag

inductive Joins (k : Scene) (runner : Pointer) (x : Addr) : Head → Tag → Prop where
  | rests (runs : runner = some x) : Joins k runner x .ready_list .plain
  | wakes {tag : Tag} (wakeup : Wakeup k x tag) : Joins k runner x .ready_list tag
  | born {tag : Tag} (top : (k.free .pcb).head? = some x) : Joins k runner x .ready_list tag
  | waits (runs : runner = some x) : Joins k runner x .waiting_list (.waits x)
  | blocks (runs : runner = some x) (calls : (k.store.pcb x).syscall_num ≠ DSOS_CALL_WAIT) :
      Joins k runner x .waiting_list .plain
  | dies {q : Addr} (runs : runner = some x) (parent : (k.store.pcb x).parent = some q)
      (childless : k.seq (.children x) = []) : Joins k runner x .zombie_list (.buried x q)
  | child {tag : Tag} {r p : Addr} (runs : runner = some r) (pcb : (k.free .pcb).head? = some p)
      (top : (k.free .pcb_ptr).head? = some x) : Joins k runner x (.children r) tag
  | adopted {r i p : Addr} (first : (k.seq (.children r)).head? = some x)
      (names : k.store.pcb_ptr x = some p) (init : k.store.init_pcb = some i) :
      Joins k runner x (.children i) .adopted
  | timer (top : (k.free .timer_item).head? = some x) : Joins k runner x .timer_list .plain
  | descriptor {r : Addr} (runs : runner = some r) (top : (k.free .descriptor).head? = some x) :
      Joins k runner x (.descriptors r) .plain
  | pointer {o : Addr} (top : (k.free .descriptor_ptr).head? = some x) :
      Joins k runner x (.descriptors_ptrs o) .plain
  | resource (top : (k.free .resource).head? = some x) : Joins k runner x .resources_list .plain
  | queue (top : (k.free .message_queue).head? = some x) : Joins k runner x .mq_list .plain
  | reader {q r : Addr} (runs : runner = some r) (calls : (k.store.pcb r).syscall_num = DSOS_CALL_READ_MQ)
      (found : k.queue (k.intArg r 0) = some q) (top : (k.free .pcb_ptr).head? = some x) :
      Joins k runner x (.waiting_to_read q) .plain
  | writer {q r : Addr} (runs : runner = some r) (calls : (k.store.pcb r).syscall_num = DSOS_CALL_WRITE_MQ)
      (found : k.queue (k.intArg r 0) = some q) (top : (k.free .pcb_ptr).head? = some x) :
      Joins k runner x (.waiting_to_write q) .plain
  | posted {q : Addr} (top : (k.free .message).head? = some x) :
      Joins k runner x (.messages q) (.posted q x)

section
variable {c : Config} {tag : Tag} {P P' : Phase}

theorem Move.leaves (move : Move c tag P P') (inv : P.Coherent c) {x : Addr} {h : Head}
    (linked : P.scene.place x = .linked h) :
    Leaves c P.scene x h tag ∨ P'.scene.place x = .linked h := by
  have elsewhere {y : Addr} (there : P.scene.place y ≠ .linked h) : x ≠ y := by
    rintro rfl
    exact there linked
  have fresh {y : Addr} {o : Pool} (top : (P.scene.free o).head? = some y) : x ≠ y :=
    elsewhere (by simp [(inv.sound.top top).2.1])
  have idle {r : Addr} (runs : P.runner = some r) : x ≠ r :=
    elsewhere (by simp [inv.processes.not_waiting runs])
  -- a block that a move does not name stays where it is; only the ones it names are looked at
  cases move with
  | user | enter | tick | answer | idle | leave | finishRead | finishWrite => exact .inr linked
  | @restart k p pcb =>
    by_cases owned : h.owner = some p
    · exact .inl (.lost owned (inv.sound.top pcb).2.2)
    · refine .inr ?_
      have children : h ≠ .children p := by rintro rfl; exact owned rfl
      have descriptors : h ≠ .descriptors p := by rintro rfl; exact owned rfl
      simpa [Scene.restart, fresh pcb, children, descriptors] using linked
  | block calls => exact .inr (by simpa [Scene.block, idle rfl] using linked)
  | doze wake calls top =>
    exact .inr (by simpa [Scene.startTimer, Scene.block, idle rfl, fresh top] using linked)
  | enqueue which ptr calls found reads writes =>
    exact .inr (by simpa [Scene.enqueue, Scene.block, idle rfl, fresh ptr] using linked)
  | @dispatch k go n ready =>
    by_cases same : x = n
    · subst same
      cases (inv.sound.first ready).symm.trans linked
      exact .inl (.runs ready)
    · exact .inr (by simpa [Scene.dispatch, same] using linked)
  | @handOver k go n ready =>
    by_cases same : x = n
    · subst same
      cases (inv.sound.first ready).symm.trans linked
      exact .inl (.handed ready)
    · exact .inr (by simpa [Scene.dispatch, same] using linked)
  | @wakeSleeper k ru go prev t p first due owner after =>
    have timer := inv.sound.first first
    obtain ⟨p', names, blocked⟩ := inv.timers.owner timer
    cases owner.symm.trans names
    by_cases same : x = t
    · subst same
      cases timer.symm.trans linked
      exact .inl (.elapsed first due)
    by_cases woken : x = p
    · subst woken
      cases blocked.1.symm.trans linked
      exact .inl (.wakes (.timer first due owner))
    · exact .inr (by simpa [Scene.wakeSleeper, same, woken] using linked)
  | @rotate k go r n ready =>
    by_cases same : x = n
    · subst same
      cases (inv.sound.first ready).symm.trans linked
      exact .inl (.runs ready)
    · exact .inr (by simpa [Scene.rotate, same, idle rfl] using linked)
  | @fork k r p e pcb ptr | @spawn k r p e function argument pcb ptr =>
    by_cases owned : h.owner = some p
    · exact .inl (.lost owned (inv.sound.top pcb).2.2)
    · -- the block of the child may have headed lists before, and these are emptied
      refine .inr ?_
      have children : h ≠ .children p := by rintro rfl; exact owned rfl
      have descriptors : h ≠ .descriptors p := by rintro rfl; exact owned rfl
      simpa [Scene.newChild, fresh pcb, fresh ptr, children, descriptors] using linked
  | @reap k ru r e z result entry names zombie =>
    obtain ⟨⟨z', names', alive, pool, -⟩, -⟩ := inv.tree.entry entry
    cases names.symm.trans names'
    have dead := inv.processes.zombie alive pool zombie
    by_cases same : x = e
    · subst same
      cases entry.symm.trans linked
      exact .inl (.collected names zombie)
    by_cases gone : x = z
    · subst gone
      cases dead.symm.trans linked
      exact .inl .reaped
    · exact .inr (by simpa [Scene.reap, same, gone] using linked)
  | @adopt k ru go r i e p first names init =>
    by_cases same : x = e
    · subst same
      cases (inv.sound.first first).symm.trans linked
      exact .inl .adopted
    · exact .inr (by simpa [Scene.reparent, same] using linked)
  | bury parent childless => exact .inr (by simpa [Scene.bury, idle rfl] using linked)
  | @resume k r q e zombie entry awaits =>
    have wrapper := entry_names inv (inv.sound.live zombie) (inv.sound.kind zombie) entry
    have blocked := AwaitsDeath.blocked inv awaits
    by_cases same : x = q
    · subst same
      cases blocked.1.symm.trans linked
      exact .inl (.wakes (.child zombie entry awaits))
    by_cases left : x = e
    · subst left
      cases wrapper.1.symm.trans linked
      exact .inl (.resumes wrapper.2 awaits)
    · exact .inr (by simpa [Scene.resumeParent, same, left] using linked)
  | @drop k ru go r d o e open_ of ptr =>
    have link := inv.descriptors.ptr_linked inv.sound open_
      (inv.descriptors.of_open inv.sound open_ of) ptr
    by_cases same : x = d
    · subst same
      cases open_.symm.trans linked
      exact .inl .closed
    by_cases other : x = e
    · subst other
      cases link.symm.trans linked
      exact .inl .unlinked
    · exact .inr (by simpa [Scene.dropDescriptor, same, other] using linked)
  | @vanish k r q zombie =>
    by_cases same : x = r
    · subst same
      cases zombie.symm.trans linked
      exact .inl .vanishes
    · exact .inr (by simpa [Scene.vanish, same] using linked)
  | @newResource k ru go y id type top =>
    by_cases owned : h.owner = some y
    · exact .inl (.lost owned (inv.sound.top top).2.2)
    · refine .inr ?_
      have ptrs : h ≠ .descriptors_ptrs y := by rintro rfl; exact owned rfl
      simpa [Scene.newResource, fresh top, ptrs] using linked
  | @newQueue k ru go q id absent top =>
    by_cases owned : h.owner = some q
    · exact .inl (.lost owned (inv.sound.top top).2.2)
    · refine .inr ?_
      have ptrs : h ≠ .descriptors_ptrs q := by rintro rfl; exact owned rfl
      have messages : h ≠ .messages q := by rintro rfl; exact owned rfl
      have readers : h ≠ .waiting_to_read q := by rintro rfl; exact owned rfl
      have writers : h ≠ .waiting_to_write q := by rintro rfl; exact owned rfl
      simpa [Scene.newQueue, fresh top, ptrs, messages, readers, writers] using linked
  | openDescriptor runs des ptr of =>
    exact .inr (by simpa [Scene.openDescriptor, fresh des, fresh ptr] using linked)
  | @destroyResource k ru go r y there unused =>
    by_cases same : x = y
    · subst same
      cases there.symm.trans linked
      exact .inl (.resource unused)
    · exact .inr (by simpa [Scene.destroy, same] using linked)
  | @destroyQueue k ru go r y there unused =>
    by_cases same : x = y
    · subst same
      cases there.symm.trans linked
      exact .inl (.queue unused)
    · exact .inr (by simpa [Scene.destroy, same] using linked)
  | @wakeReader k ru go q w p first names =>
    obtain ⟨wrapper, blocked⟩ := WaitsIn.read.waiter_blocked inv first names
    by_cases same : x = w
    · subst same
      cases wrapper.symm.trans linked
      exact .inl (.reader first)
    by_cases woken : x = p
    · subst woken
      cases blocked.1.symm.trans linked
      exact .inl (.wakes (.message first names))
    · exact .inr (by simpa [Scene.wakeWaiter, same, woken] using linked)
  | @wakeWriter k ru go q w p first names =>
    obtain ⟨wrapper, blocked⟩ := WaitsIn.write.waiter_blocked inv first names
    by_cases same : x = w
    · subst same
      cases wrapper.symm.trans linked
      exact .inl (.writer first)
    by_cases woken : x = p
    · subst woken
      cases blocked.1.symm.trans linked
      exact .inl (.wakes (.room first names))
    · exact .inr (by simpa [Scene.wakeWriter, Scene.wakeWaiter, same, woken] using linked)
  | @take k ru go q m there =>
    by_cases same : x = m
    · subst same
      cases there.symm.trans linked
      exact .inl .taken
    · exact .inr (by simpa [same] using linked)
  | post write_buffer block fits => exact .inr (by simpa [Scene.post, fresh block] using linked)

/-- A block is in a list because it was there before, or for one of the reasons to join it. -/
theorem Move.joins (move : Move c tag P P') (inv : P.Coherent c) {x : Addr} {h : Head}
    (linked : P'.scene.place x = .linked h) :
    P.scene.place x = .linked h ∨ Joins P.scene P.runner x h tag := by
  -- the same the other way: who is in a list afterwards was put there, or was there before
  cases move with
  | user | enter | tick | answer | idle | leave | finishRead | finishWrite => exact .inl linked
  | restart pcb =>
    simp [Scene.restart] at linked
    exact .inl linked.2.2
  | @block k go r calls =>
    by_cases same : x = r
    · subst same
      simp [Scene.block] at linked
      subst linked
      exact .inr (.waits rfl)
    · exact .inl (by simpa [Scene.block, same] using linked)
  | @doze k go r t wake calls top =>
    by_cases same : x = r
    · subst same
      simp [Scene.block, Scene.startTimer] at linked
      subst linked
      exact .inr (.blocks rfl (by rw [calls]; decide))
    by_cases timer : x = t
    · subst timer
      simp [Scene.block, Scene.startTimer, same] at linked
      subst linked
      exact .inr (.timer top)
    · exact .inl (by simpa [Scene.block, Scene.startTimer, same, timer] using linked)
  | @enqueue k go r w q waiting num which ptr calls found reads writes =>
    by_cases wrapper : x = w
    · subst wrapper
      simp [Scene.enqueue] at linked
      subst linked
      cases which with
      | read => exact .inr (.reader rfl calls found ptr)
      | write => exact .inr (.writer rfl calls found ptr)
    by_cases same : x = r
    · subst same
      simp [Scene.enqueue, Scene.block, wrapper] at linked
      subst linked
      exact .inr (.blocks rfl (by rw [calls]; cases which <;> decide))
    · exact .inl (by simpa [Scene.enqueue, Scene.block, same, wrapper] using linked)
  | @dispatch k go n ready | @handOver k go n ready =>
    by_cases same : x = n
    · simp [Scene.dispatch, same] at linked
    · exact .inl (by simpa [Scene.dispatch, same] using linked)
  | @wakeSleeper k ru go prev t p first due owner after =>
    by_cases timer : x = t
    · simp [Scene.wakeSleeper, timer] at linked
    by_cases same : x = p
    · subst same
      simp [Scene.wakeSleeper, timer] at linked
      subst linked
      exact .inr (.wakes (.timer first due owner))
    · exact .inl (by simpa [Scene.wakeSleeper, same, timer] using linked)
  | @rotate k go r n ready =>
    by_cases same : x = r
    · subst same
      simp [Scene.rotate] at linked
      subst linked
      exact .inr (.rests rfl)
    by_cases next : x = n
    · subst next
      simp [Scene.rotate, same] at linked
    · exact .inl (by simpa [Scene.rotate, same, next] using linked)
  | @fork k r p e pcb ptr | @spawn k r p e function argument pcb ptr =>
    by_cases same : x = p
    · subst same
      simp [Scene.newChild] at linked
      subst linked
      exact .inr (.born pcb)
    by_cases wrapper : x = e
    · subst wrapper
      simp [Scene.newChild, same] at linked
      subst linked
      exact .inr (.child rfl pcb ptr)
    · simp [Scene.newChild, same, wrapper] at linked
      exact .inl linked.2.2
  | @reap k ru r e z result entry names zombie =>
    by_cases same : x = z
    · simp [Scene.reap, same] at linked
    by_cases wrapper : x = e
    · subst wrapper
      simp [Scene.reap, same] at linked
    · exact .inl (by simpa [Scene.reap, same, wrapper] using linked)
  | @adopt k ru go r i e p first names init =>
    by_cases same : x = e
    · subst same
      simp [Scene.reparent] at linked
      subst linked
      exact .inr (.adopted first names init)
    · exact .inl (by simpa [Scene.reparent, same] using linked)
  | @bury k go r q parent childless =>
    by_cases same : x = r
    · subst same
      simp [Scene.bury] at linked
      subst linked
      exact .inr (.dies rfl parent childless)
    · exact .inl (by simpa [Scene.bury, same] using linked)
  | @resume k r q e zombie entry awaits =>
    by_cases wrapper : x = e
    · simp [Scene.resumeParent, wrapper] at linked
    by_cases same : x = q
    · subst same
      simp [Scene.resumeParent, wrapper] at linked
    · exact .inl (by simpa [Scene.resumeParent, same, wrapper] using linked)
  | @drop k ru go r d o e open_ of ptr =>
    by_cases pointer : x = e
    · simp [Scene.dropDescriptor, pointer] at linked
    by_cases same : x = d
    · subst same
      simp [Scene.dropDescriptor, pointer] at linked
    · exact .inl (by simpa [Scene.dropDescriptor, pointer, same] using linked)
  | @vanish k r q zombie =>
    by_cases same : x = r
    · simp [Scene.vanish, same] at linked
    · exact .inl (by simpa [Scene.vanish, same] using linked)
  | @newResource k ru go y id type top =>
    by_cases same : x = y
    · subst same
      simp [Scene.newResource] at linked
      subst linked
      exact .inr (.resource top)
    · simp [Scene.newResource, same] at linked
      exact .inl linked.2
  | @newQueue k ru go q id absent top =>
    by_cases same : x = q
    · subst same
      simp [Scene.newQueue] at linked
      subst linked
      exact .inr (.queue top)
    · simp [Scene.newQueue, same] at linked
      exact .inl linked.2.2.2.2
  | @openDescriptor k ru go r o d e resource mq runs des ptr of =>
    by_cases pointer : x = e
    · subst pointer
      simp [Scene.openDescriptor] at linked
      subst linked
      exact .inr (.pointer ptr)
    by_cases same : x = d
    · subst same
      simp [Scene.openDescriptor, pointer] at linked
      subst linked
      exact .inr (.descriptor runs des)
    · exact .inl (by simpa [Scene.openDescriptor, pointer, same] using linked)
  | @destroyResource k ru go r y there unused | @destroyQueue k ru go r y there unused =>
    by_cases same : x = y
    · simp [Scene.destroy, same] at linked
    · exact .inl (by simpa [Scene.destroy, same] using linked)
  | @wakeReader k ru go q w p first names =>
    by_cases same : x = p
    · subst same
      simp [Scene.wakeWaiter] at linked
      subst linked
      exact .inr (.wakes (.message first names))
    by_cases wrapper : x = w
    · subst wrapper
      simp [Scene.wakeWaiter, same] at linked
    · exact .inl (by simpa [Scene.wakeWaiter, same, wrapper] using linked)
  | @wakeWriter k ru go q w p first names =>
    by_cases same : x = p
    · subst same
      simp [Scene.wakeWriter, Scene.wakeWaiter] at linked
      subst linked
      exact .inr (.wakes (.room first names))
    by_cases wrapper : x = w
    · subst wrapper
      simp [Scene.wakeWriter, Scene.wakeWaiter, same] at linked
    · exact .inl (by simpa [Scene.wakeWriter, Scene.wakeWaiter, same, wrapper] using linked)
  | @take k ru go q m there =>
    by_cases same : x = m
    · simp [same] at linked
    · exact .inl (by simpa [same] using linked)
  | @post k ru go q m length write_buffer block fits =>
    by_cases same : x = m
    · subst same
      simp [Scene.post] at linked
      subst linked
      exact .inr (.posted block)
    · exact .inl (by simpa [Scene.post, same] using linked)

theorem Move.call (move : Move c tag P P') {p : Addr} (other : ∀ num, tag ≠ .enter p num) :
    (P'.scene.store.pcb p).syscall_num = (P.scene.store.pcb p).syscall_num ∧
      (P'.scene.store.pcb p).syscall_args = (P.scene.store.pcb p).syscall_args := by
  cases move with
  | @enter k ru go r num args runs =>
    have elsewhere : p ≠ r := by
      rintro rfl
      exact other num rfl
    simp [Scene.enter, elsewhere]
  | _ =>
    simp [Scene.tick, Scene.block, Scene.startTimer, Scene.dispatch, Scene.enqueue, Scene.wakeSleeper,
      Scene.rotate, Scene.reparent, Scene.bury, Scene.destroy, Scene.newQueue, Scene.newChild,
      Scene.resumeParent, Scene.dropDescriptor, Scene.newResource, Scene.finishRead, Scene.finishWrite,
      Scene.post, Scene.openDescriptor, Scene.wakeWaiter, Scene.wakeWriter, Scene.reap, Scene.vanish, Scene.restart]

theorem Move.same_call (move : Move c tag P P') (inv : P.Coherent c) {p : Addr}
    (waits : P.scene.place p = .linked .waiting_list) :
    (P'.scene.store.pcb p).syscall_num = (P.scene.store.pcb p).syscall_num ∧
      (P'.scene.store.pcb p).syscall_args = (P.scene.store.pcb p).syscall_args := by
  apply move.call
  rintro num rfl
  cases move with
  | enter num args runs => cases (inv.processes.not_waiting runs).symm.trans waits

theorem Move.waits (move : Move c tag P P') (inv : P.Coherent c) {p : Addr}
    (waits : P.scene.place p = .linked .waiting_list) :
    Wakeup P.scene p tag ∨ P'.scene.place p = .linked .waiting_list ∧
      (P'.scene.store.pcb p).syscall_num = (P.scene.store.pcb p).syscall_num ∧
      (P'.scene.store.pcb p).syscall_args = (P.scene.store.pcb p).syscall_args := by
  rcases move.leaves inv waits with leaves | still
  · cases leaves with
    | wakes wakeup => exact .inl wakeup
    | lost owner => cases owner
  · exact .inr ⟨still, move.same_call inv waits⟩

end

end DisastrOS
