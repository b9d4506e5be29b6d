import DisastrOS.Events

/-! Every event is a chain of moves.

`Does` names the tagged moves an event may make, with what was true when it
started. An invariant that all these moves keep is kept by the event.
-/

set_option autoImplicit false

namespace DisastrOS

open Refinement
open Relation (ReflTransGen)

def Chain (c : Config) (A : Scene → Tag → Prop) : Phase → Phase → Prop :=
  ReflTransGen fun P P' => ∃ tag, A P.scene tag ∧ Move c tag P P'

namespace Chain
variable {c : Config} {A : Scene → Tag → Prop} {P P' P'' : Phase}

theorem refl : Chain c A P P := ReflTransGen.refl

theorem trans (first : Chain c A P P') (second : Chain c A P' P'') : Chain c A P P'' :=
  ReflTransGen.trans first second

theorem tail {tag : Tag} (chain : Chain c A P P') (ok : A P'.scene tag)
    (move : Move c tag P' P'') : Chain c A P P'' := ReflTransGen.tail chain ⟨tag, ok, move⟩

theorem single {tag : Tag} (ok : A P.scene tag) (move : Move c tag P P') : Chain c A P P' :=
  ReflTransGen.single ⟨tag, ok, move⟩

/-- What every allowed move keeps holds at the end of a chain. -/
theorem keeps {J : Phase → Prop} (chain : Chain c A P P') (inv : P.Coherent c)
    (step : ∀ {tag P P'}, A P.scene tag → P.Coherent c → Move c tag P P' → J P → J P')
    (start : J P) : P'.Coherent c ∧ J P' := by
  induction chain with
  | refl => exact ⟨inv, start⟩
  | tail _ last ih =>
    obtain ⟨tag, ok, move⟩ := last
    exact ⟨move.coherent ih.1, step ok ih.1 move ih.2⟩

theorem coherent (chain : Chain c A P P') (inv : P.Coherent c) : P'.Coherent c :=
  (chain.keeps (J := fun _ => True) inv (fun _ _ _ _ => trivial) trivial).1

end Chain

/-! ## The chains of the handlers -/

section
variable {c : Config} {A : Scene → Tag → Prop} {k k' : Scene} {r : Addr}

theorem WakeRound.chain {s s' : Scene × Pointer} {runner : Pointer} (elapses : ∀ j, A j .elapsed)
    (inv : Coherent c runner none s.1) (last : ∀ y, s.2 = some y → s.1.place y = .linked .ready_list)
    (rounds : ReflTransGen WakeRound s s') :
    Chain c A ⟨s.1, runner, none⟩ ⟨s'.1, runner, none⟩ ∧
      ∀ y, s'.2 = some y → s'.1.place y = .linked .ready_list := by
  induction rounds with
  | refl => exact ⟨.refl, last⟩
  | tail _ round ih =>
    obtain ⟨chain, ready⟩ := ih
    cases round with | @wake k prev t p timer due owner =>
    have inv' := chain.coherent inv
    have linked := inv'.sound.first timer
    obtain ⟨p', names, blocked⟩ := inv'.timers.owner linked
    cases owner.symm.trans names
    have other : p ≠ t := by
      rintro rfl
      cases linked.symm.trans blocked.1
    refine ⟨chain.tail (elapses _) (.wakeSleeper timer due owner ready), ?_⟩
    rintro y ⟨⟩
    simp [Scene.wakeSleeper, other]

theorem Schedule.chain (plain : ∀ j, A j .plain) (elapses : ∀ j, A j .elapsed) (inv : Coherent c (some r) none k)
    (runs : k.store.running = some r) (schedules : Schedule r k (.done () k')) :
    Chain c A ⟨k, some r, none⟩ ⟨k', k'.store.running, none⟩ := by
  cases schedules with
  | alone wakes idle =>
    obtain ⟨prev, rounds⟩ := wakes.1
    rw [wakes.running, runs]
    exact (WakeRound.chain elapses inv (by simp) rounds).1
  | rotates wakes ready =>
    obtain ⟨prev, rounds⟩ := wakes.1
    exact (WakeRound.chain elapses inv (by simp) rounds).1.tail (plain _) (.rotate ready)

theorem Chain.stays {tag : Tag} (runs : k.store.running = some r)
    (move : Move c tag ⟨k, some r, none⟩ ⟨k', some r, none⟩) (ok : A k tag)
    (same : k'.store.running = k.store.running) :
    Chain c A ⟨k, some r, none⟩ ⟨k', k'.store.running, none⟩ := by
  rw [same, runs]
  exact .single ok move

theorem Sleep.chain (plain : ∀ j, A j .plain)
    (hands : k.free .timer_item ≠ [] → k.seq .ready_list ≠ [] → ∀ j, A j .handed)
    (calls : (k.store.pcb r).syscall_num = DSOS_CALL_SLEEP)
    (runs : k.store.running = some r) (sleeps : Sleep r k (.done () k')) :
    Chain c A ⟨k, some r, none⟩ ⟨k', k'.store.running, none⟩ := by
  cases sleeps with
  | refused full => exact .stays runs (.answer r DSOS_ESLEEP) (plain _) rfl
  | @dozes t timer wake time n ready =>
    have left : k.free .timer_item ≠ [] := List.ne_nil_of_mem (List.mem_of_mem_head? timer)
    have busy : k.seq .ready_list ≠ [] := List.ne_nil_of_mem (List.mem_of_mem_head? ready)
    refine Chain.tail (.single (plain _) (.doze wake calls timer)) (hands left busy _) (.handOver ?_)
    simpa [Scene.block, Scene.startTimer] using ready
  | @allSleep t timer wake time idle =>
    exact Chain.tail (.single (plain _) (.doze wake calls timer)) (plain _) .idle

theorem Fork.chain (forks : ∀ j, A j .forked) (runs : k.store.running = some r)
    (child : Fork r k (.done () k')) :
    Chain c A ⟨k, some r, none⟩ ⟨k', k'.store.running, none⟩ := by
  cases child with
  | child pcb unspent ptr => exact .stays runs (.fork pcb ptr) (forks _) rfl

theorem Spawn.chain (plain : ∀ j, A j .plain) (runs : k.store.running = some r)
    (child : Spawn r k (.done () k')) :
    Chain c A ⟨k, some r, none⟩ ⟨k', k'.store.running, none⟩ := by
  cases child with
  | child pcb unspent ptr => exact .stays runs (.spawn _ _ pcb ptr) (plain _) rfl

theorem awaited_linked (sound : k.Sound c) {pid : Int} {e : Addr} (found : k.awaited r pid = some e) :
    k.place e = .linked (.children r) := by
  rcases Option.or_eq_some_iff.mp found with here | ⟨-, last⟩
  · exact sound.mem_seq.mp (List.mem_of_find?_eq_some here)
  · exact sound.mem_seq.mp (List.mem_of_getLast? last)

theorem Wait.chain (plain : ∀ j, A j .plain)
    (reaps : ∀ {e z}, k.awaited r (k.intArg r 0) = some e → k.store.pcb_ptr e = some z →
      (k.store.pcb z).status = .Zombie → A k (.reaped z))
    (blocks : ∀ {e z}, k.awaited r (k.intArg r 0) = some e → k.store.pcb_ptr e = some z →
      (k.store.pcb z).status ≠ .Zombie → k.seq .ready_list ≠ [] →
      A k (.waits r) ∧ ∀ j, A j .handed)
    (calls : (k.store.pcb r).syscall_num = DSOS_CALL_WAIT) (inv : Coherent c (some r) none k)
    (runs : k.store.running = some r) (waits : Wait r k (.done () k')) :
    Chain c A ⟨k, some r, none⟩ ⟨k', k'.store.running, none⟩ := by
  cases waits with
  | childless none => exact .stays runs (.answer r DSOS_EWAIT) (plain _) rfl
  | reaps found child zombie =>
    refine .stays runs (.reap (k.arg r 1) (awaited_linked inv.sound found) child zombie)
      (reaps found child zombie) ?_
    simp [Scene.reap]
  | blocks found child alive ready =>
    have busy : k.seq .ready_list ≠ [] := List.ne_nil_of_mem (List.mem_of_mem_head? ready)
    have ok := blocks found child alive busy
    refine Chain.tail (.single ok.1 (.block calls)) (ok.2 _) (.handOver ?_)
    simpa [Scene.block] using ready

theorem ReparentRound.chain {i : Addr} {runner : Pointer}
    (rounds : ReflTransGen (ReparentRound r i) k k')
    (adopts : k.seq (.children r) ≠ [] → ∀ j, A j .adopted) (init : k.store.init_pcb = some i) :
    Chain c A ⟨k, runner, none⟩ ⟨k', runner, none⟩ ∧ k'.store.init_pcb = some i ∧
      (k.seq (.children r) = [] → k' = k) := by
  -- the last fact keeps the condition on the first scene: without children there is no round
  induction rounds with
  | refl => exact ⟨.refl, init, fun _ => rfl⟩
  | tail _ round ih =>
    obtain ⟨chain, init', same⟩ := ih
    obtain ⟨first, names⟩ := round
    have children : k.seq (.children r) ≠ [] := by
      intro empty
      rw [same empty, empty] at first
      cases first
    exact ⟨chain.tail (adopts children _) (.adopt first names init'), init',
      fun empty => absurd empty children⟩

theorem DropRound.chain {runner gone : Pointer} (plain : ∀ j, A j .plain)
    (inv : Coherent c runner gone k) (rounds : ReflTransGen (DropRound r) k k') :
    Chain c A ⟨k, runner, gone⟩ ⟨k', runner, gone⟩ := by
  induction rounds with
  | refl => exact .refl
  | tail _ round chain =>
    obtain ⟨first, mq, ptr⟩ := round
    have linked := (chain.coherent inv).sound.first first
    exact chain.tail (plain _) (.drop linked (.inl mq) ptr)

theorem AwaitsDeath.before {touched : List Pool} {q : Addr} {pid : Int}
    (frame : Scene.Frame touched k k') (other : .pcb ∉ touched)
    (awaits : (k'.bury r q).AwaitsDeath q pid) : k.AwaitsDeath q pid := by
  obtain ⟨waits, call, args⟩ := awaits
  have differs : q ≠ r := by
    rintro rfl
    simp [Scene.bury] at waits
  simp [Scene.bury, differs] at waits call args
  have status := frame.status other q
  rw [Scene.status, Scene.status, waits] at status
  rw [frame.call] at call
  rw [frame.args] at args
  exact ⟨status.symm, call, args⟩

/-- The exit value and the children of the dying process. -/
theorem Reparents.chain {i : Addr} (leaves : A k (.leaves r))
    (adopts : k.seq (.children r) ≠ [] → ∀ j, A j .adopted)
    (inv : Coherent c (some r) none k) (init : k.store.init_pcb = some i)
    (reparents : Reparents r i k k') :
    Chain c A ⟨k, some r, none⟩ ⟨k', some r, none⟩ ∧ Scene.Frame [.pcb_ptr] k k' := by
  have stored : Chain c A ⟨k, some r, none⟩
      ⟨k.setPCB r fun p => { p with return_value := int32 (p.syscall_args 0) }, some r, none⟩ :=
    .single leaves (.leave rfl)
  have saved : Scene.Frame [.pcb_ptr] k
      (k.setPCB r fun p => { p with return_value := int32 (p.syscall_args 0) }) :=
    .setPCB (by simp) (by simp)
  have frame := (reparents_frame (stored.coherent inv) init reparents.1).1
  exact ⟨stored.trans (ReparentRound.chain reparents.1 adopts init).1, saved.trans frame⟩

theorem Reparents.coherent {i : Addr} (inv : Coherent c (some r) none k) (init : k.store.init_pcb = some i)
    (reparents : Reparents r i k k') : Coherent c (some r) none k' ∧ Scene.Frame [.pcb_ptr] k k' := by
  obtain ⟨chain, frame⟩ := Reparents.chain (A := fun _ _ => True) trivial (fun _ _ => trivial) inv init reparents
  exact ⟨chain.coherent inv, frame⟩

structure Resumption (c : Config) (j : Scene) (r q e : Addr) : Prop where
  bury : Move c (.buried r q) ⟨j, some r, none⟩ ⟨j.bury r q, none, none⟩
  resume : Move c (.resumed r q) ⟨j.bury r q, none, none⟩ ⟨(j.bury r q).resumeParent r q e, some q, some r⟩
  zombie : (j.bury r q).place r = .linked .zombie_list
  entry : (j.bury r q).place e = .linked (.children q)
  names : (j.bury r q).store.pcb_ptr e = some r
  blocked : (j.bury r q).Blocked q DSOS_CALL_WAIT
  buried : Coherent c none none (j.bury r q)
  resumed : Coherent c (some q) (some r) ((j.bury r q).resumeParent r q e)

theorem Reparents.resumption {i q e : Addr} (inv : Coherent c (some r) none k) (init : k.store.init_pcb = some i)
    (reparents : Reparents r i k k') (parent : (k.store.pcb r).parent = some q)
    (awaited : (k'.bury r q).AwaitsDeath q (k.store.pcb r).pid)
    (entry : (k'.bury r q).entry q (k.store.pcb r).pid = some e) : Resumption c k' r q e := by
  obtain ⟨inv', frame⟩ := reparents.coherent inv init
  have bury : Move c (.buried r q) ⟨k', some r, none⟩ ⟨k'.bury r q, none, none⟩ :=
    .bury ((frame.parent r).trans parent) reparents.2
  have buried : Coherent c none none (k'.bury r q) := bury.coherent inv'
  have zombie : (k'.bury r q).place r = .linked .zombie_list := by simp [Scene.bury]
  have pid : ((k'.bury r q).store.pcb r).pid = (k.store.pcb r).pid := by
    simpa [Scene.bury] using frame.pid r
  rw [← pid] at entry awaited
  have named := entry_names buried (buried.sound.live zombie) (buried.sound.kind zombie) entry
  have resume : Move c (.resumed r q) ⟨k'.bury r q, none, none⟩ ⟨(k'.bury r q).resumeParent r q e, some q, some r⟩ :=
    .resume zombie entry awaited
  exact ⟨bury, resume, zombie, named.1, named.2, AwaitsDeath.blocked buried awaited, buried, resume.coherent buried⟩

theorem Resumption.vanish {j j' : Scene} {q e : Addr} (resumption : Resumption c j r q e)
    (drops : ReflTransGen (DropRound r) ((j.bury r q).resumeParent r q e) j') :
    Move c .plain ⟨j', some q, some r⟩ ⟨j'.vanish r q, some q, none⟩ := by
  have dead := resumeParent_zombie resumption.zombie resumption.blocked.1 resumption.entry
  have kind : r.pool = .pcb := resumption.buried.sound.kind resumption.zombie
  have still := (drops_frame resumption.resumed drops).1.place (x := r) (by simp [kind])
  exact .vanish (still.trans dead)

theorem Exit.chain (plain : ∀ j, A j .plain) (leaves : A k (.leaves r))
    (adopts : k.seq (.children r) ≠ [] → ∀ j, A j .adopted)
    (buries : ∀ {q}, (k.store.pcb r).parent = some q → ∀ j, A j (.buried r q))
    (resumes : ∀ {q}, (k.store.pcb r).parent = some q → k.AwaitsDeath q (k.store.pcb r).pid →
      ∀ j, A j (.resumed r q))
    (inv : Coherent c (some r) none k) (exits : Exit r k (.done () k')) :
    Chain c A ⟨k, some r, none⟩ ⟨k', k'.store.running, none⟩ := by
  cases exits with
  | buried init reparents parent unawaited ready =>
    obtain ⟨chain, frame⟩ := Reparents.chain leaves adopts inv init reparents
    have buried := chain.tail (buries parent _) (.bury ((frame.parent r).trans parent) reparents.2)
    exact buried.tail (plain _) (.dispatch ready)
  | @resumes i q e j j' init reparents parent awaited entry drops closed =>
    obtain ⟨chain, frame⟩ := Reparents.chain leaves adopts inv init reparents
    have resumption := reparents.resumption inv init parent awaited entry
    have asked : k.AwaitsDeath q (k.store.pcb r).pid := AwaitsDeath.before frame (by simp) awaited
    have buried := chain.tail (buries parent _) resumption.bury
    have resumed := buried.tail (resumes parent asked _) resumption.resume
    have dropped := resumed.trans (DropRound.chain plain resumption.resumed drops)
    exact dropped.tail (plain _) (resumption.vanish drops)

theorem OpenDescriptor.chain {o : Addr} {resource mq : Pointer} (plain : ∀ j, A j .plain)
    (of : mq = some o ∧ resource = none ∧ k.place o = .linked .mq_list ∨
      mq = none ∧ resource = some o ∧ k.place o = .linked .resources_list)
    (runs : k.store.running = some r) (opens : OpenDescriptor r o resource mq k (.done () k')) :
    Chain c A ⟨k, some r, none⟩ ⟨k', k'.store.running, none⟩ := by
  cases opens with
  | refused full => exact .stays runs (.answer r DSOS_ERESOURCENOFD) (plain _) rfl
  | opened des unspent ptr => exact .stays runs (.openDescriptor rfl des ptr of) (plain _) rfl

theorem OpenResource.chain (plain : ∀ j, A j .plain) (inv : Coherent c (some r) none k)
    (runs : k.store.running = some r) (opens : OpenResource r k (.done () k')) :
    Chain c A ⟨k, some r, none⟩ ⟨k', k'.store.running, none⟩ := by
  cases opens with
  | taken create found => exact .stays runs (.answer r DSOS_ERESOURCECREATE) (plain _) rfl
  | unknown old absent => exact .stays runs (.answer r DSOS_ERESOURCEOPEN) (plain _) rfl
  | mistyped old found type => exact .stays runs (.answer r DSOS_ERESOURCEOPEN) (plain _) rfl
  | shared old found type exclusive used => exact .stays runs (.answer r DSOS_ERESOURCENOEXCL) (plain _) rfl
  | creates create absent top opens =>
    have made : Chain c A ⟨k, some r, none⟩ ⟨_, some r, none⟩ :=
      .single (plain _) (.newResource (k.intArg r 0) (k.intArg r 1) top)
    exact made.trans (opens.chain plain (.inr ⟨rfl, rfl, by simp [Scene.newResource]⟩) runs)
  | opens old found type free opens =>
    exact opens.chain plain (.inr ⟨rfl, rfl, resource_listed inv found⟩) runs

theorem OpenMessageQueue.chain (plain : ∀ j, A j .plain) (inv : Coherent c (some r) none k)
    (runs : k.store.running = some r) (opens : OpenMessageQueue r k (.done () k')) :
    Chain c A ⟨k, some r, none⟩ ⟨k', k'.store.running, none⟩ := by
  cases opens with
  | taken create found => exact .stays runs (.answer r DSOS_ERESOURCECREATE) (plain _) rfl
  | unknown old absent => exact .stays runs (.answer r DSOS_ERESOURCEOPEN) (plain _) rfl
  | shared exclusive found used => exact .stays runs (.answer r DSOS_ERESOURCENOEXCL) (plain _) rfl
  | creates create absent top opens =>
    have made : Chain c A ⟨k, some r, none⟩ ⟨_, some r, none⟩ :=
      .single (plain _) (.newQueue absent top)
    exact made.trans (opens.chain plain (.inl ⟨rfl, rfl, by simp [Scene.newQueue]⟩) runs)
  | opens old found free opens =>
    exact opens.chain plain (.inl ⟨rfl, rfl, (queue_listed inv found).1⟩) runs

theorem Close.chain {object : Pool} {which : Descriptor → Pointer} (plain : ∀ j, A j .plain)
    (of : ∀ {d o}, which (k.store.descriptor d) = some o →
      (k.store.descriptor d).mq = some o ∨ (k.store.descriptor d).resource = some o)
    (inv : Coherent c (some r) none k) (runs : k.store.running = some r)
    (closes : Close object which r k (.done () k')) :
    Chain c A ⟨k, some r, none⟩ ⟨k', k'.store.running, none⟩ := by
  cases closes with
  | unknown absent => exact .stays runs (.answer r DSOS_ERESOURCECLOSE) (plain _) rfl
  | @closed d o e found kind ptr =>
    have open_ : k.place d = .linked (.descriptors r) :=
      inv.sound.mem_seq.mp (List.mem_of_find?_eq_some found)
    have dropped : Chain c A ⟨k, some r, none⟩ ⟨k.dropDescriptor r d o e, some r, none⟩ :=
      .single (plain _) (.drop open_ (of kind) ptr)
    exact dropped.trans (.stays runs (.answer r 0) (plain _) rfl)

theorem DestroyResource.chain (plain : ∀ j, A j .plain) (inv : Coherent c (some r) none k)
    (runs : k.store.running = some r) (destroys : DestroyResource r k (.done () k')) :
    Chain c A ⟨k, some r, none⟩ ⟨k', k'.store.running, none⟩ := by
  cases destroys with
  | unknown absent => exact .stays runs (.answer r DSOS_ERESOURCECLOSE) (plain _) rfl
  | used found open_ => exact .stays runs (.answer r DSOS_ERESOURCEINUSE) (plain _) rfl
  | destroyed found closed =>
    exact .stays runs (.destroyResource (resource_listed inv found) closed) (plain _) rfl

theorem DestroyMessageQueue.chain (plain : ∀ j, A j .plain)
    (destroys : ∀ {q}, k.queue (k.intArg r 0) = some q → k.seq (.descriptors_ptrs q) = [] →
      A k (.destroyed q))
    (inv : Coherent c (some r) none k) (runs : k.store.running = some r)
    (ends : DestroyMessageQueue r k (.done () k')) :
    Chain c A ⟨k, some r, none⟩ ⟨k', k'.store.running, none⟩ := by
  cases ends with
  | unknown absent => exact .stays runs (.answer r DSOS_ERESOURCECLOSE) (plain _) rfl
  | used found open_ => exact .stays runs (.answer r DSOS_ERESOURCEINUSE) (plain _) rfl
  | destroyed found closed =>
    exact .stays runs (.destroyQueue (queue_listed inv found).1 closed) (destroys found closed) rfl

theorem Suspend.chain {waiting : Addr → Head} {num : Int} {mq : Pointer} (plain : ∀ j, A j .plain)
    (which : WaitsIn waiting num) (calls : (k.store.pcb r).syscall_num = num)
    (found : mq = k.queue (k.intArg r 0))
    (reads : ∀ q, mq = some q → num = DSOS_CALL_READ_MQ → (k.store.mq q).num_written = 0)
    (writes : ∀ q, mq = some q → num = DSOS_CALL_WRITE_MQ →
      (k.store.mq q).num_written = c.MAX_NUM_MESSAGES)
    (suspends : Suspend r mq waiting k (.done () k')) :
    Chain c A ⟨k, some r, none⟩ ⟨k', k'.store.running, none⟩ := by
  cases suspends with
  | @suspended w q n ptr mq ready =>
    have elsewhere : Head.ready_list ≠ waiting q := by cases which <;> simp
    have waits : Chain c A ⟨k, some r, none⟩ ⟨k.enqueue r w (waiting q), none, none⟩ :=
      .single (plain _) (.enqueue which ptr calls (found.symm.trans mq) (reads q mq) (writes q mq))
    refine waits.tail (plain _) (.dispatch ?_)
    simpa [Scene.enqueue, Scene.block, elsewhere] using ready

theorem WakeWriterRound.chain {q : Addr} {runner : Pointer} (plain : ∀ j, A j .plain)
    (inv : Coherent c runner none k) (rounds : ReflTransGen (WakeWriterRound q) k k') :
    Chain c A ⟨k, runner, none⟩ ⟨k', runner, none⟩ ∧ Scene.Frame [.pcb, .pcb_ptr] k k' ∧
      (∀ u, k'.seq (.waiting_to_read u) = k.seq (.waiting_to_read u)) ∧
      k'.store.running = k.store.running := by
  induction rounds with
  | refl => exact ⟨.refl, .refl, fun _ => rfl, rfl⟩
  | tail _ round ih =>
    obtain ⟨chain, frame, readers, running⟩ := ih
    obtain ⟨first, writer⟩ := round
    have inv' := chain.coherent inv
    obtain ⟨linked, blocked⟩ := WaitsIn.write.waiter_blocked inv' first writer
    have woken := frame.trans (.wakeWaiter (h := .waiting_to_write q) (inv'.sound.kind blocked.1)
      (inv'.sound.kind linked) (by rfl) (by simp) (by simp))
    refine ⟨chain.tail (plain _) (.wakeWriter first writer), woken.trans (.release (by simp)),
      fun u => ?_, running⟩
    simpa [Scene.wakeWriter, Scene.wakeWaiter] using readers u

theorem WakeReaderRound.chain {q : Addr} {runner : Pointer}
    (wakes : k.seq (.waiting_to_read q) ≠ [] → ∀ j, A j (.woken q))
    (inv : Coherent c runner none k) (rounds : ReflTransGen (WakeReaderRound q) k k') :
    Chain c A ⟨k, runner, none⟩ ⟨k', runner, none⟩ ∧ Scene.Frame [.pcb, .pcb_ptr] k k' ∧
      (∀ u, k'.seq (.waiting_to_write u) = k.seq (.waiting_to_write u)) ∧
      k'.store.running = k.store.running ∧ (k.seq (.waiting_to_read q) = [] → k' = k) := by
  -- as for the children: with nobody waiting there is no round, and nothing to allow
  induction rounds with
  | refl => exact ⟨.refl, .refl, fun _ => rfl, rfl, fun _ => rfl⟩
  | tail _ round ih =>
    obtain ⟨chain, frame, writers, running, same⟩ := ih
    obtain ⟨first, reader⟩ := round
    have inv' := chain.coherent inv
    obtain ⟨linked, blocked⟩ := WaitsIn.read.waiter_blocked inv' first reader
    have some_wait : k.seq (.waiting_to_read q) ≠ [] := by
      intro empty
      rw [same empty, empty] at first
      cases first
    have woken := frame.trans (.wakeWaiter (h := .waiting_to_read q) (inv'.sound.kind blocked.1)
      (inv'.sound.kind linked) (by rfl) (by simp) (by simp))
    refine ⟨chain.tail (wakes some_wait _) (.wakeReader first reader), woken, fun u => ?_, running,
      fun empty => absurd empty some_wait⟩
    simpa [Scene.wakeWaiter] using writers u

theorem Counted.no_reader {q m : Addr} {runner gone : Pointer} (counted : Counted c k)
    (inv : Coherent c runner gone k) (first : (k.seq (.messages q)).head? = some m) :
    k.seq (.waiting_to_read q) = [] := by
  apply List.eq_nil_iff_forall_not_mem.mpr
  intro w waits
  have none_written := inv.queues.empty (inv.sound.mem_seq.mp waits)
  have some_written := List.length_pos_of_mem (List.mem_of_mem_head? first)
  have count := (counted q).1
  omega

theorem no_writer {q : Addr} {runner gone : Pointer} (inv : Coherent c runner gone k)
    (room : (k.store.mq q).num_written ≠ c.MAX_NUM_MESSAGES) : k.seq (.waiting_to_write q) = [] :=
  List.eq_nil_iff_forall_not_mem.mpr fun _ waits =>
    room (inv.queues.full (inv.sound.mem_seq.mp waits))

theorem Read.chain (plain : ∀ j, A j .plain)
    (takes : ∀ {q m}, k.queue (k.intArg r 0) = some q → (k.seq (.messages q)).head? = some m →
      (k.store.message m).length ≤ k.intArg r 2 → A k (.taken q m) ∧ ∀ j, A j (.counted q))
    (calls : (k.store.pcb r).syscall_num = DSOS_CALL_READ_MQ) (inv : Coherent c (some r) none k)
    (counted : Counted c k) (runs : k.store.running = some r) (reads : Read r k (.done () k')) :
    Chain c A ⟨k, some r, none⟩ ⟨k', k'.store.running, none⟩ := by
  cases reads with
  | waits empty suspends =>
    refine suspends.chain plain .read calls rfl (fun q mq _ => ?_) (fun _ _ => nofun)
    rw [(counted q).1, empty q mq]
    rfl
  | short found first long => exact .stays runs (.answer r (-15)) (plain _) rfl
  | @takes q m j found first fits wakes user =>
    have linked := inv.sound.first first
    have ok := takes found first fits
    have taken : Chain c A ⟨k, some r, none⟩ ⟨k.detach (.messages q) m, some r, none⟩ :=
      .single ok.1 (.take linked)
    obtain ⟨chain, frame, readers, running⟩ := WakeWriterRound.chain plain (taken.coherent inv) wakes.1
    -- a queue with a message has no readers, and the loop has left no writers
    have nobody : j.seq (.waiting_to_read q) = [] := by
      rw [readers]
      simpa using counted.no_reader inv first
    have finished : Chain c A ⟨k, some r, none⟩ ⟨j.finishRead r q m (k.arg r 1), some r, none⟩ :=
      (taken.trans chain).tail (ok.2 _) (.finishRead r (k.arg r 1) wakes.2 nobody)
    have same : (j.finishRead r q m (k.arg r 1)).store.running = some r := running.trans runs
    rwa [same]

theorem Write.chain (plain : ∀ j, A j .plain)
    (posts : ∀ {q m}, k.intArg r 2 ≤ c.MAX_LEN_MESSAGE → k.queue (k.intArg r 0) = some q →
      (k.store.mq q).num_written ≠ c.MAX_NUM_MESSAGES → (k.free .message).head? = some m →
      A k (.posted q m) ∧ (∀ j, A j (.counted q)) ∧
        (k.seq (.waiting_to_read q) ≠ [] → ∀ j, A j (.woken q)))
    (calls : (k.store.pcb r).syscall_num = DSOS_CALL_WRITE_MQ) (inv : Coherent c (some r) none k)
    (runs : k.store.running = some r) (writes : Write c r k (.done () k')) :
    Chain c A ⟨k, some r, none⟩ ⟨k', k'.store.running, none⟩ := by
  cases writes with
  | tooLong long => exact .stays runs (.answer r (-146)) (plain _) rfl
  | unknown fits absent => exact .stays runs (.answer r DSOS_ERESOURCENOFD) (plain _) rfl
  | waits fits found full suspends =>
    apply suspends.chain plain .write calls found.symm (fun _ _ => nofun)
    intro q mq _
    cases mq
    exact full
  | @writes q m j fits found room block user wakes =>
    obtain ⟨ok, counts, waking⟩ := posts fits found room block
    have posted : Chain c A ⟨k, some r, none⟩
        ⟨k.post q m (k.arg r 1) (k.intArg r 2), some r, none⟩ :=
      .single ok (.post (k.arg r 1) block fits)
    obtain ⟨chain, frame, writers, running, -⟩ :=
      WakeReaderRound.chain (fun some_wait => waking (by simpa [Scene.post] using some_wait))
        (posted.coherent inv) wakes.1
    -- a queue with room has no writers, and the loop has left no readers
    have nobody : j.seq (.waiting_to_write q) = [] := by
      rw [writers]
      simpa [Scene.post] using no_writer inv room
    have finished : Chain c A ⟨k, some r, none⟩ ⟨j.finishWrite r q (k.intArg r 2), some r, none⟩ :=
      (posted.trans chain).tail (counts _) (.finishWrite r (k.intArg r 2) nobody wakes.2)
    have same : (j.finishWrite r q (k.intArg r 2)).store.running = some r := running.trans runs
    rwa [same]

end

/-! ## The chains of the events -/

theorem storeArgs_apply (syscall_args args : Nat → Int) (n i : Nat) :
    storeArgs syscall_args args n i = if i < n then args i else syscall_args i := by
  induction n with
  | zero => rfl
  | succ n ih =>
    by_cases last : i = n
    · simp [storeArgs, last]
    · have upTo : i < n + 1 ↔ i < n := by omega
      simp [storeArgs, last, ih, upTo]

section Enter
variable {k : Scene} {r : Addr} {num : Int} {args : Nat → Int}

theorem arg_enter {i : Nat} (stored : i < syscall_numarg num) :
    (k.enter r num args).arg r i = args i := by
  simp [Scene.arg, Scene.enter, storeArgs_apply, stored]

theorem intArg_enter {i : Nat} (stored : i < syscall_numarg num) :
    (k.enter r num args).intArg r i = int32 (args i) :=
  congrArg int32 (arg_enter stored)

theorem queue_enter (stored : 0 < syscall_numarg num) :
    (k.enter r num args).queue ((k.enter r num args).intArg r 0) = k.queue (int32 (args 0)) := by
  rw [intArg_enter stored]
  rfl

@[simp] theorem toShape_enter : (k.enter r num args).toShape = k.toShape := rfl

theorem answers_enter {pid : Int} : (k.enter r num args).answers pid = k.answers pid := by
  funext e
  cases names : k.store.pcb_ptr e <;> simp [Scene.answers, Scene.enter, names]

@[simp] theorem awaited_enter {q : Addr} {pid : Int} :
    (k.enter r num args).awaited q pid = k.awaited q pid := by
  simp only [Scene.awaited, answers_enter, toShape_enter]

@[simp] theorem status_enter {p : Addr} : ((k.enter r num args).store.pcb p).status = (k.store.pcb p).status := by
  simp [Scene.enter]

@[simp] theorem syscall_num_enter : ((k.enter r num args).store.pcb r).syscall_num = num := by
  simp [Scene.enter]

end Enter

/-- The event runs `internal_schedule`. -/
def Event.Schedules : Event → Prop
  | .user _ => False
  | .syscall num _ => num = DSOS_CALL_PREEMPT
  | .tick => True
  | .proceed => False

/-- The tagged moves of an event that starts in the scene `k`. -/
inductive Does (c : Config) (k : Scene) : Event → Scene → Tag → Prop where
  | plain (e : Event) (j : Scene) : Does c k e j .plain
  | enters {r : Addr} (num : Int) (args : Nat → Int) (runs : k.store.running = some r) :
      Does c k (.syscall num args) k (.enter r num)
  | elapses (e : Event) (j : Scene) (schedules : e.Schedules) : Does c k e j .elapsed
  | ticks {r : Addr} (runs : k.store.running = some r) : Does c k .tick k .ticked
  | forks {r : Addr} (args : Nat → Int) (j : Scene) (runs : k.store.running = some r) :
      Does c k (.syscall DSOS_CALL_FORK args) j .forked
  | dozes {r : Addr} (args : Nat → Int) (j : Scene) (runs : k.store.running = some r)
      (left : k.free .timer_item ≠ []) (ready : k.seq .ready_list ≠ []) :
      Does c k (.syscall DSOS_CALL_SLEEP args) j .handed
  | reaps {r e z : Addr} (args : Nat → Int) (runs : k.store.running = some r)
      (found : k.awaited r (int32 (args 0)) = some e) (child : k.store.pcb_ptr e = some z)
      (zombie : (k.store.pcb z).status = .Zombie) :
      Does c k (.syscall DSOS_CALL_WAIT args) (k.enter r DSOS_CALL_WAIT args) (.reaped z)
  | blocks {r e z : Addr} (args : Nat → Int) (runs : k.store.running = some r)
      (found : k.awaited r (int32 (args 0)) = some e) (child : k.store.pcb_ptr e = some z)
      (alive : (k.store.pcb z).status ≠ .Zombie) (ready : k.seq .ready_list ≠ []) :
      Does c k (.syscall DSOS_CALL_WAIT args) (k.enter r DSOS_CALL_WAIT args) (.waits r)
  | hands {r e z : Addr} (args : Nat → Int) (j : Scene) (runs : k.store.running = some r)
      (found : k.awaited r (int32 (args 0)) = some e) (child : k.store.pcb_ptr e = some z)
      (alive : (k.store.pcb z).status ≠ .Zombie) (ready : k.seq .ready_list ≠ []) :
      Does c k (.syscall DSOS_CALL_WAIT args) j .handed
  | leaves {r : Addr} (args : Nat → Int) (runs : k.store.running = some r) :
      Does c k (.syscall DSOS_CALL_EXIT args) (k.enter r DSOS_CALL_EXIT args) (.leaves r)
  | adopts {r : Addr} (args : Nat → Int) (j : Scene) (runs : k.store.running = some r)
      (children : k.seq (.children r) ≠ []) : Does c k (.syscall DSOS_CALL_EXIT args) j .adopted
  | buries {r q : Addr} (args : Nat → Int) (j : Scene) (runs : k.store.running = some r)
      (parent : (k.store.pcb r).parent = some q) :
      Does c k (.syscall DSOS_CALL_EXIT args) j (.buried r q)
  | resumes {r q : Addr} (args : Nat → Int) (j : Scene) (runs : k.store.running = some r)
      (parent : (k.store.pcb r).parent = some q) (awaits : k.AwaitsDeath q (k.store.pcb r).pid) :
      Does c k (.syscall DSOS_CALL_EXIT args) j (.resumed r q)
  | destroys {r q : Addr} (args : Nat → Int) (runs : k.store.running = some r)
      (found : k.queue (int32 (args 0)) = some q) (closed : k.seq (.descriptors_ptrs q) = []) :
      Does c k (.syscall DSOS_CALL_DESTROY_MQ args) (k.enter r DSOS_CALL_DESTROY_MQ args)
        (.destroyed q)
  | takes {r q m : Addr} (args : Nat → Int) (runs : k.store.running = some r)
      (found : k.queue (int32 (args 0)) = some q) (first : (k.seq (.messages q)).head? = some m)
      (fits : (k.store.message m).length ≤ int32 (args 2)) :
      Does c k (.syscall DSOS_CALL_READ_MQ args) (k.enter r DSOS_CALL_READ_MQ args) (.taken q m)
  | countsDown {r q m : Addr} (args : Nat → Int) (j : Scene) (runs : k.store.running = some r)
      (found : k.queue (int32 (args 0)) = some q) (first : (k.seq (.messages q)).head? = some m)
      (fits : (k.store.message m).length ≤ int32 (args 2)) :
      Does c k (.syscall DSOS_CALL_READ_MQ args) j (.counted q)
  | posts {r q m : Addr} (args : Nat → Int) (runs : k.store.running = some r)
      (found : k.queue (int32 (args 0)) = some q)
      (room : (k.store.mq q).num_written ≠ c.MAX_NUM_MESSAGES)
      (block : (k.free .message).head? = some m) :
      Does c k (.syscall DSOS_CALL_WRITE_MQ args) (k.enter r DSOS_CALL_WRITE_MQ args) (.posted q m)
  | countsUp {r q m : Addr} (args : Nat → Int) (j : Scene) (runs : k.store.running = some r)
      (found : k.queue (int32 (args 0)) = some q)
      (room : (k.store.mq q).num_written ≠ c.MAX_NUM_MESSAGES)
      (block : (k.free .message).head? = some m) :
      Does c k (.syscall DSOS_CALL_WRITE_MQ args) j (.counted q)
  | wakes {r q m : Addr} (args : Nat → Int) (j : Scene) (runs : k.store.running = some r)
      (fits : int32 (args 2) ≤ c.MAX_LEN_MESSAGE) (found : k.queue (int32 (args 0)) = some q)
      (room : (k.store.mq q).num_written ≠ c.MAX_NUM_MESSAGES)
      (block : (k.free .message).head? = some m) (readers : k.seq (.waiting_to_read q) ≠ []) :
      Does c k (.syscall DSOS_CALL_WRITE_MQ args) j (.woken q)
  | restarts {p : Addr} (idle : k.store.running = none) (pcb : (k.free .pcb).head? = some p) :
      Does c k .proceed k (.restarted p)

theorem handler_range {c : Config} {num : Int} {H : Addr → Scene → Ending → Prop}
    (handler : Handles c num = some H) : 0 ≤ num ∧ num < DSOS_MAX_SYSCALLS := by
  have entry := handler_entry handler
  cases entry <;> decide

theorem Reacts.handler_ends {c : Config} {k k' : Scene} {num : Int} {args : Nat → Int} {r : Addr}
    {H : Addr → Scene → Ending → Prop} (reacts : Reacts c k (.syscall num args) (.done () k'))
    (handler : Handles c num = some H) (runs : k.store.running = some r) :
    H r (k.enter r num args) (.done () k') := by
  cases reacts with
  | outOfRange running range =>
    have inside := handler_range handler
    omega
  | unknown running range absent => cases absent.symm.trans handler
  | handled running same ends logged =>
    cases runs.symm.trans running
    cases handler.symm.trans same
    exact ends

theorem Reacts.runs {c : Config} {k k' : Scene} {num : Int} {args : Nat → Int}
    (reacts : Reacts c k (.syscall num args) (.done () k')) : ∃ r, k.store.running = some r := by
  cases reacts with
  | outOfRange running range => exact ⟨_, running⟩
  | unknown running range absent => exact ⟨_, running⟩
  | handled running handler ends logged => exact ⟨_, running⟩

theorem Reacts.handler_stops {c : Config} {k : Scene} {num : Int} {args : Nat → Int} {stop : Stop}
    {H : Addr → Scene → Ending → Prop} (reacts : Reacts c k (.syscall num args) (.fault stop))
    (handler : Handles c num = some H) (own : stop ≠ .assertion ∧ stop ≠ .null .pcb) :
    ∃ r, k.store.running = some r ∧ H r (k.enter r num args) (.fault stop) := by
  cases reacts with
  | nobody idle => exact absurd rfl own.1
  | outOfBounds running bound =>
    have inside := handler_range handler
    omega
  | unlogged running same ends logs idle => exact absurd rfl own.2
  | stopped running same stops =>
    cases handler.symm.trans same
    exact ⟨_, running, stops⟩

theorem Reacts.handler_fault {c : Config} {k : Scene} {num : Int} {args : Nat → Int} {r : Addr}
    {stop : Stop} {H : Addr → Scene → Ending → Prop} (reacts : Reacts c k (.syscall num args) (.fault stop))
    (handler : Handles c num = some H) (runs : k.store.running = some r) :
    H r (k.enter r num args) (.fault stop) ∨
      ∃ k', H r (k.enter r num args) (.done () k') ∧ k'.store.running = none := by
  cases reacts with
  | nobody idle => cases runs.symm.trans idle
  | outOfBounds running bound =>
    have inside := handler_range handler
    omega
  | unlogged running same ends logs idle =>
    cases runs.symm.trans running
    cases handler.symm.trans same
    exact .inr ⟨_, ends, idle⟩
  | stopped running same stops =>
    cases runs.symm.trans running
    cases handler.symm.trans same
    exact .inl stops

theorem Reacts.handler_loops {c : Config} {k : Scene} {num : Int} {args : Nat → Int} {r : Addr}
    {H : Addr → Scene → Ending → Prop} (reacts : Reacts c k (.syscall num args) .exhausted)
    (handler : Handles c num = some H) (runs : k.store.running = some r) :
    H r (k.enter r num args) .exhausted := by
  cases reacts with
  | diverges running same loops =>
    cases runs.symm.trans running
    cases handler.symm.trans same
    exact loops

theorem AwaitsDeath.of_enter {c : Config} {k : Scene} {r q : Addr} {num pid : Int} {args : Nat → Int}
    (inv : Coherent c (some r) none k) (awaits : (k.enter r num args).AwaitsDeath q pid) :
    k.AwaitsDeath q pid := by
  have other : q ≠ r := by
    rintro rfl
    have waits : k.status q = .Waiting := by simpa [Scene.status, Scene.enter] using awaits.1
    cases (inv.processes.not_waiting rfl).symm.trans (inv.processes.waits waits)
  simpa [Scene.AwaitsDeath, Scene.enter, other] using awaits

theorem handler_chain {c : Config} {k k' : Scene} {r : Addr} {num : Int} {args : Nat → Int}
    {H : Addr → Scene → Ending → Prop} (inv : Coherent c (some r) none k) (counted : Counted c k)
    (runs : k.store.running = some r) (handler : Handles c num = some H)
    (ends : H r (k.enter r num args) (.done () k')) :
    Chain c (Does c k (.syscall num args)) ⟨k.enter r num args, some r, none⟩
      ⟨k', k'.store.running, none⟩ := by
  have inv' := inv.moved (.enter num args rfl)
  have running : (k.enter r num args).store.running = some r := runs
  -- a move without a tag is allowed in every call, the tagged ones only where the guard held
  have plain {e : Event} (j : Scene) : Does c k e j .plain := .plain e j
  cases handler_entry handler with
  | preempt => exact Schedule.chain plain (fun j => .elapses _ j rfl) inv' running ends
  | fork => exact Fork.chain (.forks args · runs) running ends
  | spawn => exact Spawn.chain plain running ends
  | wait =>
    have pid : (k.enter r DSOS_CALL_WAIT args).intArg r 0 = int32 (args 0) := intArg_enter (by decide)
    refine Wait.chain plain (fun found child zombie => ?_) (fun found child alive ready => ?_)
      (by simp) inv' running ends
    · rw [pid, awaited_enter] at found
      exact .reaps args runs found child (by simpa using zombie)
    · rw [pid, awaited_enter] at found
      exact ⟨.blocks args runs found child (by simpa using alive) ready,
        fun j => .hands args j runs found child (by simpa using alive) ready⟩
  | exit =>
    refine Exit.chain plain (.leaves args runs) (fun children j => .adopts args j runs children)
      (fun parent j => .buries args j runs (by simpa [Scene.enter] using parent))
      (fun parent awaits j => ?_) inv' ends
    exact .resumes args j runs (by simpa [Scene.enter] using parent)
      (AwaitsDeath.of_enter inv (by simpa [Scene.enter] using awaits))
  | sleep => exact Sleep.chain plain (fun left ready j => .dozes args j runs left ready) (by simp) running ends
  | openResource => exact OpenResource.chain plain inv' running ends
  | closeResource => exact Close.chain plain .inr inv' running ends
  | destroyResource => exact DestroyResource.chain plain inv' running ends
  | shutdown => cases ends
  | openMessageQueue => exact OpenMessageQueue.chain plain inv' running ends
  | closeMessageQueue => exact Close.chain plain .inl inv' running ends
  | write =>
    have id : (k.enter r DSOS_CALL_WRITE_MQ args).intArg r 0 = int32 (args 0) := intArg_enter (by decide)
    have size : (k.enter r DSOS_CALL_WRITE_MQ args).intArg r 2 = int32 (args 2) := intArg_enter (by decide)
    refine Write.chain plain (fun fits found room block => ?_) (by simp) inv' running ends
    rw [id] at found
    rw [size] at fits
    exact ⟨.posts args runs found room block, fun j => .countsUp args j runs found room block,
      fun readers j => .wakes args j runs fits found room block readers⟩
  | read =>
    have id : (k.enter r DSOS_CALL_READ_MQ args).intArg r 0 = int32 (args 0) := intArg_enter (by decide)
    have size : (k.enter r DSOS_CALL_READ_MQ args).intArg r 2 = int32 (args 2) := intArg_enter (by decide)
    refine Read.chain plain (fun found first fits => ?_) (by simp) inv' counted running ends
    rw [id] at found
    rw [size] at fits
    exact ⟨.takes args runs found first fits, fun j => .countsDown args j runs found first fits⟩
  | destroyMessageQueue =>
    have id : (k.enter r DSOS_CALL_DESTROY_MQ args).intArg r 0 = int32 (args 0) := intArg_enter (by decide)
    refine DestroyMessageQueue.chain plain (fun found closed => ?_) inv' running ends
    rw [id] at found
    exact .destroys args runs found closed

/-- Every event that does not stop the kernel is a chain of the moves listed for it. -/
theorem Reacts.chain {c : Config} {k k' : Scene} {e : Event}
    (inv : Coherent c k.store.running none k) (counted : Counted c k)
    (reacts : Reacts c k e (.done () k')) :
    Chain c (Does c k e) ⟨k, k.store.running, none⟩ ⟨k', k'.store.running, none⟩ := by
  have plain {e : Event} (j : Scene) : Does c k e j .plain := .plain e j
  cases reacts with
  | user memory => exact .single (plain _) (.user memory)
  | outOfRange running range => exact .refl
  | @unknown num args r running range absent =>
    -- first the call is recorded, then its handler runs
    have entered : Chain c (Does c k (.syscall num args)) ⟨k, k.store.running, none⟩
        ⟨k.enter r num args, k.store.running, none⟩ :=
      .single (.enters num args running) (.enter num args running)
    exact entered.tail (plain _) (.answer r DSOS_ESYSCALL_NOT_IMPLEMENTED)
  | @handled num args r _ H running handler ends logged =>
    rw [running] at inv
    have entered : Chain c (Does c k (.syscall num args)) ⟨k, k.store.running, none⟩
        ⟨k.enter r num args, k.store.running, none⟩ :=
      .single (.enters num args running) (.enter num args running)
    refine entered.trans ?_
    rw [running]
    exact handler_chain inv counted running handler ends
  | @tick r _ running schedules =>
    rw [running] at inv
    have ticked : Chain c (Does c k .tick) ⟨k, k.store.running, none⟩ ⟨k.tick r, k.store.running, none⟩ :=
      .single (.ticks running) (.tick running)
    refine ticked.trans ?_
    rw [running]
    have inv' := inv.moved (.tick rfl)
    exact Schedule.chain plain (fun j => .elapses _ j trivial) inv' running schedules
  | proceeds proceeds =>
    cases proceeds with
    | resumes running set => exact .refl
    | restarts idle pcb unspent =>
      rw [idle]
      exact .single (.restarts idle pcb) (.restart pcb)

end DisastrOS
