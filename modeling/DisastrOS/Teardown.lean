import Mathlib.Data.Set.Card
import DisastrOS.Releasing

/-! Descriptors and the processes that hold them.

A process is freed in two places. `internal_exit` tears its descriptors down
before it frees the block, `internal_wait` does not.
-/

set_option autoImplicit false

namespace DisastrOS

open Refinement

/-- Every descriptor that is allocated is in the list of a process that is. -/
def Scene.Held (c : Config) (k : Scene) : Prop :=
  ∀ d, k.Live c d → d.pool = .descriptor → ∃ p, k.place d = .linked (.descriptors p) ∧ k.Live c p ∧ p.pool = .pcb

section
variable {c : Config} {tag : Tag} {P P' : Phase}

theorem Move.descriptor_born (move : Move c tag P P') (inv : P.Coherent c) {d : Addr} (pool : d.pool = .descriptor)
    (alive : P'.scene.Live c d) :
    P.scene.Live c d ∨ ∃ r, P.runner = some r ∧ P'.scene.place d = .linked (.descriptors r) ∧ tag = .plain := by
  cases move with
  | drop open_ of ptr =>
    have freed := (Scene.live_release (inv.sound.kind open_)).mp alive
    exact .inl (by simpa [Scene.live_release_of_ne, pool] using freed.2)
  | @openDescriptor k ru go r o d' e resource mq runs des ptr of =>
    have other : d ≠ e := by
      rintro rfl
      cases (inv.sound.top ptr).1.symm.trans pool
    have born : ((k.alloc .descriptor).alloc .descriptor_ptr).Live c d := alive
    rcases (Scene.live_alloc inv.sound des).mp ((Scene.live_alloc_of_ne (by simp [pool])).mp born) with rfl | before
    · exact .inr ⟨r, runs, by simp [Scene.openDescriptor, other], rfl⟩
    · exact .inl before
  | _ =>
    left
    simpa [Scene.tick, Scene.enter, Scene.block, Scene.startTimer, Scene.dispatch, Scene.enqueue, Scene.wakeSleeper,
      Scene.rotate, Scene.reparent, Scene.bury, Scene.destroy, Scene.newQueue, Scene.resumeParent, Head.kind,
      Scene.newResource, Scene.finishRead, Scene.finishWrite, Scene.newChild, Scene.post,
      Scene.wakeWaiter, Scene.wakeWriter, Scene.reap, Scene.vanish, Scene.restart,
      Scene.live_release_of_ne, Scene.live_alloc_of_ne, pool] using alive

theorem Move.descriptor_stays (move : Move c tag P P') (inv : P.Coherent c) {d p : Addr}
    (alive : P'.scene.Live c d) (owner : P.scene.Live c p) (linked : P.scene.place d = .linked (.descriptors p)) :
    P'.scene.place d = .linked (.descriptors p) := by
  have pool : d.pool = .descriptor := inv.sound.kind linked
  have fresh {y : Addr} {o : Pool} (top : (P.scene.free o).head? = some y) : d ≠ y := inv.sound.ne_top top linked
  have apart {y : Addr} {h : Head} (there : P.scene.place y = .linked h) (other : h ≠ .descriptors p) : d ≠ y := by
    rintro rfl
    exact other (Place.linked.inj (there.symm.trans linked))
  have idle {r : Addr} (runs : P.runner = some r) : d ≠ r := by
    rintro rfl
    cases (inv.processes.not_waiting runs).symm.trans linked
  cases move with
  | user | enter | tick | answer | idle | leave | finishRead | finishWrite => exact linked
  | block calls => simpa [Scene.block, idle rfl] using linked
  | doze wake calls top => simpa [Scene.startTimer, Scene.block, idle rfl, fresh top] using linked
  | enqueue which ptr calls found reads writes =>
    simpa [Scene.enqueue, Scene.block, idle rfl, fresh ptr] using linked
  | dispatch ready | handOver ready => simpa [Scene.dispatch, apart (inv.sound.first ready) (by simp)] using linked
  | wakeSleeper first due names after =>
    obtain ⟨q, names', blocked⟩ := inv.timers.owner (inv.sound.first first)
    cases names.symm.trans names'
    simpa [Scene.wakeSleeper, apart (inv.sound.first first) (by simp), apart blocked.1 (by simp)] using linked
  | rotate ready => simpa [Scene.rotate, apart (inv.sound.first ready) (by simp), idle rfl] using linked
  | @fork k r p' e pcb ptr | @spawn k r p' e function argument pcb ptr =>
    have other : p ≠ p' := by
      rintro rfl
      exact (inv.sound.top pcb).2.2 owner
    simpa [Scene.newChild, fresh pcb, fresh ptr, other] using linked
  | @restart k p' pcb =>
    have other : p ≠ p' := by
      rintro rfl
      exact (inv.sound.top pcb).2.2 owner
    simpa [Scene.restart, fresh pcb, other] using linked
  | @reap k ru r e z result entry names zombie =>
    obtain ⟨⟨z', names', process, kind, -⟩, -⟩ := inv.tree.entry entry
    cases names.symm.trans names'
    have dead := inv.processes.zombie process kind zombie
    simpa [Scene.reap, apart entry (by simp), apart dead (by simp)] using linked
  | adopt first names init => simpa [Scene.reparent, apart (inv.sound.first first) (by simp)] using linked
  | bury parent childless => simpa [Scene.bury, idle rfl] using linked
  | resume zombie entry awaits =>
    have wrapper := entry_names inv (inv.sound.live zombie) (inv.sound.kind zombie) entry
    have blocked := AwaitsDeath.blocked inv awaits
    simpa [Scene.resumeParent, apart blocked.1 (by simp), apart wrapper.1 (by simp)] using linked
  | drop open_ of ptr =>
    have link := inv.descriptors.ptr_linked inv.sound open_ (inv.descriptors.of_open inv.sound open_ of) ptr
    -- the descriptor is still allocated, so it is another one that is dropped
    have freed := (Scene.live_release (inv.sound.kind open_)).mp alive
    simpa [Scene.dropDescriptor, freed.1, apart link (by simp)] using linked
  | vanish zombie => simpa [Scene.vanish, apart zombie (by simp)] using linked
  | newResource id type top => simpa [Scene.newResource, fresh top] using linked
  | newQueue absent top => simpa [Scene.newQueue, fresh top] using linked
  | openDescriptor runs des ptr of => simpa [Scene.openDescriptor, fresh des, fresh ptr] using linked
  | destroyResource there unused | destroyQueue there unused => simpa [Scene.destroy, apart there (by simp)] using linked
  | wakeReader first names =>
    obtain ⟨wrapper, blocked⟩ := WaitsIn.read.waiter_blocked inv first names
    simpa [Scene.wakeWaiter, apart wrapper (by simp), apart blocked.1 (by simp)] using linked
  | wakeWriter first names =>
    obtain ⟨wrapper, blocked⟩ := WaitsIn.write.waiter_blocked inv first names
    simpa [Scene.wakeWriter, Scene.wakeWaiter, apart wrapper (by simp), apart blocked.1 (by simp)] using linked
  | take there => simpa [apart there (by simp)] using linked
  | post write_buffer block fits => simpa [Scene.post, fresh block] using linked

theorem Move.process_stays (move : Move c tag P P') (inv : P.Coherent c) {p : Addr} (pool : p.pool = .pcb)
    (alive : P.scene.Live c p) :
    P'.scene.Live c p ∨ tag = .reaped p ∨ P.gone = some p ∧ P'.gone = none := by
  cases move with
  | @fork k r p' e pcb ptr | @spawn k r p' e function argument pcb ptr =>
    exact .inl ((Scene.live_newChild (r := r) (e := e) inv.sound pcb pool).mpr (.inr alive))
  | restart pcb => exact .inl ((Scene.live_alloc inv.sound pcb).mpr (.inr alive))
  | @reap k ru r e z result entry names zombie =>
    obtain ⟨⟨z', names', -, kind, -⟩, -⟩ := inv.tree.entry entry
    cases names.symm.trans names'
    by_cases same : p = z
    · exact .inr (.inl (by rw [same]))
    · exact .inl ((Scene.live_reap kind pool).mpr ⟨same, alive⟩)
  | @vanish k r q zombie =>
    by_cases same : p = r
    · exact .inr (.inr ⟨by rw [same], rfl⟩)
    · exact .inl ((Scene.live_release (inv.sound.kind zombie)).mpr ⟨same, alive⟩)
  | _ =>
    left
    simpa [Scene.tick, Scene.enter, Scene.block, Scene.startTimer, Scene.dispatch, Scene.enqueue, Scene.wakeSleeper,
      Scene.rotate, Scene.reparent, Scene.bury, Scene.destroy, Scene.newQueue, Scene.resumeParent, Head.kind,
      Scene.dropDescriptor, Scene.newResource, Scene.finishRead, Scene.finishWrite, Scene.post,
      Scene.openDescriptor, Scene.wakeWaiter, Scene.wakeWriter, Scene.live_release_of_ne,
      Scene.live_alloc_of_ne, pool] using alive

theorem Move.held (move : Move c tag P P') (inv : P.Coherent c) (stands : P.gone = none ∨ P'.gone ≠ none)
    (reaps : ∀ z, tag = .reaped z → P.scene.seq (.descriptors z) = []) (held : P.scene.Held c) :
    P'.scene.Held c := by
  intro d alive pool
  rcases move.descriptor_born inv pool alive with before | ⟨r, runs, linked, rfl⟩
  · obtain ⟨p, linked, owner, kind⟩ := held d before pool
    refine ⟨p, move.descriptor_stays inv alive owner linked, ?_, kind⟩
    -- of the two ways to free a process, `reaps` excludes one and `stands` the other
    rcases move.process_stays inv kind owner with still | reaped | ⟨gone, vanishes⟩
    · exact still
    · exact absurd (reaps p reaped) (List.ne_nil_of_mem (inv.sound.mem_seq.mpr linked))
    · rcases stands with none_gone | left
      · cases none_gone.symm.trans gone
      · exact absurd vanishes left
  · obtain ⟨owner, kind⟩ := inv.processes.runs runs
    refine ⟨r, linked, ?_, kind⟩
    rcases move.process_stays inv kind owner with still | reaped | ⟨gone, vanishes⟩
    · exact still
    · cases reaped
    · rcases stands with none_gone | left
      · cases none_gone.symm.trans gone
      · exact absurd vanishes left

theorem Move.gone (move : Move c tag P P') (other : ∀ r q, tag ≠ .resumed r q) :
    P'.gone = P.gone ∨ P'.gone = none := by
  cases move with
  | resume => exact absurd rfl (other _ _)
  | vanish => exact .inr rfl
  | _ => exact .inl rfl

end

/-- No process is reaped by a wait while it has descriptors. -/
def ReapedEmpty (m : Kernel) : Event → Prop
  | .syscall num args => num = DSOS_CALL_WAIT → ∀ z ∈ m.awaitedProcess args,
      (m.store.pcb z).status = .Zombie → m.list (.descriptors z) = []
  | _ => True

instance : ∀ m e, Decidable (ReapedEmpty m e)
  | m, .syscall num args => by
    unfold ReapedEmpty
    infer_instance
  | _, .user _ => inferInstanceAs (Decidable True)
  | _, .tick => inferInstanceAs (Decidable True)
  | _, .proceed => inferInstanceAs (Decidable True)

section
variable {c : Config} {m : Kernel} {k k' : Scene} {r : Addr} {e : Event}

theorem Does.reaps_empty {j : Scene} {z : Addr} (shows : Shows c m k) (empty : ReapedEmpty m e)
    (does : Does c k e j (.reaped z)) : j.seq (.descriptors z) = [] := by
  cases does with
  | @reaps r f z args runs found child zombie =>
    have asked : m.awaitedProcess args = some z := by
      simp [Kernel.awaitedProcess, shows.store, shows.awaited, runs, found, child]
    have none_left := empty rfl z (by rw [asked]; rfl) (by rw [shows.store]; exact zombie)
    rwa [shows.list] at none_left

theorem Exit.held (inv : Coherent c (some r) none k) (held : k.Held c) (exits : Exit r k (.done () k')) :
    k'.Held c := by
  have stored {i : Addr} {j : Scene} (init : k.store.init_pcb = some i) (reparents : Reparents r i k j) :
      Coherent c (some r) none j ∧ j.Held c ∧ Scene.Frame [.pcb_ptr] k j := by
    obtain ⟨chain, frame⟩ := Reparents.chain (A := fun _ tag => tag = .leaves r ∨ tag = .adopted) (.inl rfl)
      (fun _ _ => .inr rfl) inv init reparents
    obtain ⟨inv', held', -⟩ := chain.keeps (J := fun P => P.scene.Held c ∧ P.gone = none) inv
      (fun ok inv' move holds => by
        have kept := move.gone fun r q same => by
          subst same
          rcases ok with same | same <;> cases same
        refine ⟨move.held inv' (.inl holds.2) (fun z same => ?_) holds.1,
          kept.elim (fun same => same.trans holds.2) id⟩
        subst same
        rcases ok with same | same <;> cases same)
      ⟨held, rfl⟩
    exact ⟨inv', held', frame⟩
  cases exits with
  | @buried i q n j init reparents parent unawaited ready =>
    obtain ⟨inv', held', frame⟩ := stored init reparents
    have bury : Move c (.buried r q) ⟨j, some r, none⟩ ⟨j.bury r q, none, none⟩ :=
      .bury ((frame.parent r).trans parent) reparents.2
    have dispatch : Move c .plain ⟨j.bury r q, none, none⟩ ⟨_, some n, none⟩ := .dispatch ready
    exact dispatch.held (bury.coherent inv') (.inl rfl) (by simp) (bury.held inv' (.inl rfl) (by simp) held')
  | @resumes i q f j j' init reparents parent awaited entry drops closed =>
    obtain ⟨inv', held', frame⟩ := stored init reparents
    obtain ⟨bury, resume, zombie, -, -, -, inv₁, inv₂⟩ := reparents.resumption inv init parent awaited entry
    have resumed := resume.held inv₁ (.inl rfl) (by simp) (bury.held inv' (.inl rfl) (by simp) held')
    have chain := DropRound.chain (A := fun _ tag => tag = .plain) (fun _ => rfl) inv₂ drops
    -- the block of the process counts as gone, so its descriptors must not be left behind
    obtain ⟨inv₃, dropped⟩ := chain.keeps (J := fun P => P.gone ≠ none → P.scene.Held c) inv₂
      (fun ok inv' move holds gone => by
        subst ok
        have same := (move.gone (by simp)).resolve_right gone
        exact move.held inv' (.inr gone) (by simp) (holds (same ▸ gone))) fun _ => resumed
    have kind : r.pool = .pcb := inv₁.sound.kind zombie
    intro d alive pool
    have before : j'.Live c d := ((Scene.live_release kind).mp alive).2
    obtain ⟨p, linked, owner, process⟩ := dropped (by simp) d before pool
    have other : p ≠ r := by
      rintro rfl
      exact List.ne_nil_of_mem (inv₃.sound.mem_seq.mpr linked) closed
    have elsewhere : d ≠ r := by
      rintro rfl
      cases kind.symm.trans pool
    exact ⟨p, by simpa [Scene.vanish, elsewhere] using linked, (Scene.live_release kind).mpr ⟨other, owner⟩, process⟩

theorem Reacts.held (shows : Shows c m k) (inv : Coherent c k.store.running none k) (counted : Counted c k)
    (empty : ReapedEmpty m e) (held : k.Held c) (reacts : Reacts c k e (.done () k')) : k'.Held c := by
  by_cases exits : ∃ args, e = .syscall DSOS_CALL_EXIT args
  · obtain ⟨args, rfl⟩ := exits
    obtain ⟨r, runs⟩ := reacts.runs
    have enter : Move c (.enter r DSOS_CALL_EXIT) ⟨k, k.store.running, none⟩
        ⟨k.enter r DSOS_CALL_EXIT args, k.store.running, none⟩ := .enter DSOS_CALL_EXIT args runs
    have entered : Coherent c k.store.running none (k.enter r DSOS_CALL_EXIT args) := enter.coherent inv
    rw [runs] at entered
    exact (reacts.handler_ends rfl runs).held entered (enter.held inv (.inl rfl) nofun held)
  · refine ((reacts.chain inv counted).keeps (J := fun P => P.scene.Held c ∧ P.gone = none) inv
      (fun does inv' move holds => ?_) ⟨held, rfl⟩).2.1
    have kept := move.gone fun r q same => by
      subst same
      exact exits does.resumed.2
    refine ⟨move.held inv' (.inl holds.2) ?_ holds.1, kept.elim (fun same => same.trans holds.2) id⟩
    rintro z rfl
    exact does.reaps_empty shows empty

end

/-- The descriptor `d` and the pointer `e` name each other, and `d` is of the object
`o` and of nothing else. The object is in its global list, and `e` in the list of it. -/
structure Kernel.Refers (m : Kernel) (d e o : Addr) : Prop where
  ptr : (m.store.descriptor d).ptr = some e
  names : m.store.descriptor_ptr e = some d
  linked : e ∈ m.list (.descriptors_ptrs o)
  object : (m.store.descriptor d).mq = some o ∧ (m.store.descriptor d).resource = none ∧ o ∈ m.list .mq_list ∨
    (m.store.descriptor d).mq = none ∧ (m.store.descriptor d).resource = some o ∧ o ∈ m.list .resources_list

/-- The descriptor `d` is in the list of the process `p`, which is allocated. -/
def Kernel.Holds (c : Config) (m : Kernel) (p d : Addr) : Prop :=
  m.Allocated c p ∧ p.pool = .pcb ∧ d ∈ m.list (.descriptors p)

/-- The descriptors of the processes and the pointers of the objects correspond. -/
structure DescriptorsCoherent (c : Config) (m : Kernel) : Prop where
  descriptor : ∀ p d, m.Holds c p d → (m.store.descriptor d).pcb = some p ∧ ∃ e o, m.Refers d e o
  pointer : ∀ o, o ∈ m.list .mq_list ∨ o ∈ m.list .resources_list → ∀ e ∈ m.list (.descriptors_ptrs o),
    ∃ p d, m.Holds c p d ∧ m.Refers d e o
  fds : ∀ p, m.Allocated c p → p.pool = .pcb →
    ((m.list (.descriptors p)).map fun d => (m.store.descriptor d).fd).Nodup
  count : {d | m.Allocated c d ∧ d.pool = .descriptor}.ncard = {d | ∃ p, m.Holds c p d}.ncard
  /-- A queue that no process holds can be destroyed. -/
  destroyed : ∀ r args q, m.store.running = some r → m.queue (int32 (args 0)) = some q →
    (∀ p d, m.Holds c p d → (m.store.descriptor d).mq ≠ some q) →
    ∃ m', Step c m (.syscall DSOS_CALL_DESTROY_MQ args) m' ∧ (m'.store.pcb r).syscall_retvalue = 0 ∧
      q ∉ m'.list .mq_list

section
variable {c : Config} {m : Kernel} {k : Scene}

theorem Shows.refers (shows : Shows c m k) {d e o : Addr} (ptr : (k.store.descriptor d).ptr = some e)
    (names : k.store.descriptor_ptr e = some d) (linked : k.place e = .linked (.descriptors_ptrs o))
    (of : k.Of d o) : m.Refers d e o := by
  constructor
  · rwa [shows.store]
  · rwa [shows.store]
  · exact shows.mem_list.mpr linked
  · rw [shows.store]
    rcases of with ⟨mq, resource, listed⟩ | ⟨mq, resource, listed⟩
    · exact .inl ⟨mq, resource, shows.mem_list.mpr listed⟩
    · exact .inr ⟨mq, resource, shows.mem_list.mpr listed⟩

theorem Shows.held_descriptor (shows : Shows c m k) (held : k.Held c) {d : Addr} (alive : k.Live c d)
    (pool : d.pool = .descriptor) : ∃ p, m.Holds c p d := by
  obtain ⟨p, linked, owner, kind⟩ := held d alive pool
  exact ⟨p, (shows.allocated p).mpr owner, kind, shows.mem_list.mpr linked⟩

theorem Shows.held_pointer (shows : Shows c m k) (inv : Coherent c k.store.running none k) (held : k.Held c)
    {e o : Addr} (there : e ∈ m.list (.descriptors_ptrs o)) : ∃ p d, m.Holds c p d ∧ m.Refers d e o := by
  have linked := shows.mem_list.mp there
  obtain ⟨d, names, ptr, alive, pool⟩ := inv.descriptors.ptr (inv.sound.live linked) (inv.sound.kind linked)
  obtain ⟨e', o', ptr', names', linked', of⟩ := inv.descriptors.des alive pool
  obtain rfl : e = e' := Option.some.inj (ptr.symm.trans ptr')
  obtain rfl : o = o' := by
    cases linked.symm.trans linked'
    rfl
  obtain ⟨p, holds⟩ := shows.held_descriptor held alive pool
  exact ⟨p, d, holds, shows.refers ptr names linked of⟩

theorem Shows.destroys (shows : Shows c m k) (inv : Coherent c k.store.running none k) {r q : Addr}
    {args : Nat → Int} (runs : k.store.running = some r) (found : k.queue (int32 (args 0)) = some q)
    (closed : k.seq (.descriptors_ptrs q) = []) :
    ∃ m', Step c m (.syscall DSOS_CALL_DESTROY_MQ args) m' ∧ (m'.store.pcb r).syscall_retvalue = 0 ∧
      q ∉ m'.list .mq_list := by
  have finds : (k.enter r DSOS_CALL_DESTROY_MQ args).queue
      ((k.enter r DSOS_CALL_DESTROY_MQ args).intArg r 0) = some q := (queue_enter (by decide)).trans found
  have handler : Handles c DSOS_CALL_DESTROY_MQ = some DestroyMessageQueue := rfl
  rcases shows.handled inv runs handler args with
    ⟨m', k', step, shows', ends⟩ | ⟨stop, -, ends⟩ | ⟨k', ends, idle⟩ | ends
  · cases ends with
    | unknown absent => cases absent.symm.trans finds
    | used found' open_ =>
      obtain rfl : q = _ := Option.some.inj (finds.symm.trans found')
      exact absurd closed open_
    | destroyed found' closed' =>
      obtain rfl : q = _ := Option.some.inj (finds.symm.trans found')
      refine ⟨m', step, ?_, ?_⟩
      · rw [shows'.store]
        simp [Scene.destroy]
      · rw [shows'.mem_list]
        simp [Scene.destroy]
  · cases ends
  · have kept : k'.store.running = (k.enter r DSOS_CALL_DESTROY_MQ args).store.running := by
      cases ends <;> simp [Scene.destroy]
    rw [kept] at idle
    cases runs.symm.trans idle
  · cases ends

end

theorem descriptors_coherent (c : Constants) {m : Kernel} (reach : ReachableWith c.toConfig ReapedEmpty m) :
    DescriptorsCoherent c.toConfig m := by
  obtain ⟨k, shows, inv, counted, held⟩ := reach.shows (J := fun k => k.Held c.toConfig)
    (fun fresh d alive pool => by cases (fresh.live d).mp alive; cases pool)
    fun shows inv counted empty holds reacts => reacts.held shows inv counted empty holds
  constructor
  · rintro p d ⟨-, -, there⟩
    have linked := shows.mem_list.mp there
    obtain ⟨e, o, ptr, names, pointer, of⟩ :=
      inv.descriptors.des (inv.sound.live linked) (inv.sound.kind linked)
    refine ⟨?_, e, o, shows.refers ptr names pointer of⟩
    rw [shows.store]
    exact inv.descriptors.owner linked
  · intro o _ e there
    exact shows.held_pointer inv held there
  · intro p _ _
    rw [shows.list, shows.store]
    -- two descriptors of a process have two numbers
    refine List.Nodup.map_on (fun d there d' there' same => ?_) (inv.sound.nodup _)
    exact inv.descriptors.distinct (inv.sound.mem_seq.mp there) (inv.sound.mem_seq.mp there') same
  · congr 1
    ext d
    constructor
    · rintro ⟨alive, pool⟩
      exact shows.held_descriptor held ((shows.allocated d).mp alive) pool
    · rintro ⟨p, -, -, there⟩
      have linked := shows.mem_list.mp there
      exact ⟨(shows.allocated d).mpr (inv.sound.live linked), inv.sound.kind linked⟩
  · intro r args q runs found unused
    have running : k.store.running = some r := shows.store ▸ runs
    rw [shows.queue] at found
    -- a pointer left in the list would be that of an open descriptor
    have closed : k.seq (.descriptors_ptrs q) = [] := by
      rw [← shows.list, List.eq_nil_iff_forall_not_mem]
      intro e there
      obtain ⟨p, d, holds, refers⟩ := shows.held_pointer inv held there
      have listed := (queue_listed inv found).1
      rcases refers.object with ⟨mq, -⟩ | ⟨-, -, resource⟩
      · exact unused p d holds mq
      · cases listed.symm.trans (shows.mem_list.mp resource)
    exact shows.destroys inv running found closed

/-- A process has opened a queue, closed it and been reaped; the first one has the queue open. -/
def queue_shared : Observed ReapedEmpty fun m => m.list (.descriptors (block .pcb 0)) = [block .descriptor 0] ∧
    m.list (.descriptors_ptrs (block .message_queue 0)) = [block .descriptor_ptr 0] :=
  observe ReapedEmpty
    [.syscall DSOS_CALL_OPEN_MQ (arguments [5, 1]), .syscall DSOS_CALL_SPAWN (arguments [1, 2]), .tick,
      .syscall DSOS_CALL_OPEN_MQ (arguments [5, 0]), .syscall DSOS_CALL_CLOSE_MQ (arguments [0]),
      .syscall DSOS_CALL_EXIT (arguments [7]), .syscall DSOS_CALL_WAIT (arguments [0, 0])]
    (by decide +kernel)

theorem descriptors_coherent_shared : ∃ m, ReachableWith constants.toConfig ReapedEmpty m ∧
    m.list (.descriptors (block .pcb 0)) = [block .descriptor 0] ∧
    m.list (.descriptors_ptrs (block .message_queue 0)) = [block .descriptor_ptr 0] ∧
    DescriptorsCoherent constants.toConfig m := by
  obtain ⟨m, reach, descriptors, pointers⟩ := queue_shared
  exact ⟨m, reach, descriptors, pointers, descriptors_coherent constants reach⟩

/-- The process that opened a queue has exited, and has been reaped. -/
def opener_reaped : Observed always fun m => block .message_queue 0 ∈ m.list .mq_list ∧
    block .descriptor_ptr 0 ∈ m.list (.descriptors_ptrs (block .message_queue 0)) ∧
    m.store.descriptor_ptr (block .descriptor_ptr 0) = some (block .descriptor 0) ∧
    block .descriptor 0 ∈ m.list (.descriptors (block .pcb 1)) ∧
    (m.data.pools .pcb).free_list 1 ≠ DetachedIdx :=
  observe always
    [.syscall DSOS_CALL_SPAWN (arguments [1, 2]), .tick, .syscall DSOS_CALL_OPEN_MQ (arguments [5, 1]),
      .syscall DSOS_CALL_EXIT (arguments [7]), .syscall DSOS_CALL_WAIT (arguments [0, 0])]
    (by decide +kernel)

/-- The pointer in the list of the queue is of no process that is allocated. -/
theorem descriptor_orphaned : ¬ ∀ m, Reachable constants.toConfig m → DescriptorsCoherent constants.toConfig m := by
  intro every
  obtain ⟨m, reach, queue, pointer, names, there, freed⟩ := opener_reaped
  obtain ⟨k, shows, -⟩ := reach.reachable.shows
  obtain ⟨p, d, ⟨alive, -, held⟩, refers⟩ := (every m reach.reachable).pointer _ (.inl queue) _ pointer
  obtain rfl : d = block .descriptor 0 := Option.some.inj (refers.names.symm.trans names)
  have same := (shows.mem_list.mp held).symm.trans (shows.mem_list.mp there)
  simp only [Place.linked.injEq, Head.descriptors.injEq] at same
  subst same
  obtain ⟨i, -, same, detached⟩ := alive
  obtain rfl : 1 = i := block_injective .pcb same
  exact freed detached

end DisastrOS
