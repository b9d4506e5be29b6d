import DisastrOS.Lineage

/-! The exit status of a process reaches one wait, once. -/

set_option autoImplicit false

namespace DisastrOS

open Refinement
open Relation (ReflTransGen)

/-! ## Runs with their history -/

structure Transition where
  before : Kernel
  event : Event
  after : Kernel

/-- A run, with its transitions from the last to the first. -/
inductive History (c : Config) : List Transition → Kernel → Prop where
  | start {m : Kernel} (started : Started c m) : History c [] m
  | step {m m' : Kernel} {e : Event} {past : List Transition} (run : History c past m)
      (step : Step c m e m') : History c (⟨m, e, m'⟩ :: past) m'

namespace Transition

/-- The process `z`, of this pid, exits with the value `v`. -/
def Exits (t : Transition) (z : Addr) (pid v : Int) : Prop :=
  t.before.store.running = some z ∧ (t.before.store.pcb z).pid = pid ∧
    ∃ args, t.event = .syscall DSOS_CALL_EXIT args ∧ v = int32 (args 0)

/-- A wait of `p`, made now or earlier, ends with the answer `value`. -/
def WaitReturns (t : Transition) (p : Addr) (result value : Int) : Prop :=
  ((t.before.store.running = some p ∧
      ∃ args, t.event = .syscall DSOS_CALL_WAIT args ∧ result = args 1) ∨
    (p ∈ t.before.list .waiting_list ∧ (t.before.store.pcb p).syscall_num = DSOS_CALL_WAIT ∧
      result = (t.before.store.pcb p).syscall_args 1)) ∧
  p ∉ t.after.list .waiting_list ∧ (t.after.store.pcb p).syscall_retvalue = value

/-- The parent `p` gets the exit value `v` of `z`, which is gone afterwards. -/
structure Delivers (c : Config) (t : Transition) (p z : Addr) (result v : Int) : Prop where
  child : ∃ e ∈ t.before.list (.children p), t.before.store.pcb_ptr e = some z
  runs : t.after.store.running = some p
  memory : result ≠ 0 → readInt t.after.store.memory result = v
  elsewhere : ∀ address, (result = 0 ∨ address < result ∨ result + 4 ≤ address) →
    t.after.store.memory address = t.before.store.memory address
  allocated : t.before.Allocated c z
  freed : ¬ t.after.Allocated c z
  unlinked : ∀ h, z ∉ t.after.list h
  orphaned : ∀ q, ∀ e ∈ t.after.list (.children q), t.after.store.pcb_ptr e ≠ some z

end Transition

/-- The answer `pid` comes from one exit, and no other wait of the run has it. -/
def ReportedOnce (c : Config) (t : Transition) (past : List Transition) (p : Addr)
    (result pid : Int) : Prop :=
  ∃ z v, (∃ t' ∈ t :: past, t'.Exits z pid v) ∧ t.Delivers c p z result v ∧
    (∀ t' ∈ past, ∀ p' result', ¬ t'.WaitReturns p' result' pid) ∧
    ∀ p' result', t.WaitReturns p' result' pid → p' = p

/-! ## What the scenes show -/

structure Scene.Delivers (c : Config) (k k' : Scene) (p z : Addr) (result v : Int) : Prop where
  child : ∃ e, k.place e = .linked (.children p) ∧ k.store.pcb_ptr e = some z
  answer : (k'.store.pcb p).syscall_retvalue = (k.store.pcb z).pid
  runs : k'.store.running = some p
  memory : k'.store.memory =
    if result = 0 then k.store.memory else storeInt k.store.memory result v
  freed : ¬ k'.Live c z

section
variable {c : Config} {k k' : Scene} {p : Addr} {args : Nat → Int}

theorem Wait.delivers (inv : Coherent c k.store.running none k) (runs : k.store.running = some p)
    (ends : Wait p (k.enter p DSOS_CALL_WAIT args) (.done () k'))
    (back : k'.place p ≠ .linked .waiting_list) (answers : 0 ≤ (k'.store.pcb p).syscall_retvalue) :
    ∃ z, k.Delivers c k' p z (args 1) (k.store.pcb z).return_value ∧
      k.place z = .linked .zombie_list := by
  cases ends with
  | childless none =>
    simp [DSOS_EWAIT] at answers
  | @reaps e z found child zombie =>
    rw [awaited_enter] at found
    have linked := awaited_linked inv.sound found
    have names : k.store.pcb_ptr e = some z := child
    obtain ⟨⟨z', names', alive, pool, -⟩, -⟩ := inv.tree.entry linked
    cases names.symm.trans names'
    have dead : k.status z = .Zombie := by simpa [Scene.enter, Scene.status] using zombie
    have result : (k.enter p DSOS_CALL_WAIT args).arg p 1 = args 1 := arg_enter (by decide)
    refine ⟨z, ⟨⟨e, linked, names⟩, ?_, ?_, ?_, ?_⟩, inv.processes.zombie alive pool dead⟩
    · simp [Scene.reap, Scene.enter]
    · simpa [Scene.reap, Scene.enter] using runs
    · rw [result]
      simp [Scene.reap, Scene.enter]
    · rintro live
      exact ((Scene.live_reap pool pool).mp live).1 rfl
  | @blocks e z n found child alive ready =>
    -- a caller that is put to sleep is not back
    exfalso
    have other : p ≠ n := by
      rintro rfl
      have linked : k.place p = .linked .ready_list := inv.sound.first ready
      cases (inv.processes.not_waiting runs).symm.trans linked
    exact back (by simp [Scene.dispatch, Scene.block, other])

theorem ReparentRound.keeps {r i e q : Addr} {runner gone : Pointer} (inv : Coherent c runner gone k)
    (init : k.store.init_pcb = some i) (rounds : ReflTransGen (ReparentRound r i) k k') (other : q ≠ r)
    (linked : k.place e = .linked (.children q)) : k'.place e = .linked (.children q) := by
  induction rounds with
  | refl => exact linked
  | tail rounds round there =>
    obtain @⟨x, p, first, names⟩ := round
    have sound := (reparents_frame inv init rounds).2.2.sound
    have moved := sound.first first
    have elsewhere : e ≠ x := by
      rintro rfl
      exact other (by simpa using there.symm.trans moved)
    simpa [Scene.reparent, elsewhere] using there

theorem ReparentRound.same {r i : Addr} (rounds : ReflTransGen (ReparentRound r i) k k') :
    k'.store.memory = k.store.memory ∧ k'.store.pcb_ptr = k.store.pcb_ptr ∧
      ∀ x, (k'.store.pcb x).return_value = (k.store.pcb x).return_value := by
  induction rounds with
  | refl => exact ⟨rfl, rfl, fun _ => rfl⟩
  | tail _ round ih =>
    obtain ⟨memory, names, values⟩ := ih
    obtain ⟨first, child⟩ := round
    refine ⟨by simpa [Scene.reparent] using memory, by simpa [Scene.reparent] using names, fun x => ?_⟩
    simpa [Scene.reparent] using values x

/-- A parent that has the entry of the caller still has it when `internal_exit` looks for it. -/
theorem Reparents.listed {r i e q : Addr} (inv : Coherent c (some r) none k) (init : k.store.init_pcb = some i)
    (reparents : Reparents r i k k') (other : q ≠ r) (linked : k.place e = .linked (.children q))
    (names : k.store.pcb_ptr e = some r) : (k'.bury r q).entry q (k.store.pcb r).pid ≠ none := by
  have stored := inv.moved (.leave rfl)
  have frame := (reparents.coherent inv init).2
  have there := ReparentRound.keeps stored init reparents.1 other linked
  have kept := (reparents_frame stored init reparents.1).2.2.sound.mem_seq.mpr there
  have names' : k'.store.pcb_ptr e = some r := (congrFun (ReparentRound.same reparents.1).2.1 e).trans names
  intro absent
  refine List.find?_eq_none.mp absent e (by simpa [Scene.bury] using kept) ?_
  simpa [Scene.bury, names'] using frame.pid r

theorem parent_before {r i e q : Addr} (inv : Coherent c k.store.running none k) (lineage : k.Lineage)
    (runs : k.store.running = some r) (init : k.store.init_pcb = some i)
    (reparents : Reparents r i (k.enter r DSOS_CALL_EXIT args) k')
    (linked : k'.place e = .linked (.children q)) (names : k'.store.pcb_ptr e = some r)
    (parent : (k.store.pcb r).parent ≠ none) :
    k.place e = .linked (.children q) ∧ k.store.pcb_ptr e = some r := by
  obtain ⟨alive, pool⟩ := inv.processes.runs runs
  obtain ⟨e', q', there, names'⟩ := inv.tree.child alive pool parent (by simp)
  have apart : q' ≠ r := lineage.apart inv there names'
  have entered := inv.entered runs DSOS_CALL_EXIT args
  have stored := entered.moved (.leave rfl)
  have still := ReparentRound.keeps stored init reparents.1 apart there
  have same : k'.store.pcb_ptr = k.store.pcb_ptr := (ReparentRound.same reparents.1).2.1
  have unique := (reparents_frame stored init reparents.1).2.2.tree.unique linked still
  obtain rfl : e = e' := unique (by rw [names, same, names'])
  obtain rfl : q = q' := by simpa using linked.symm.trans still
  exact ⟨there, names'⟩

theorem Exit.delivers {r : Addr} (inv : Coherent c k.store.running none k) (lineage : k.Lineage)
    (runs : k.store.running = some r) (ends : Exit r (k.enter r DSOS_CALL_EXIT args) (.done () k'))
    (blocked : k.Blocked p DSOS_CALL_WAIT) (back : k'.place p ≠ .linked .waiting_list) :
    k.Delivers c k' p r ((k.store.pcb p).syscall_args 1) (int32 (args 0)) := by
  have entered := inv.entered runs DSOS_CALL_EXIT args
  have waits : (k.enter r DSOS_CALL_EXIT args).place p = .linked .waiting_list := blocked.1
  have unlinked : (k.enter r DSOS_CALL_EXIT args).place r = .unlinked := inv.processes.not_waiting runs
  have other : p ≠ r := by
    rintro rfl
    cases waits.symm.trans unlinked
  cases ends with
  | @buried i q n j init reparents parent unawaited ready =>
    -- the death wakes nobody, so the wait would go on
    exfalso
    obtain ⟨inv', frame⟩ := reparents.coherent entered init
    have still : j.place p = .linked .waiting_list :=
      (frame.place (by simp [show p.pool = .pcb from entered.sound.kind waits])).trans waits
    have next : p ≠ n := by
      rintro rfl
      cases still.symm.trans (inv'.sound.first ready)
    exact back (by simpa [Scene.dispatch, Scene.bury, other, next] using still)
  | @resumes i q e j j' init reparents parent awaited entry drops closed =>
    obtain ⟨inv', frame⟩ := reparents.coherent entered init
    obtain ⟨-, -, zombie, linked, names, -, buried, resumed⟩ := reparents.resumption entered init parent awaited entry
    have pool : p.pool = .pcb := entered.sound.kind waits
    have still : j.place p = .linked .waiting_list := (frame.place (by simp [pool])).trans waits
    obtain ⟨frame', store, -⟩ := drops_frame resumed drops
    have wrapper : e.pool = .pcb_ptr := buried.sound.kind linked
    have apart : e ≠ r ∧ e ≠ p := by
      constructor
      · rintro rfl
        cases zombie.symm.trans linked
      · rintro rfl
        cases pool.symm.trans wrapper
    -- the parent that is woken is the one whose wait ends
    have same : q = p := by
      by_contra differs
      have there : ((j.bury r q).resumeParent r q e).place p = .linked .waiting_list := by
        simpa [Scene.resumeParent, Scene.bury, other, Ne.symm differs, Ne.symm apart.2] using still
      have there' : j'.place p = .linked .waiting_list := (frame'.place (by simp [pool])).trans there
      exact back (by simpa [Scene.vanish, other] using there')
    subst same
    have linked : k.place e = .linked (.children q) ∧ k.store.pcb_ptr e = some r :=
      parent_before inv lineage runs init reparents (by simpa [Scene.bury, apart.1] using linked) names
        (by rw [show (k.store.pcb r).parent = some q by simpa [Scene.enter] using parent]; simp)
    obtain ⟨memory, -, values⟩ := ReparentRound.same reparents.1
    have value : (j.store.pcb r).return_value = int32 (args 0) := by
      have arg : (k.enter r DSOS_CALL_EXIT args).arg r 0 = args 0 := arg_enter (by decide)
      rw [values, ← arg]
      simp [Scene.arg]
    have old : j.store.memory = k.store.memory := memory
    have result : (j.store.pcb q).syscall_args = (k.store.pcb q).syscall_args := by
      simpa [Scene.enter, other] using frame.args q
    refine ⟨⟨e, linked⟩, ?_, rfl, ?_, fun live => ?_⟩
    · have pid : (j.store.pcb r).pid = (k.store.pcb r).pid := by simpa [Scene.enter] using frame.pid r
      simpa [Scene.vanish, store, Scene.resumeParent, Scene.bury, other, Ne.symm other] using pid
    · simp [Scene.vanish, store, Scene.resumeParent, Scene.bury, value, old, result]
    · exact ((Scene.live_release (buried.sound.kind zombie)).mp live).1 rfl

theorem Wakeup.by_child {runner gone : Pointer} {tag : Tag} (inv : Coherent c runner gone k)
    (blocked : k.Blocked p DSOS_CALL_WAIT) (wakeup : Wakeup k p tag) : ∃ r, tag = .resumed r p := by
  have calls := blocked.2
  cases wakeup with
  | timer first due owner =>
    obtain ⟨p', names, sleeps⟩ := inv.timers.owner (inv.sound.first first)
    cases owner.symm.trans names
    exact absurd (calls.symm.trans sleeps.2) (by decide)
  | message first names =>
    have reads := (WaitsIn.read.waiter_blocked inv first names).2
    exact absurd (calls.symm.trans reads.2) (by decide)
  | room first names =>
    have writes := (WaitsIn.write.waiter_blocked inv first names).2
    exact absurd (calls.symm.trans writes.2) (by decide)
  | child zombie entry awaits => exact ⟨_, rfl⟩

theorem Does.resumed {e : Event} {j : Scene} {r q : Addr} (does : Does c k e j (.resumed r q)) :
    k.store.running = some r ∧ ∃ args, e = .syscall DSOS_CALL_EXIT args := by
  cases does with
  | resumes args j runs parent awaits => exact ⟨runs, args, rfl⟩

theorem Does.buried {e : Event} {j : Scene} {r q : Addr} (does : Does c k e j (.buried r q)) :
    k.store.running = some r ∧ ∃ args, e = .syscall DSOS_CALL_EXIT args := by
  cases does with
  | buries args j runs parent => exact ⟨runs, args, rfl⟩

theorem Reacts.wait_ends {e : Event} (inv : Coherent c k.store.running none k) (counted : Counted c k)
    (lineage : k.Lineage) (blocked : k.Blocked p DSOS_CALL_WAIT)
    (reacts : Reacts c k e (.done () k')) (back : k'.place p ≠ .linked .waiting_list) :
    ∃ r args, k.store.running = some r ∧ e = .syscall DSOS_CALL_EXIT args ∧
      k.Delivers c k' p r ((k.store.pcb p).syscall_args 1) (int32 (args 0)) := by
  by_cases exits : ∃ r, k.store.running = some r ∧ ∃ args, e = .syscall DSOS_CALL_EXIT args
  · obtain ⟨r, runs, args, rfl⟩ := exits
    exact ⟨r, args, runs, rfl, Exit.delivers inv lineage runs (reacts.handler_ends rfl runs) blocked back⟩
  · -- no other event ends the wait, move by move
    have waits := ((reacts.chain inv counted).keeps (J := fun P => P.scene.Blocked p DSOS_CALL_WAIT) inv
      (fun does inv' move holds => ?_) blocked).2
    · exact absurd waits.1 back
    · rcases move.waits inv' holds.1 with wakeup | ⟨still, call, -⟩
      · obtain ⟨r, rfl⟩ := wakeup.by_child inv' holds
        exact absurd ⟨r, does.resumed⟩ exits
      · exact ⟨still, call.trans holds.2⟩

theorem Move.return_value {tag : Tag} {P P' : Phase} (move : Move c tag P P') (inv : P.Coherent c)
    {z : Addr} (dead : P.scene.place z = .linked .zombie_list) :
    (P'.scene.store.pcb z).return_value = (P.scene.store.pcb z).return_value := by
  cases move with
  | @fork k r p' e pcb ptr | @spawn k r p' e function argument pcb ptr =>
    have other : z ≠ p' := by
      rintro rfl
      exact (inv.sound.top pcb).2.2 (inv.sound.live dead)
    simp [Scene.newChild, other]
  | @restart k p' pcb =>
    have other : z ≠ p' := by
      rintro rfl
      exact (inv.sound.top pcb).2.2 (inv.sound.live dead)
    simp [Scene.restart, other]
  | @leave k ru go r runs =>
    have other : z ≠ r := by
      rintro rfl
      cases (inv.processes.not_waiting runs).symm.trans dead
    simp [other]
  | _ =>
    simp [Scene.tick, Scene.enter, Scene.block, Scene.startTimer, Scene.dispatch, Scene.enqueue, Scene.wakeSleeper,
      Scene.rotate, Scene.reparent, Scene.bury, Scene.destroy, Scene.newQueue, Scene.resumeParent,
      Scene.dropDescriptor, Scene.newResource, Scene.finishRead, Scene.finishWrite, Scene.post,
      Scene.openDescriptor, Scene.wakeWaiter, Scene.wakeWriter, Scene.reap, Scene.vanish]

/-- A zombie was one before, or it exits now. -/
theorem Reacts.zombie {e : Event} {z : Addr} (inv : Coherent c k.store.running none k)
    (counted : Counted c k) (reacts : Reacts c k e (.done () k'))
    (dead : k'.place z = .linked .zombie_list) :
    (k.place z = .linked .zombie_list ∧ (k'.store.pcb z).pid = (k.store.pcb z).pid ∧
      (k'.store.pcb z).return_value = (k.store.pcb z).return_value) ∨
    k.store.running = some z ∧ ∃ args, e = .syscall DSOS_CALL_EXIT args ∧
      (k'.store.pcb z).pid = (k.store.pcb z).pid ∧ (k'.store.pcb z).return_value = int32 (args 0) := by
  by_cases exits : k.store.running = some z ∧ ∃ args, e = .syscall DSOS_CALL_EXIT args
  · obtain ⟨runs, args, rfl⟩ := exits
    refine .inr ⟨runs, args, rfl, ?_⟩
    have entered := inv.entered runs DSOS_CALL_EXIT args
    have arg : (k.enter z DSOS_CALL_EXIT args).arg z 0 = args 0 := arg_enter (by decide)
    have ends : Exit z (k.enter z DSOS_CALL_EXIT args) (.done () k') := reacts.handler_ends rfl runs
    cases ends with
    | @buried i q n j init reparents parent unawaited ready =>
      obtain ⟨-, frame⟩ := reparents.coherent entered init
      have value := (ReparentRound.same reparents.1).2.2 z
      constructor
      · simpa [Scene.dispatch, Scene.bury, Scene.enter] using frame.pid z
      · rw [← arg]
        simpa [Scene.dispatch, Scene.bury, Scene.arg] using value
    | resumes init reparents parent awaited entry drops closed => simp [Scene.vanish] at dead
  · left
    -- no move of another event makes a zombie or changes one
    refine ((reacts.chain inv counted).keeps (J := fun P => P.scene.place z = .linked .zombie_list →
      k.place z = .linked .zombie_list ∧ (P.scene.store.pcb z).pid = (k.store.pcb z).pid ∧
        (P.scene.store.pcb z).return_value = (k.store.pcb z).return_value) inv
      (fun does inv' move holds there => ?_) fun there => ⟨there, rfl, rfl⟩).2 dead
    rcases move.joins inv' there with before | joins
    · obtain ⟨old, pid, value⟩ := holds before
      exact ⟨old, (move.pid inv' (inv'.sound.live before)).trans pid,
        (move.return_value inv' before).trans value⟩
    · cases joins with
      | dies runs parent childless => exact absurd does.buried exits

end

/-! ## Runs -/

section
variable {c : Constants} {past : List Transition} {t : Transition} {m : Kernel}

theorem History.reachable (run : History c.toConfig past m) : Reachable c.toConfig m := by
  induction run with
  | start started => exact .start started
  | step _ step reach => exact .step reach step

theorem Reachable.history (reach : Reachable c.toConfig m) : ∃ past, History c.toConfig past m := by
  induction reach with
  | start started => exact ⟨[], .start started⟩
  | step _ step ih =>
    obtain ⟨past, run⟩ := ih
    exact ⟨_, .step run step⟩

structure Records (c : Config) (past : List Transition) (k : Scene) : Prop where
  lineage : k.Lineage
  exited : ∀ z, k.place z = .linked .zombie_list →
    ∃ t ∈ past, t.Exits z (k.store.pcb z).pid (k.store.pcb z).return_value
  reported : ∀ t ∈ past, ∀ p result pid, 0 ≤ pid → t.WaitReturns p result pid → k.PidOf c pid none

theorem Shows.wait_returns {c : Config} {m m' : Kernel} {k k' : Scene} {e : Event} {p : Addr}
    {result pid : Int} (shows : Shows c m k) (inv : Coherent c k.store.running none k) (counted : Counted c k)
    (lineage : k.Lineage) (reacts : Reacts c k e (.done () k')) (shows' : Shows c m' k')
    (returns : Transition.WaitReturns ⟨m, e, m'⟩ p result pid) (answers : 0 ≤ pid) :
    ∃ z v, (k.store.pcb z).pid = pid ∧ k.Delivers c k' p z result v ∧
      (k.place z = .linked .zombie_list ∧ v = (k.store.pcb z).return_value ∨
        Transition.Exits ⟨m, e, m'⟩ z pid v) := by
  obtain ⟨called, back, value⟩ := returns
  have back' : k'.place p ≠ .linked .waiting_list := fun there => back (shows'.mem_list.mpr there)
  rw [shows'.store] at value
  rcases called with ⟨runs, args, rfl, rfl⟩ | ⟨waits, calls, rfl⟩
  · rw [shows.store] at runs
    have ends : Wait p (k.enter p DSOS_CALL_WAIT args) (.done () k') := reacts.handler_ends rfl runs
    obtain ⟨z, delivers, dead⟩ := ends.delivers inv runs back' (by rw [value]; exact answers)
    exact ⟨z, _, delivers.answer.symm.trans value, delivers, .inl ⟨dead, rfl⟩⟩
  · rw [shows.store] at calls ⊢
    have blocked : k.Blocked p DSOS_CALL_WAIT := ⟨shows.mem_list.mp waits, calls⟩
    obtain ⟨r, args, runs, rfl, delivers⟩ := reacts.wait_ends inv counted lineage blocked back'
    have same := delivers.answer.symm.trans value
    refine ⟨r, _, same, delivers, .inr ⟨?_, ?_, args, rfl, rfl⟩⟩
    · rw [shows.store, runs]
    · rw [shows.store, same]

theorem Shows.delivers {c : Config} {m m' : Kernel} {k k' : Scene} {e : Event} {p z : Addr}
    {result v : Int} (shows : Shows c m k) (inv : Coherent c k.store.running none k) (shows' : Shows c m' k')
    (inv' : Coherent c k'.store.running none k') (fits : int32 v = v)
    (delivers : k.Delivers c k' p z result v) : Transition.Delivers c ⟨m, e, m'⟩ p z result v := by
  have memory := delivers.memory
  rw [← shows.store, ← shows'.store] at memory
  obtain ⟨x, linked, names⟩ := delivers.child
  obtain ⟨⟨z', names', alive, -⟩, -⟩ := inv.tree.entry linked
  cases names.symm.trans names'
  refine ⟨⟨x, shows.mem_list.mpr linked, by rw [shows.store, names]⟩, ?_, fun given => ?_,
    fun address outside => ?_, ?_, ?_, fun h there => ?_, fun q e there names => ?_⟩
  · rw [shows'.store, delivers.runs]
  · rw [memory, if_neg given, readInt_storeInt, fits]
  · dsimp only
    rw [memory]
    split
    · rfl
    · exact storeInt_outside (outside.resolve_left ‹_›)
  · exact (shows.allocated z).mpr alive
  · exact fun live => delivers.freed ((shows'.allocated z).mp live)
  · exact delivers.freed (inv'.sound.live (shows'.mem_list.mp there))
  · obtain ⟨⟨z', names', alive', -⟩, -⟩ := inv'.tree.entry (shows'.mem_list.mp there)
    rw [shows'.store] at names
    cases names.symm.trans names'
    exact delivers.freed alive'

/-- The pid of a process that was reported is nobody's any more. -/
theorem Scene.Delivers.pidOf {c : Config} {k k' : Scene} {e : Event} {p z : Addr} {result v : Int}
    (inv : Coherent c k.store.running none k) (counted : Counted c k) (reacts : Reacts c k e (.done () k'))
    (delivers : k.Delivers c k' p z result v) : k'.PidOf c (k.store.pcb z).pid none := by
  obtain ⟨x, linked, names⟩ := delivers.child
  obtain ⟨⟨z', names', alive, pool, -⟩, -⟩ := inv.tree.entry linked
  cases names.symm.trans names'
  have before : k.PidOf c (k.store.pcb z).pid (some z) :=
    ⟨(inv.pids.range alive pool).2, fun live kind same =>
      congrArg some (inv.pids.distinct alive pool live kind same.symm)⟩
  have after := reacts.pidOf inv counted before
  refine ⟨after.given, fun live kind same => ?_⟩
  cases after.alone live kind same
  exact absurd live delivers.freed

theorem History.shows (run : History c.toConfig past m) :
    ∃ k, Shows c.toConfig m k ∧ Coherent c.toConfig k.store.running none k ∧ Counted c.toConfig k ∧
      Records c.toConfig past k := by
  induction run with
  | start started =>
    obtain ⟨k, shows, fresh⟩ := started.shows
    refine ⟨k, shows, fresh.running ▸ fresh.coherent, fresh.counted, fresh.lineage, fun z dead => ?_, ?_⟩
    · cases (fresh.place z).symm.trans dead
    · simp
  | @step m m' e past _ step ih =>
    obtain ⟨k, shows, inv, counted, records⟩ := ih
    obtain ⟨k', shows', reacts⟩ := step.reacts shows inv
    refine ⟨k', shows', (reacts.chain inv counted).coherent inv, reacts.counted inv counted,
      reacts.lineage inv counted records.lineage, fun z dead => ?_, fun t there p result pid answers returns => ?_⟩
    · rcases reacts.zombie inv counted dead with ⟨before, pid, value⟩ | ⟨runs, args, rfl, pid, value⟩
      · obtain ⟨t, there, exits⟩ := records.exited z before
        rw [pid, value]
        exact ⟨t, List.mem_cons_of_mem _ there, exits⟩
      · refine ⟨_, List.mem_cons_self .., ?_, ?_, args, rfl, value⟩
        · rw [shows.store, runs]
        · rw [shows.store, pid]
    · -- a wait that has returned spends the pid, and nobody gets a spent pid again
      rcases List.mem_cons.mp there with rfl | earlier
      · obtain ⟨z, v, same, delivers, -⟩ :=
          shows.wait_returns inv counted records.lineage reacts shows' returns answers
        rw [← same]
        exact delivers.pidOf inv counted reacts
      · exact reacts.pidOf inv counted (records.reported t earlier p result pid answers returns)

end

/-- The status of an exit reaches at most one wait, and it is the status that was given. -/
theorem exit_reported_once (c : Constants) {t : Transition} {past : List Transition} {m' : Kernel}
    (run : History c.toConfig (t :: past) m') {p : Addr} {result pid : Int}
    (returns : t.WaitReturns p result pid) (answers : 0 ≤ pid) :
    ReportedOnce c.toConfig t past p result pid := by
  cases run with
  | @step m _ e _ run step =>
    obtain ⟨k, shows, inv, counted, records⟩ := run.shows
    obtain ⟨k', shows', reacts⟩ := step.reacts shows inv
    have inv' := (reacts.chain inv counted).coherent inv
    obtain ⟨z, v, same, delivers, origin⟩ :=
      shows.wait_returns inv counted records.lineage reacts shows' returns answers
    obtain ⟨x, linked, names⟩ := delivers.child
    obtain ⟨⟨z', names', alive, pool, -⟩, -⟩ := inv.tree.entry linked
    cases names.symm.trans names'
    have exits : ∃ t' ∈ ⟨m, e, m'⟩ :: past, t'.Exits z pid v := by
      rcases origin with ⟨dead, rfl⟩ | exits
      · obtain ⟨t', there, exits⟩ := records.exited z dead
        exact ⟨t', List.mem_cons_of_mem _ there, same ▸ exits⟩
      · exact ⟨_, List.mem_cons_self .., exits⟩
    have fits : int32 v = v := by
      obtain ⟨-, -, -, -, args, -, rfl⟩ := exits
      simp [int32]
    refine ⟨z, v, exits, shows.delivers inv shows' inv' fits delivers, fun t' there p' result' returned => ?_,
      fun p' result' returned => ?_⟩
    · -- the pid of `z` would be nobody's
      have spent := records.reported t' there p' result' pid answers returned
      cases spent.alone alive pool same
    · obtain ⟨z', v', -, delivers', -⟩ :=
        shows.wait_returns inv counted records.lineage reacts shows' returned answers
      exact Option.some.inj (delivers'.runs.symm.trans delivers.runs)

def ChildReports (m : Kernel) : Prop :=
  ((trial_from constants.toConfig always [.syscall DSOS_CALL_EXIT (arguments [7])] m).any fun m' =>
    block .pcb 0 ∉ m'.list .waiting_list ∧ (m'.store.pcb (block .pcb 0)).syscall_retvalue = 1) = true

instance (m : Kernel) : Decidable (ChildReports m) := inferInstanceAs (Decidable (_ = _))

def parent_waits : Observed always fun m => block .pcb 0 ∈ m.list .waiting_list ∧
    (m.store.pcb (block .pcb 0)).syscall_num = DSOS_CALL_WAIT ∧
    (m.store.pcb (block .pcb 0)).syscall_args 1 = 100 ∧ ChildReports m :=
  observe always [.syscall DSOS_CALL_SPAWN (arguments [1, 2]), .syscall DSOS_CALL_WAIT (arguments [0, 100])]
    (by decide +kernel)

theorem exit_reported_once_seven : ∃ t past m, History constants.toConfig (t :: past) m ∧
    t.event = .syscall DSOS_CALL_EXIT (arguments [7]) ∧
    ReportedOnce constants.toConfig t past (block .pcb 0) 100 1 := by
  obtain ⟨m, reached, waits, calls, result, seen⟩ := parent_waits
  obtain ⟨m', step, back, value⟩ := trial_step seen
  obtain ⟨past, run⟩ := reached.reachable.history
  have returns : Transition.WaitReturns ⟨m, .syscall DSOS_CALL_EXIT (arguments [7]), m'⟩ (block .pcb 0) 100 1 :=
    ⟨.inr ⟨waits, calls, result.symm⟩, back, value⟩
  exact ⟨_, past, m', .step run step, rfl, exit_reported_once constants (.step run step) returns (by decide)⟩

end DisastrOS
