import DisastrOS.Trials

/-! Which child `internal_wait` selects. -/

set_option autoImplicit false

namespace DisastrOS

open Refinement

/-! ## What a call of `wait` may do -/

section
variable (c : Config) (m : Kernel) (r : Addr) (args : Nat → Int)

/-- The call returns `DSOS_EWAIT` and leaves all lists and pools unchanged. -/
def Refuses : Prop :=
  ∃ m', Step c m (.syscall DSOS_CALL_WAIT args) m' ∧ m'.store.running = some r ∧
    (m'.store.pcb r).syscall_retvalue = DSOS_EWAIT ∧ (∀ h, m'.list h = m.list h) ∧
    ∀ x, m'.Allocated c x ↔ m.Allocated c x

/-- The call reaps `z` and its entry `e`, and nothing else. -/
def Reaps (e z : Addr) : Prop :=
  ∃ m', Step c m (.syscall DSOS_CALL_WAIT args) m' ∧ m'.store.running = some r ∧
    (m'.store.pcb r).syscall_retvalue = (m.store.pcb z).pid ∧
    m'.store.memory = (if args 1 = 0 then m.store.memory
      else storeInt m.store.memory (args 1) (m.store.pcb z).return_value) ∧
    m'.list (.children r) = (m.list (.children r)).erase e ∧
    m'.list .zombie_list = (m.list .zombie_list).erase z ∧
    (∀ h, h ≠ .children r → h ≠ .zombie_list → m'.list h = m.list h) ∧
    ∀ x, m'.Allocated c x ↔ x ≠ e ∧ x ≠ z ∧ m.Allocated c x

/-- The call suspends the caller, and the first ready process runs. -/
def Blocks : Prop :=
  ∃ m' n, Step c m (.syscall DSOS_CALL_WAIT args) m' ∧ m'.store.running = some n ∧
    (m'.store.pcb r).status = .Waiting ∧ m'.list .waiting_list = m.list .waiting_list ++ [r] ∧
    m.list .ready_list = n :: m'.list .ready_list ∧
    (∀ h, h ≠ .waiting_list → h ≠ .ready_list → m'.list h = m.list h) ∧
    ∀ x, m'.Allocated c x ↔ m.Allocated c x

/-- The entry of the child that is asked for: the first zombie, or the one of that pid. -/
def Kernel.target : Pointer := (m.list (.children r)).find? (m.answers (int32 (args 0)))

/-- What `wait` should do. -/
def SelectsChild : Prop :=
  match m.target r args with
  | none =>
    if int32 (args 0) = 0 ∧ m.list (.children r) ≠ [] then Blocks c m r args else Refuses c m r args
  | some e => ∃ z, m.store.pcb_ptr e = some z ∧
      if (m.store.pcb z).status = .Zombie then Reaps c m r args e z else Blocks c m r args

/-- Some child is a zombie and is asked for. -/
def ZombieAskedFor : Prop :=
  ∃ e ∈ m.list (.children r), ∃ z, m.store.pcb_ptr e = some z ∧ (m.store.pcb z).status = .Zombie ∧
    (int32 (args 0) = 0 ∨ (m.store.pcb z).pid = int32 (args 0))

/-- The children are asked for by a pid that one of them has, and there is
somebody to run if the caller has to wait. -/
def WaitApplies : Prop :=
  (m.list (.children r) = [] ∨ int32 (args 0) = 0 ∨
    ∃ e ∈ m.list (.children r), ∃ z, m.store.pcb_ptr e = some z ∧ (m.store.pcb z).pid = int32 (args 0)) ∧
  (m.list (.children r) = [] ∨ ZombieAskedFor m r args ∨ m.list .ready_list ≠ [])

end

section
variable {c : Config} {m : Kernel} {k : Scene} {r : Addr} {args : Nat → Int}

theorem Shows.wait_outcome (shows : Shows c m k) (inv : Coherent c k.store.running none k)
    (runs : k.store.running = some r) :
    (∃ m' k', Step c m (.syscall DSOS_CALL_WAIT args) m' ∧ Shows c m' k' ∧
      Wait r (k.enter r DSOS_CALL_WAIT args) (.done () k')) ∨
      ∃ stop, Wait r (k.enter r DSOS_CALL_WAIT args) (.fault stop) := by
  rcases shows.outcome inv (.syscall DSOS_CALL_WAIT args) with
    ⟨m', k', step, shows', reacts⟩ | ⟨stop, -, reacts⟩ | loops
  · exact .inl ⟨m', k', step, shows', reacts.handler_ends rfl runs⟩
  · rcases reacts.handler_fault rfl runs with stops | ⟨k', ends, idle⟩
    · exact .inr ⟨stop, stops⟩
    · cases ends with
      | childless none => cases runs.symm.trans idle
      | reaps found child zombie =>
        have still : (k.enter r DSOS_CALL_WAIT args).store.running = none := by simpa [Scene.reap] using idle
        cases runs.symm.trans still
      | blocks found child alive ready => cases idle
  · cases loops.handler_loops rfl runs

theorem Shows.target (shows : Shows c m k) :
    m.target r args = (k.seq (.children r)).find? (k.answers (int32 (args 0))) := by
  have answers : m.answers (int32 (args 0)) = k.answers (int32 (args 0)) := by
    funext e
    cases names : k.store.pcb_ptr e <;>
      simp only [Kernel.answers, Scene.answers, shows.store, names]
  rw [Kernel.target, shows.list, answers]

theorem Shows.refuses {m' : Kernel} (shows : Shows c m k) (runs : k.store.running = some r)
    (step : Step c m (.syscall DSOS_CALL_WAIT args) m')
    (shows' : Shows c m' ((k.enter r DSOS_CALL_WAIT args).answer r DSOS_EWAIT)) : Refuses c m r args := by
  refine ⟨m', step, ?_, ?_, fun h => ?_, fun x => ?_⟩
  · rw [shows'.store]
    exact runs
  · rw [shows'.store]
    simp
  · rw [shows'.list, shows.list]
    rfl
  · rw [shows'.allocated, shows.allocated]
    rfl

theorem Shows.reaps {m' : Kernel} {e z : Addr} (shows : Shows c m k) (runs : k.store.running = some r)
    (step : Step c m (.syscall DSOS_CALL_WAIT args) m') (entry : e.pool = .pcb_ptr) (pool : z.pool = .pcb)
    (shows' : Shows c m' ((k.enter r DSOS_CALL_WAIT args).reap r e z (args 1))) : Reaps c m r args e z := by
  refine ⟨m', step, ?_, ?_, ?_, ?_, ?_, fun h children zombies => ?_, fun x => ?_⟩
  · rw [shows'.store]
    simpa [Scene.reap, Scene.enter] using runs
  · rw [shows'.store, shows.store]
    simp [Scene.reap, Scene.enter]
  · rw [shows'.store, shows.store]
    simp [Scene.reap, Scene.enter]
  · rw [shows'.list, shows.list]
    simp [Scene.reap]
  · rw [shows'.list, shows.list]
    simp [Scene.reap]
  · rw [shows'.list, shows.list]
    simp [Scene.reap, children, zombies]
  · rw [shows'.allocated, shows.allocated]
    have entered : (k.enter r DSOS_CALL_WAIT args).Live c x ↔ k.Live c x := Iff.rfl
    simp only [Scene.reap, Scene.live_release pool, Scene.live_report, Scene.live_answer,
      Scene.live_detach, Scene.live_release entry, entered]
    tauto

theorem Shows.blocks {m' : Kernel} {n : Addr} (shows : Shows c m k) (unlinked : k.place r = .unlinked)
    (step : Step c m (.syscall DSOS_CALL_WAIT args) m') (sound : k.Sound c)
    (ready : (k.seq .ready_list).head? = some n)
    (shows' : Shows c m' (((k.enter r DSOS_CALL_WAIT args).block r).dispatch n id)) :
    Blocks c m r args := by
  have other : r ≠ n := by
    rintro rfl
    cases unlinked.symm.trans (sound.first ready)
  obtain ⟨rest, first⟩ := List.head?_eq_some_iff.mp ready
  refine ⟨m', n, step, ?_, ?_, ?_, ?_, fun h waiting readies => ?_, fun x => ?_⟩
  · rw [shows'.store]
    rfl
  · rw [shows'.store]
    simp [Scene.dispatch, Scene.block]
  · rw [shows'.list, shows.list]
    simp [Scene.dispatch, Scene.block]
  · rw [shows'.list, shows.list]
    simp [Scene.dispatch, Scene.block, first]
  · rw [shows'.list, shows.list]
    simp [Scene.dispatch, Scene.block, waiting, readies]
  · rw [shows'.allocated, shows.allocated]
    simp [Scene.dispatch, Scene.block, Scene.Live]

theorem Scene.answers_iff {pid : Int} {e z : Addr} (names : k.store.pcb_ptr e = some z) :
    k.answers pid e = true ↔
      pid = 0 ∧ (k.store.pcb z).status = .Zombie ∨ pid ≠ 0 ∧ (k.store.pcb z).pid = pid := by
  simp [Scene.answers, names]

theorem target_some {pid : Int} {e z : Addr} (there : e ∈ k.seq (.children r))
    (names : k.store.pcb_ptr e = some z)
    (asked : pid = 0 ∧ (k.store.pcb z).status = .Zombie ∨ pid ≠ 0 ∧ (k.store.pcb z).pid = pid) :
    ∃ e', (k.seq (.children r)).find? (k.answers pid) = some e' := by
  have found : ((k.seq (.children r)).find? (k.answers pid)).isSome :=
    List.find?_isSome.mpr ⟨e, there, (Scene.answers_iff names).mpr asked⟩
  exact Option.isSome_iff_exists.mp found

theorem Refuses.childless (shows : Shows c m k) (inv : Coherent c k.store.running none k)
    (runs : k.store.running = some r) (refuses : Refuses c m r args) : k.seq (.children r) = [] := by
  obtain ⟨m', step, -, -, lists, -⟩ := refuses
  obtain ⟨k', shows', reacts⟩ := step.reacts shows inv
  have same (h : Head) : k'.seq h = k.seq h := by rw [← shows'.list, lists, shows.list]
  have ends : Wait r (k.enter r DSOS_CALL_WAIT args) (.done () k') := reacts.handler_ends rfl runs
  cases ends with
  | childless none => exact none
  | @reaps e z found child zombie =>
    have there : e ∈ k.seq (.children r) := inv.sound.mem_seq.mpr
      (awaited_linked (r := r) inv.sound (by rwa [awaited_enter] at found))
    have shrunk : (k.seq (.children r)).erase e = k.seq (.children r) := by
      simpa [Scene.reap] using same (.children r)
    have length := congrArg List.length shrunk
    rw [List.length_erase_of_mem there] at length
    have some_child := List.length_pos_of_mem there
    omega
  | blocks found child alive ready =>
    have grown : k.seq .waiting_list ++ [r] = k.seq .waiting_list := by
      simpa [Scene.dispatch, Scene.block] using same .waiting_list
    exact absurd grown (by simp)

theorem Shows.nothing_found (shows : Shows c m k) (applies : WaitApplies m r args)
    (children : k.seq (.children r) ≠ [])
    (nothing : (k.seq (.children r)).find? (k.answers (int32 (args 0))) = none) :
    int32 (args 0) = 0 := by
  rcases applies.1 with none | any | ⟨e, there, z, names, pid⟩
  · exact absurd ((shows.list _).symm.trans none) children
  · exact any
  · by_contra named
    rw [shows.list] at there
    rw [shows.store] at names pid
    obtain ⟨e', found⟩ := target_some there names (.inr ⟨named, pid⟩)
    cases nothing.symm.trans found

theorem ZombieAskedFor.found (shows : Shows c m k) (inv : Coherent c k.store.running none k)
    (asked : ZombieAskedFor m r args) : ∃ e z, (k.seq (.children r)).find? (k.answers (int32 (args 0))) = some e ∧
      k.store.pcb_ptr e = some z ∧ (k.store.pcb z).status = .Zombie := by
  obtain ⟨e, there, z, names, zombie, asks⟩ := asked
  rw [shows.list] at there
  rw [shows.store] at names zombie asks
  have asks' : int32 (args 0) = 0 ∧ (k.store.pcb z).status = .Zombie ∨
      int32 (args 0) ≠ 0 ∧ (k.store.pcb z).pid = int32 (args 0) := by tauto
  obtain ⟨e', found⟩ := target_some there names asks'
  have listed : e' ∈ k.seq (.children r) := List.mem_of_find?_eq_some found
  obtain ⟨⟨z', names', alive', pool', -⟩, -⟩ := inv.tree.entry (inv.sound.mem_seq.mp listed)
  refine ⟨e', z', found, names', ?_⟩
  rcases (Scene.answers_iff names').mp (List.find?_some found) with ⟨-, dead⟩ | ⟨named, pid'⟩
  · exact dead
  -- no two processes have the pid that is asked for
  · obtain ⟨⟨z₀, names₀, alive, pool, -⟩, -⟩ := inv.tree.entry (inv.sound.mem_seq.mp there)
    cases names.symm.trans names₀
    have pid : (k.store.pcb z).pid = int32 (args 0) := asks.resolve_left named
    have same := inv.pids.distinct alive' pool' alive pool (pid'.trans pid.symm)
    rwa [same]

theorem Shows.applies (shows : Shows c m k) (inv : Coherent c k.store.running none k)
    (runs : k.store.running = some r) (selects : SelectsChild c m r args) : WaitApplies m r args := by
  by_cases children : k.seq (.children r) = []
  · have none := (shows.list (.children r)).trans children
    exact ⟨.inl none, .inl none⟩
  have keeps : ¬ Refuses c m r args := fun refuses => children (refuses.childless shows inv runs)
  have some_ready (blocks : Blocks c m r args) : m.list .ready_list ≠ [] := by
    obtain ⟨m', n, -, -, -, -, first, -⟩ := blocks
    simp [first]
  rw [SelectsChild, shows.target] at selects
  cases target : (k.seq (.children r)).find? (k.answers (int32 (args 0))) with
  | none =>
    simp only [target] at selects
    split at selects
    next any => exact ⟨.inr (.inl any.1), .inr (.inr (some_ready selects))⟩
    next => exact absurd selects keeps
  | some e =>
    simp only [target] at selects
    obtain ⟨z, names, selects⟩ := selects
    have there := List.mem_of_find?_eq_some target
    rw [← shows.list] at there
    have answers := (Scene.answers_iff (shows.store ▸ names)).mp (List.find?_some target)
    rw [← shows.store] at answers
    refine ⟨?_, ?_⟩
    · rcases answers with ⟨any, -⟩ | ⟨-, pid⟩
      · exact .inr (.inl any)
      · exact .inr (.inr ⟨e, there, z, names, pid⟩)
    · split at selects
      next zombie => exact .inr (.inl ⟨e, there, z, names, zombie, by tauto⟩)
      next => exact .inr (.inr (some_ready selects))

theorem Shows.selects (shows : Shows c m k) (inv : Coherent c k.store.running none k)
    (runs : k.store.running = some r) (applies : WaitApplies m r args) : SelectsChild c m r args := by
  have asks : (k.enter r DSOS_CALL_WAIT args).intArg r 0 = int32 (args 0) := intArg_enter (by decide)
  have result : (k.enter r DSOS_CALL_WAIT args).arg r 1 = args 1 := arg_enter (by decide)
  have some_child {e : Addr} (found : k.awaited r (int32 (args 0)) = some e) :
      k.place e = .linked (.children r) ∧ k.seq (.children r) ≠ [] := by
    have linked := awaited_linked inv.sound found
    exact ⟨linked, List.ne_nil_of_mem (inv.sound.mem_seq.mpr linked)⟩
  rw [SelectsChild, shows.target, shows.list, shows.store]
  rcases shows.wait_outcome inv runs with ⟨m', k', step, shows', ends⟩ | ⟨stop, stops⟩
  · cases ends with
    | childless none =>
      have none : k.seq (.children r) = [] := none
      simp only [none, List.find?_nil, ne_eq, not_true_eq_false, and_false, if_false]
      exact shows.refuses runs step shows'
    | @reaps e z found child zombie =>
      rw [asks, awaited_enter] at found
      obtain ⟨linked, children⟩ := some_child found
      have names : k.store.pcb_ptr e = some z := child
      have dead : (k.store.pcb z).status = .Zombie := by simpa [Scene.enter] using zombie
      obtain ⟨⟨z', names', alive, pool, -⟩, -⟩ := inv.tree.entry linked
      cases names.symm.trans names'
      rw [result] at shows'
      have reaps := shows.reaps runs step (inv.sound.kind linked) pool shows'
      cases target : (k.seq (.children r)).find? (k.answers (int32 (args 0))) with
      | none =>
        -- the last child is left over from the scan, and it is a zombie that no call asks for
        have any := shows.nothing_found applies children target
        have asked : ZombieAskedFor m r args := by
          refine ⟨e, ?_, z, ?_, ?_, .inl any⟩
          · exact shows.mem_list.mpr linked
          · rw [shows.store, names]
          · rw [shows.store, dead]
        obtain ⟨e', -, found', -⟩ := asked.found shows inv
        cases target.symm.trans found'
      | some e' =>
        have same : e' = e := by simpa [Scene.awaited, target] using found
        exact ⟨z, by rwa [same], by rwa [if_pos dead, same]⟩
    | @blocks e z n found child alive ready =>
      rw [asks, awaited_enter] at found
      obtain ⟨linked, children⟩ := some_child found
      have names : k.store.pcb_ptr e = some z := child
      have living : (k.store.pcb z).status ≠ .Zombie := by simpa [Scene.enter] using alive
      have blocks := shows.blocks (inv.processes.not_waiting runs) step inv.sound ready shows'
      cases target : (k.seq (.children r)).find? (k.answers (int32 (args 0))) with
      | none => exact (if_pos ⟨shows.nothing_found applies children target, children⟩).mpr blocks
      | some e' =>
        have same : e' = e := by simpa [Scene.awaited, target] using found
        exact ⟨z, by rwa [same], by rwa [if_neg living]⟩
  · cases stops with
    | @stuck e z found child alive idle =>
      rw [asks, awaited_enter] at found
      obtain ⟨linked, children⟩ := some_child found
      rcases applies.2 with none | asked | some_ready
      · exact absurd ((shows.list _).symm.trans none) children
      · obtain ⟨e', z', target, names, dead⟩ := asked.found shows inv
        have same : e' = e := by simpa [Scene.awaited, target] using found
        have names' : k.store.pcb_ptr e = some z := child
        cases (same ▸ names).symm.trans names'
        exact absurd dead (by simpa [Scene.enter] using alive)
      · exact absurd ((shows.list _).trans idle) some_ready

end

/-- `wait` selects the right child exactly when it applies. -/
theorem wait_selects (c : Constants) {m : Kernel} (reach : Reachable c.toConfig m) {r : Addr}
    (runs : m.store.running = some r) (args : Nat → Int) :
    SelectsChild c.toConfig m r args ↔ WaitApplies m r args := by
  obtain ⟨k, shows, inv, -⟩ := reach.shows
  rw [shows.store] at runs
  constructor
  · intro selects
    exact shows.applies inv runs selects
  · intro applies
    exact shows.selects inv runs applies

/-- The first process has one child, of pid 1, which is ready. -/
def parent_of_one : Observed always fun m => m.store.running = some (block .pcb 0) ∧
    m.list (.children (block .pcb 0)) = [block .pcb_ptr 0] ∧ m.list .ready_list = [block .pcb 1] ∧
    m.store.pcb_ptr (block .pcb_ptr 0) = some (block .pcb 1) ∧ (m.store.pcb (block .pcb 1)).pid = 1 :=
  observe always [.syscall DSOS_CALL_SPAWN (arguments [1, 2])] (by decide +kernel)

theorem wait_selects_any : ∃ m, Reachable constants.toConfig m ∧
    SelectsChild constants.toConfig m (block .pcb 0) (arguments [0, 0]) := by
  obtain ⟨m, reached, runs, -, ready, -⟩ := parent_of_one
  have any : int32 (arguments [0, 0] 0) = 0 := by decide
  have applies : WaitApplies m (block .pcb 0) (arguments [0, 0]) :=
    ⟨.inr (.inl any), .inr (.inr (by simp [ready]))⟩
  exact ⟨m, reached.reachable, (wait_selects constants reached.reachable runs _).mpr applies⟩

/-- A wait for the pid 7, which no child has, is not refused. -/
theorem wait_takes_another : ¬ ∀ m, Reachable constants.toConfig m → ∀ r, m.store.running = some r →
    ∀ args : Nat → Int, SelectsChild constants.toConfig m r args := by
  intro every
  obtain ⟨m, reached, runs, children, -, names, pid⟩ := parent_of_one
  obtain ⟨k, shows, inv, -⟩ := reached.reachable.shows
  have selects := every m reached.reachable _ runs (arguments [7, 0])
  have applies := shows.applies inv (shows.store ▸ runs) selects
  rcases applies.1 with none | any | ⟨e, there, z, names', foreign⟩
  · cases children.symm.trans none
  · exact absurd any (by decide)
  · rw [children, List.mem_singleton] at there
    subst there
    cases names.symm.trans names'
    exact absurd (pid.symm.trans foreign) (by decide)

end DisastrOS
