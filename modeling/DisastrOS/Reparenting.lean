import DisastrOS.Dispatch

/-! The loop of `internal_exit` that gives the children of the dying process to `init`. -/

set_option autoImplicit false

namespace DisastrOS

open Refinement

def Kernel.exiting (m : Kernel) (r : Addr) (args : Nat → Int) : Kernel :=
  { m with
    store := (m.store.setPCB r fun p =>
      { p with
        syscall_args := storeArgs p.syscall_args args (syscall_numarg DSOS_CALL_EXIT)
        syscall_num := DSOS_CALL_EXIT
        cpu_state := .swapped p.pid }).setPCB r fun p =>
          { p with return_value := int32 (p.syscall_args 0) } }

def reparent_loop (running init : Addr) : Code Unit := .iterate (fun _ => reparent running init) ()

/-- The loop has moved every child after one round for each, and then ends. -/
def ReparentsAll (m : Kernel) (r i : Addr) : Prop :=
  ∃ m' : Kernel, (reparent_loop r i).run heap ((m.list (.children r)).length + 1) m = .done () m' ∧
    (reparent_loop r i).run heap (m.list (.children r)).length m = .exhausted ∧
    m'.list (.children r) = [] ∧
    m'.list (.children i) = m.list (.children i) ++ m.list (.children r) ∧
    ∀ e ∈ m.list (.children r), ∀ p, m.store.pcb_ptr e = some p →
      (m'.store.pcb p).signals =
        (m.store.pcb p).signals ||| (DSOS_SIGHUP &&& (m.store.pcb p).signals_mask)

section
variable {c : Config} {m : Kernel} {k : Scene} {r i : Addr} {args : Nat → Int}

def exit_rest (running : Addr) : Code Unit := do
  setPCB running fun p => { p with status := .Zombie }
  List_append .zombie_list (some running)
  let parent ← deref .pcb (← get fun s => (s.pcb running).parent)
  setPCB parent fun p => { p with signals := p.signals ||| (DSOS_SIGCHLD &&& p.signals_mask) }
  let p ← get fun s => s.pcb parent
  let pid ← get fun s => (s.pcb running).pid
  if p.status = .Waiting ∧ p.syscall_num = DSOS_CALL_WAIT ∧
      (p.syscall_args 0 = 0 ∨ p.syscall_args 0 = pid) then
    let parent ← List_detach .waiting_list (some parent)
    setPCB parent fun p => { p with status := .Running }
    let self_in_parent ← PCBPtr_byPID (.children parent) pid
    let _ ← List_detach (.children parent) self_in_parent
    setPCB parent fun p => { p with syscall_retvalue := pid }
    storeResult (p.syscall_args 1) (← get fun s => (s.pcb running).return_value)
    .iterate (drop_timer running) (← first .timer_list)
    .iterate (fun _ => drop_descriptor running) ()
    let suppressed_item ← List_detach .zombie_list (some running)
    let _ ← PCB_free suppressed_item
    modify fun s => { s with running := some parent }
  else run_next fun _ => .Running

theorem internal_exit_eq :
    internal_exit = (do
      let running ← self
      setPCB running fun p => { p with return_value := int32 (p.syscall_args 0) }
      match ← get (·.init_pcb) with
      | none => .fail .assertion
      | some init => do
        reparent_loop running init
        exit_rest running) := rfl

theorem exit_reaches_loop (runs : m.store.running = some r) (init : m.store.init_pcb = some i) (fuel : Nat) :
    ((Event.syscall DSOS_CALL_EXIT args).code c).run heap fuel m =
      ((reparent_loop r i).run heap fuel (m.exiting r args)).bind fun _ m' =>
        (do
          exit_rest r
          log).run heap fuel m' := by
  have inside : 0 ≤ DSOS_CALL_EXIT ∧ DSOS_CALL_EXIT < DSOS_MAX_SYSCALLS := by decide
  have running : (m.entered r DSOS_CALL_EXIT args).store.running = some r := entered_running runs
  have first : (m.entered r DSOS_CALL_EXIT args).store.init_pcb = some i := init
  have call : ((m.entered r DSOS_CALL_EXIT args).store.pcb r).syscall_num = DSOS_CALL_EXIT := by
    simp [Kernel.entered, Store.entered]
  have exits : internal_exit.run heap fuel (m.entered r DSOS_CALL_EXIT args) =
      ((reparent_loop r i).run heap fuel (m.exiting r args)).bind fun _ m' => (exit_rest r).run heap fuel m' := by
    simp only [internal_exit_eq, Program.run_bind, self_run running, setPCB_run, get_run, Outcome.bind,
      Store.init_pcb_setPCB, first]
    rfl
  simp only [Event.code, Program.run_bind, syscall_traps runs inside, trap_handled running call inside rfl, exits,
    Outcome.bind_assoc]
  -- the answer of the call is thrown away
  congr
  funext _ m'
  congr
  funext _ m''
  cases log.run heap fuel m'' <;> rfl

theorem Shows.reparent_round {runner gone : Pointer} (shows : Shows c m k) (inv : Coherent c runner gone k)
    (fuel : Nat) :
    (k.seq (.children r) = [] → ∃ m' : Kernel, (reparent r i).run heap fuel m = .done (.inr ()) m' ∧
      Shows c m' k) ∧
    ∀ e p, (k.seq (.children r)).head? = some e → k.store.pcb_ptr e = some p →
      ∃ m' : Kernel, (reparent r i).run heap fuel m = .done (.inl ()) m' ∧ Shows c m' (k.reparent r i e p) := by
  have round : k.wp c fuel (reparent r i) (fun answer k' =>
      (answer = .inr () ∧ k.seq (.children r) = [] ∧ k' = k) ∨
        ∃ e p, answer = .inl () ∧ (k.seq (.children r)).head? = some e ∧ k.store.pcb_ptr e = some p ∧
          k' = k.reparent r i e p) fun _ => False :=
    wp_reparent inv (fun empty => .inl ⟨rfl, empty, rfl⟩)
      fun e p first names => .inr ⟨e, p, rfl, first, names, rfl⟩
  obtain ⟨answer, m', run, k', shows', ⟨rfl, empty, rfl⟩ | ⟨e, p, rfl, first, names, rfl⟩⟩ := (shows.sat round).done
  · exact ⟨fun _ => ⟨m', run, shows'⟩, fun e p first _ => by simp [empty] at first⟩
  · refine ⟨fun empty => by simp [empty] at first, fun e' p' first' names' => ?_⟩
    cases first.symm.trans first'
    cases names.symm.trans names'
    exact ⟨m', run, shows'⟩

theorem Shows.reparents {runner gone : Pointer} (fuel n : Nat) (shows : Shows c m k)
    (inv : Coherent c runner gone k) (init : k.store.init_pcb = some i) (other : r ≠ i)
    (length : (k.seq (.children r)).length = n) :
    ∃ (m' : Kernel) (k' : Scene),
      rounds (fun _ state => (reparent r i).run heap fuel state) (n + 1) () m = .done () m' ∧
      rounds (fun _ state => (reparent r i).run heap fuel state) n () m = .exhausted ∧
      Shows c m' k' ∧ k'.seq (.children r) = [] ∧
      k'.seq (.children i) = k.seq (.children i) ++ k.seq (.children r) ∧
      (∀ p, (∀ e ∈ k.seq (.children r), k.store.pcb_ptr e ≠ some p) →
        (k'.store.pcb p).signals = (k.store.pcb p).signals) ∧
      ∀ e ∈ k.seq (.children r), ∀ p, k.store.pcb_ptr e = some p →
        (k'.store.pcb p).signals =
          (k.store.pcb p).signals ||| (DSOS_SIGHUP &&& (k.store.pcb p).signals_mask) := by
  -- the invariant of the loop: each round moves the first child and signals it alone
  induction n generalizing m k with
  | zero =>
    have empty : k.seq (.children r) = [] := List.length_eq_zero_iff.mp length
    obtain ⟨m', run, shows'⟩ := (shows.reparent_round (r := r) (i := i) inv fuel).1 empty
    refine ⟨m', k, ?_, rfl, shows', empty, ?_, fun _ _ => rfl, ?_⟩
    · simp [rounds, run, Outcome.bind]
    · simp [empty]
    · simp [empty]
  | succ n ih =>
    obtain ⟨e, rest, whole⟩ : ∃ e rest, k.seq (.children r) = e :: rest := by
      cases seq : k.seq (.children r) with
      | nil => simp [seq] at length
      | cons e rest => exact ⟨e, rest, rfl⟩
    have first : (k.seq (.children r)).head? = some e := by rw [whole]; rfl
    have linked := inv.sound.first first
    obtain ⟨⟨p, names, -⟩, -⟩ := inv.tree.entry linked
    obtain ⟨m₁, run, shows₁⟩ := (shows.reparent_round (i := i) inv fuel).2 e p first names
    have inv₁ : Coherent c runner gone (k.reparent r i e p) := inv.moved (.adopt first names init)
    have left : (k.reparent r i e p).seq (.children r) = rest := by
      simp [Scene.reparent, other, whole]
    have given : (k.reparent r i e p).seq (.children i) = k.seq (.children i) ++ [e] := by
      simp [Scene.reparent, Ne.symm other]
    have nodup := inv.sound.nodup (.children r)
    rw [whole, List.nodup_cons] at nodup
    obtain ⟨m', k', done, exhausted, shows', empty, moved, others, signalled⟩ :=
      ih shows₁ inv₁ (by simpa [Scene.reparent] using init) (by rw [left]; simpa [whole] using length)
    refine ⟨m', k', ?_, ?_, shows', empty, ?_, fun x unnamed => ?_, fun e' there x named => ?_⟩
    · simpa [rounds, run, Outcome.bind] using done
    · simpa [rounds, run, Outcome.bind] using exhausted
    · rw [moved, left, given, whole, List.append_assoc, List.singleton_append]
    · have differs : x ≠ p := by
        rintro rfl
        exact unnamed e (by simp [whole]) names
      rw [others x fun e' there => by
        simpa [Scene.reparent] using unnamed e' (by simp [whole, left ▸ there])]
      simp [Scene.reparent, differs, Store.pcb_setPCB]
    · -- no two entries name the same child
      have same {e₁ e₂ : Addr} (one : e₁ ∈ k.seq (.children r)) (two : e₂ ∈ k.seq (.children r))
          (named : k.store.pcb_ptr e₁ = k.store.pcb_ptr e₂) : e₁ = e₂ :=
        inv.tree.unique (inv.sound.mem_seq.mp one) (inv.sound.mem_seq.mp two) named
      have head : e ∈ k.seq (.children r) := by simp [whole]
      by_cases isFirst : e' = e
      · subst isFirst
        cases names.symm.trans named
        rw [others p fun e₂ later named₂ => ?_]
        · simp [Scene.reparent, Store.pcb_setPCB]
        · have there₂ : e₂ ∈ rest := left ▸ later
          have named₂' : k.store.pcb_ptr e₂ = some p := by simpa [Scene.reparent] using named₂
          obtain rfl := same (by simp [whole, there₂]) head (named₂'.trans names.symm)
          exact nodup.1 there₂
      · have later : e' ∈ rest := by simpa [whole, isFirst] using there
        have differs : x ≠ p := by
          rintro rfl
          exact isFirst (same there head (named.trans names.symm))
        rw [signalled e' (left ▸ later) x (by simpa [Scene.reparent] using named)]
        simp [Scene.reparent, differs, Store.pcb_setPCB]

theorem Shows.exiting (shows : Shows c m k) (inv : Coherent c k.store.running none k)
    (runs : k.store.running = some r) (args : Nat → Int) :
    ∃ k', Shows c (m.exiting r args) k' ∧ Coherent c (some r) none k' ∧
      k'.store.init_pcb = k.store.init_pcb ∧ ∀ h, k'.seq h = k.seq h := by
  rw [runs] at inv
  have entered := inv.moved (.enter DSOS_CALL_EXIT args rfl)
  have stored := entered.moved (.leave rfl)
  have store : (m.exiting r args).store =
      ((k.enter r DSOS_CALL_EXIT args).setPCB r fun p =>
        { p with return_value := int32 (p.syscall_args 0) }).store := by
    rw [Kernel.exiting, shows.store]
    rfl
  exact ⟨_, ⟨store, shows.represented⟩, stored, rfl, fun _ => rfl⟩

theorem reparent_loop_run (fuel : Nat) (m : Kernel) :
    (reparent_loop r i).run heap fuel m =
      rounds (fun _ state => (reparent r i).run heap fuel state) fuel () m := by
  simp only [reparent_loop, Program.iterate, Program.run]
  cases rounds (fun _ state => (reparent r i).run heap fuel state) fuel () m <;> rfl

theorem Shows.reparents_all (shows : Shows c m k) (inv : Coherent c (some r) none k)
    (init : k.store.init_pcb = some i) (ends : r ≠ i ∨ k.seq (.children r) = []) : ReparentsAll m r i := by
  rw [ReparentsAll, shows.list, shows.list, shows.store]
  rcases eq_or_ne r i with rfl | other
  · have empty : k.seq (.children r) = [] := ends.resolve_left (fun differs => differs rfl)
    rw [empty]
    obtain ⟨m', run, shows'⟩ := (shows.reparent_round (i := r) inv 1).1 empty
    refine ⟨m', ?_, ?_, ?_, ?_, by simp⟩
    · rw [reparent_loop_run]
      simp [rounds, run, Outcome.bind]
    · rw [reparent_loop_run]
      rfl
    · rw [shows'.list, empty]
    · rw [shows'.list, empty, List.append_nil]
  · obtain ⟨m', k', done, -, shows', empty, moved, -, signalled⟩ :=
      shows.reparents ((k.seq (.children r)).length + 1) _ inv init other rfl
    obtain ⟨-, -, -, exhausted, -⟩ := shows.reparents (k.seq (.children r)).length _ inv init other rfl
    refine ⟨m', ?_, ?_, ?_, ?_, fun e there p names => ?_⟩
    · rw [reparent_loop_run]
      exact done
    · rw [reparent_loop_run]
      exact exhausted
    · rw [shows'.list, empty]
    · rw [shows'.list, moved]
    · rw [shows'.store]
      exact signalled e there p names

/-- The loop of a process that is `init` and has children has no last round. -/
theorem Shows.reparents_forever (shows : Shows c m k) (inv : Coherent c (some r) none k)
    (init : k.store.init_pcb = some r) (children : k.seq (.children r) ≠ []) (fuel : Nat) :
    (reparent_loop r r).run heap fuel m = .exhausted := by
  have never : k.wp c fuel (reparent_loop r r) (fun _ _ => False) fun stop => stop = none :=
    wp_reparents_forever inv init children rfl
  have sat := shows.sat never
  cases run : (reparent_loop r r).run heap fuel m with
  | exhausted => rfl
  | done value m' =>
    rw [run] at sat
    obtain ⟨k', -, impossible⟩ := sat
    exact impossible.elim
  | fault stop =>
    rw [run] at sat
    cases sat
  | undefined =>
    rw [run] at sat
    exact sat.elim

end

/-- The loop of `exit` ends after one round for each child exactly when the
caller is not `init`, or has no children. -/
theorem reparenting_ends (c : Constants) {m : Kernel} (reach : Reachable c.toConfig m) {r i : Addr}
    (runs : m.store.running = some r) (init : m.store.init_pcb = some i) (args : Nat → Int) :
    (∀ fuel, ((Event.syscall DSOS_CALL_EXIT args).code c.toConfig).run heap fuel m =
      ((reparent_loop r i).run heap fuel (m.exiting r args)).bind fun _ m' =>
        (do
          exit_rest r
          log).run heap fuel m') ∧
    (ReparentsAll (m.exiting r args) r i ↔ r ≠ i ∨ m.list (.children r) = []) := by
  refine ⟨exit_reaches_loop runs init, ?_⟩
  obtain ⟨k, shows, inv, -⟩ := reach.shows
  rw [shows.store] at runs init
  obtain ⟨k', shows', inv', first, lists⟩ := shows.exiting inv runs args
  rw [shows.list, ← lists]
  constructor
  · rintro ⟨m', done, -⟩
    by_contra never
    obtain ⟨same, children⟩ := not_or.mp never
    obtain rfl := not_not.mp same
    rw [shows'.reparents_forever inv' (first.trans init) children] at done
    cases done
  · intro ends
    exact shows'.reparents_all inv' (first.trans init) ends

/-- A child of the first process has a child of its own and runs. -/
def grandparent : Observed always fun m => m.store.running = some (block .pcb 1) ∧
    m.store.init_pcb = some (block .pcb 0) ∧ m.list (.children (block .pcb 1)) = [block .pcb_ptr 1] :=
  observe always [.syscall DSOS_CALL_SPAWN (arguments [1, 2]), .syscall DSOS_CALL_PREEMPT (arguments []),
    .syscall DSOS_CALL_SPAWN (arguments [1, 2])] (by decide +kernel)

theorem reparenting_ends_grandparent : ∃ m, Reachable constants.toConfig m ∧
    m.list (.children (block .pcb 1)) = [block .pcb_ptr 1] ∧
    ReparentsAll (m.exiting (block .pcb 1) (arguments [0])) (block .pcb 1) (block .pcb 0) := by
  obtain ⟨m, reached, runs, init, children⟩ := grandparent
  have other : block .pcb 1 ≠ block .pcb 0 := by decide
  exact ⟨m, reached.reachable, children,
    (reparenting_ends constants reached.reachable runs init _).2.mpr (.inl other)⟩

/-- The first process, with a child, calls `exit`. -/
def first_parent : Observed always fun m => m.store.running = some (block .pcb 0) ∧
    m.store.init_pcb = some (block .pcb 0) ∧ m.list (.children (block .pcb 0)) = [block .pcb_ptr 0] :=
  observe always [.syscall DSOS_CALL_SPAWN (arguments [1, 2])] (by decide +kernel)

theorem reparenting_loops : ¬ ∀ m, Reachable constants.toConfig m → ∀ r i : Addr,
    m.store.running = some r → m.store.init_pcb = some i → ∀ args : Nat → Int,
      ReparentsAll (m.exiting r args) r i := by
  intro every
  obtain ⟨m, reached, runs, init, children⟩ := first_parent
  obtain ⟨m', done, -⟩ := every m reached.reachable _ _ runs init (arguments [0])
  obtain ⟨k, shows, inv, -⟩ := reached.reachable.shows
  obtain ⟨k', shows', inv', first, same⟩ := shows.exiting inv (shows.store ▸ runs) (arguments [0])
  have some_child : k'.seq (.children (block .pcb 0)) ≠ [] := by
    rw [same, ← shows.list, children]
    simp
  rw [shows'.reparents_forever inv' (first.trans (shows.store ▸ init)) some_child] at done
  cases done

end DisastrOS
