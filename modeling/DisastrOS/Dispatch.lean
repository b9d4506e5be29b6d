import DisastrOS.Responses

/-! How a system call gets to its handler: `disastrOS_syscall` and `disastrOS_trap`.

Both test the number against the tables, and both let one number too many pass.
-/

set_option autoImplicit false

namespace DisastrOS

open Refinement

/-- The kernel when the call is about to be dispatched. -/
def Kernel.entered (m : Kernel) (r : Addr) (num : Int) (args : Nat → Int) : Kernel :=
  { m with store := m.store.entered r num args }

/-- The call stays inside its tables and gets to the handler that is registered for its number. -/
structure Dispatches (c : Config) (m : Kernel) (r : Addr) (num : Int) (args : Nat → Int) : Prop where
  inside : ¬ Halts c m (.syscall num args) .outOfBounds
  fits : syscall_numarg num ≤ DSOS_MAX_SYSCALLS_ARGS
  outOfRange : num < 0 ∨ DSOS_MAX_SYSCALLS ≤ num → ∀ fuel,
    (disastrOS_syscall c num args).run heap fuel m = .done (some DSOS_ESYSCALL_OUT_OF_RANGE) m
  unknown : 0 ≤ num → num < DSOS_MAX_SYSCALLS → syscall_vector c num = none → ∀ fuel,
    (disastrOS_syscall c num args).run heap fuel m =
      .done none ⟨(m.store.entered r num args).setPCB r fun p =>
        { p with syscall_retvalue := DSOS_ESYSCALL_NOT_IMPLEMENTED }, m.data⟩
  handled : 0 ≤ num → num < DSOS_MAX_SYSCALLS → ∀ my_syscall, syscall_vector c num = some my_syscall → ∀ fuel,
    (disastrOS_syscall c num args).run heap fuel m =
      ((do
        my_syscall
        log).run heap fuel (m.entered r num args)).bind fun _ m' => .done none m'
  stored : ∀ i, ((m.entered r num args).store.pcb r).syscall_args i =
    if i < syscall_numarg num then args i else (m.store.pcb r).syscall_args i

section
variable {c : Config} {m : Kernel} {k : Scene} {r : Addr} {num : Int} {args : Nat → Int}

/-! ## What the code does before the handler -/

theorem get_run {α : Type} (f : Store → α) (fuel : Nat) (m : Kernel) :
    (get f).run heap fuel m = .done (f m.store) m := rfl

theorem setPCB_run (p : Addr) (f : PCB → PCB) (fuel : Nat) (m : Kernel) :
    (setPCB p f).run heap fuel m = .done () { m with store := m.store.setPCB p f } := rfl

theorem self_run (runs : m.store.running = some r) (fuel : Nat) : self.run heap fuel m = .done r m := by
  unfold self
  rw [Program.run_bind, get_run, Outcome.bind, runs]
  rfl

theorem log_run (runs : m.store.running = some r) (fuel : Nat) : log.run heap fuel m = .done () m := by
  unfold log
  rw [Program.run_bind, get_run, Outcome.bind]
  cases m.store.log_file with
  | false => rfl
  | true => simp [Program.run_bind, self_run runs, Outcome.bind]

theorem entered_running (runs : m.store.running = some r) : (m.entered r num args).store.running = some r := runs

theorem entered_args (i : Nat) : ((m.entered r num args).store.pcb r).syscall_args i =
    if i < syscall_numarg num then args i else (m.store.pcb r).syscall_args i := by
  simp [Kernel.entered, Store.entered, storeArgs_apply]

theorem syscall_traps (runs : m.store.running = some r) (inside : 0 ≤ num ∧ num < DSOS_MAX_SYSCALLS) (fuel : Nat) :
    (disastrOS_syscall c num args).run heap fuel m =
      ((disastrOS_trap c).run heap fuel (m.entered r num args)).bind fun _ m' => .done none m' := by
  have range : ¬ (num < 0 ∨ num > DSOS_MAX_SYSCALLS) := by omega
  obtain ⟨store, data⟩ := m
  have enters : store.running = some r := runs
  have entered : (store.setPCB r fun p =>
        { p with syscall_args := storeArgs p.syscall_args args (syscall_numarg num) }).setPCB r
          (fun p => { p with syscall_num := num, cpu_state := .swapped p.pid }) = store.entered r num args := by
    simp [Store.entered, Store.setPCB_setPCB, Function.comp_def]
  simp only [disastrOS_syscall, Program.run_bind, get_run, Outcome.bind, enters, range, if_false, tableIndex, inside,
    and_self, if_true, Program.run_pure, setPCB_run, entered]
  rfl

theorem trap_handled (runs : m.store.running = some r) (call : (m.store.pcb r).syscall_num = num)
    (inside : 0 ≤ num ∧ num < DSOS_MAX_SYSCALLS) {my_syscall : Code Unit}
    (registered : syscall_vector c num = some my_syscall) (fuel : Nat) :
    (disastrOS_trap c).run heap fuel m =
      (do
        my_syscall
        log).run heap fuel m := by
  have range : ¬ (num < 0 ∨ num > DSOS_MAX_SYSCALLS) := by omega
  simp only [disastrOS_trap, Program.run_bind, self_run runs, get_run, Outcome.bind, call, log_run runs, range, if_false,
    tableIndex, inside, and_self, if_true, Program.run_pure, registered]

theorem trap_unknown (runs : m.store.running = some r) (call : (m.store.pcb r).syscall_num = num)
    (inside : 0 ≤ num ∧ num < DSOS_MAX_SYSCALLS) (absent : syscall_vector c num = none) (fuel : Nat) :
    (disastrOS_trap c).run heap fuel m =
      .done () { m with store := m.store.setPCB r fun p =>
        { p with syscall_retvalue := DSOS_ESYSCALL_NOT_IMPLEMENTED } } := by
  have range : ¬ (num < 0 ∨ num > DSOS_MAX_SYSCALLS) := by omega
  have answers : (setRetvalue DSOS_ESYSCALL_NOT_IMPLEMENTED).run heap fuel m =
      .done () { m with store := m.store.setPCB r fun p =>
        { p with syscall_retvalue := DSOS_ESYSCALL_NOT_IMPLEMENTED } } := by
    unfold setRetvalue
    rw [Program.run_bind, self_run runs]
    rfl
  simp only [disastrOS_trap, Program.run_bind, self_run runs, get_run, Outcome.bind, call, log_run runs, range, if_false,
    tableIndex, inside, and_self, if_true, Program.run_pure, absent, answers]
  exact log_run (m := ⟨m.store.setPCB r _, m.data⟩) runs fuel

theorem syscall_refused (runs : m.store.running = some r) (outside : num < 0 ∨ DSOS_MAX_SYSCALLS < num) (fuel : Nat) :
    (disastrOS_syscall c num args).run heap fuel m = .done (some DSOS_ESYSCALL_OUT_OF_RANGE) m := by
  have range : num < 0 ∨ num > DSOS_MAX_SYSCALLS := outside
  simp only [disastrOS_syscall, Program.run_bind, get_run, Outcome.bind, runs, range, if_true, Program.run_pure]

theorem syscall_out_of_bounds (runs : m.store.running = some r) (fuel : Nat) :
    (disastrOS_syscall c DSOS_MAX_SYSCALLS args).run heap fuel m = .fault .outOfBounds := by
  have range : ¬ (DSOS_MAX_SYSCALLS < 0 ∨ DSOS_MAX_SYSCALLS > DSOS_MAX_SYSCALLS) := by decide
  have outside : ¬ (0 ≤ DSOS_MAX_SYSCALLS ∧ DSOS_MAX_SYSCALLS < DSOS_MAX_SYSCALLS) := by decide
  simp only [disastrOS_syscall, Program.run_bind, get_run, Outcome.bind, runs, range, if_false, tableIndex, outside]
  rfl

/-! ## The handlers read no table -/

theorem NewChild.inside {finish : Addr → Scene → Scene} : ¬ NewChild finish r k (.fault .outOfBounds) := nofun

theorem Suspend.inside {mq : Pointer} {waiting : Addr → Head} : ¬ Suspend r mq waiting k (.fault .outOfBounds) := nofun

theorem OpenDescriptor.inside {o : Addr} {resource mq : Pointer} :
    ¬ OpenDescriptor r o resource mq k (.fault .outOfBounds) := nofun

theorem Handles.inside {H : Addr → Scene → Ending → Prop} (handler : Handles c num = some H) :
    ¬ H r k (.fault .outOfBounds) := by
  intro stops
  cases handler_entry handler with
  | preempt => cases stops
  | fork => exact NewChild.inside stops
  | spawn => exact NewChild.inside stops
  | wait => cases stops
  | exit => cases stops
  | sleep => cases stops
  | openResource =>
    cases stops with
    | creates create absent top opens => exact opens.inside
    | opens old found type free opens => exact opens.inside
  | closeResource => cases stops
  | destroyResource => cases stops
  | shutdown => cases stops
  | openMessageQueue =>
    cases stops with
    | creates create absent top opens => exact opens.inside
    | opens old found free opens => exact opens.inside
  | closeMessageQueue => cases stops
  | write =>
    cases stops with
    | waits fits found full suspends => exact suspends.inside
  | read =>
    cases stops with
    | waits empty suspends => exact suspends.inside
  | destroyMessageQueue => cases stops

theorem Shows.inside (shows : Shows c m k) (inv : Coherent c k.store.running none k) (bound : num ≠ DSOS_MAX_SYSCALLS) :
    ¬ Halts c m (.syscall num args) .outOfBounds := by
  intro halts
  cases halts.reacts shows inv with
  | outOfBounds running same => exact bound same
  | stopped running handler stops => exact Handles.inside handler stops

theorem syscall_numarg_le (num : Int) : syscall_numarg num ≤ DSOS_MAX_SYSCALLS_ARGS := by
  have entry {p : Prop} [Decidable p] {n rest : Nat} (fits : n ≤ DSOS_MAX_SYSCALLS_ARGS)
      (others : rest ≤ DSOS_MAX_SYSCALLS_ARGS) : (if p then n else rest) ≤ DSOS_MAX_SYSCALLS_ARGS := by
    split <;> assumption
  unfold syscall_numarg
  iterate 12 refine entry (by decide) ?_
  exact Nat.zero_le _

end

/-- A call is dispatched inside the tables unless its number is `DSOS_MAX_SYSCALLS`. -/
theorem syscall_dispatched (c : Constants) {m : Kernel} (reach : Reachable c.toConfig m) {r : Addr}
    (runs : m.store.running = some r) (num : Int) (args : Nat → Int) :
    Dispatches c.toConfig m r num args ↔ num ≠ DSOS_MAX_SYSCALLS := by
  constructor
  · rintro ⟨-, -, outOfRange, -⟩ rfl
    have refused := outOfRange (.inr le_rfl) 0
    rw [syscall_out_of_bounds runs] at refused
    cases refused
  · intro bound
    obtain ⟨k, shows, inv, -⟩ := reach.shows
    have running : (m.entered r num args).store.running = some r := entered_running runs
    have call : ((m.entered r num args).store.pcb r).syscall_num = num := by simp [Kernel.entered, Store.entered]
    constructor
    · exact shows.inside inv bound
    · exact syscall_numarg_le num
    · intro outside fuel
      exact syscall_refused runs (by omega) fuel
    · intro low high absent fuel
      rw [syscall_traps runs ⟨low, high⟩, trap_unknown running call ⟨low, high⟩ absent]
      rfl
    · intro low high my_syscall registered fuel
      rw [syscall_traps runs ⟨low, high⟩, trap_handled running call ⟨low, high⟩ registered]
    · exact entered_args

/-- The first process runs. -/
def first_runs : Observed always fun m => m.store.running = some (block .pcb 0) := observe always [] (by decide +kernel)

theorem syscall_dispatched_read : ∃ m, Reachable constants.toConfig m ∧
    Dispatches constants.toConfig m (block .pcb 0) DSOS_CALL_READ_MQ (arguments [5, 100, 64]) := by
  obtain ⟨m, reach, runs⟩ := first_runs
  exact ⟨m, reach.reachable, (syscall_dispatched constants reach.reachable runs _ _).mpr (by decide)⟩

/-- The number 32 passes both tests, and the tables end at 31. -/
theorem last_number_out_of_bounds : ¬ ∀ m, Reachable constants.toConfig m → ∀ r, m.store.running = some r →
    ∀ num args, Dispatches constants.toConfig m r num args := by
  intro every
  obtain ⟨m, reach, runs⟩ := first_runs
  have refused := (every m reach.reachable _ runs 32 (arguments [])).outOfRange (.inr (by decide)) 0
  rw [show (32 : Int) = DSOS_MAX_SYSCALLS from rfl, syscall_out_of_bounds runs] at refused
  cases refused

end DisastrOS
