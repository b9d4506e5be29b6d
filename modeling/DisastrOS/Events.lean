import DisastrOS.Messaging

/-! System calls and timer ticks have the outcomes that `Reacts` lists. -/

set_option autoImplicit false

namespace DisastrOS

open Refinement
open Relation (ReflTransGen)

section
variable {c : Config} {fuel : Nat} {k : Scene} {r : Addr}

def Implements (c : Config) (code : Code Unit) (H : Addr → Scene → Ending → Prop) : Prop :=
  ∀ {fuel : Nat} {k : Scene} {r : Addr}, Coherent c (some r) none k → k.store.running = some r →
    (blocks c).card < fuel → k.Meets c fuel code (H r k)

theorem internal_shutdown_meets : k.Meets c fuel internal_shutdown (Shutdown r k) := by
  simpa [Scene.Meets, internal_shutdown] using fun _ => Shutdown.exit r k

theorem implements_entry {p : Prop} [Decidable p] {code : Code Unit} {H : Addr → Scene → Ending → Prop}
    {x : Option (Code Unit)} {y : Option (Addr → Scene → Ending → Prop)}
    (here : Implements c code H) (rest : Option.Rel (Implements c) x y) :
    Option.Rel (Implements c) (if p then some code else x) (if p then some H else y) := by
  split
  · exact .some here
  · exact rest

theorem syscall_vector_implements (n : Int) :
    Option.Rel (Implements c) (syscall_vector c n) (Handles c n) := by
  unfold syscall_vector Handles
  refine implements_entry (fun inv runs enough => internal_schedule_meets inv runs enough) ?_
  refine implements_entry (fun inv runs _ => internal_fork_meets inv runs) ?_
  refine implements_entry (fun inv runs _ => internal_spawn_meets inv runs) ?_
  refine implements_entry (fun inv runs enough => internal_wait_meets inv runs enough) ?_
  refine implements_entry (fun inv runs enough => internal_exit_meets inv runs enough) ?_
  refine implements_entry (fun inv runs enough => internal_sleep_meets inv runs enough) ?_
  refine implements_entry (fun inv runs enough => internal_openResource_meets inv runs enough) ?_
  refine implements_entry (fun inv runs enough => internal_closeResource_meets inv runs enough) ?_
  refine implements_entry (fun inv runs enough => internal_destroyResource_meets inv runs enough) ?_
  refine implements_entry (fun _ _ _ => internal_shutdown_meets) ?_
  refine implements_entry (fun inv runs enough => internal_openMessageQueue_meets inv runs enough) ?_
  refine implements_entry (fun inv runs enough => internal_closeMessageQueue_meets inv runs enough) ?_
  refine implements_entry (fun inv runs enough => internal_MessageQueue_write_meets inv runs enough) ?_
  refine implements_entry (fun inv runs enough => internal_MessageQueue_read_meets inv runs enough) ?_
  exact implements_entry (fun inv runs enough => internal_destroyMessageQueue_meets inv runs enough) .none

@[simp] theorem Scene.wp_log {Q : Unit → Scene → Prop} {E : Option Stop → Prop} :
    k.wp c fuel log Q E ↔ (k.Sound c →
      if k.store.log_file = true ∧ k.store.running = none then E (some (.null .pcb)) else Q () k) := by
  cases logs : k.store.log_file <;> cases running : k.store.running <;>
    simp [log, self, logs, running]

@[simp] theorem Scene.wp_tableIndex {Q : Unit → Scene → Prop} {E : Option Stop → Prop} {n : Int} :
    k.wp c fuel (tableIndex n) Q E ↔
      if 0 ≤ n ∧ n < DSOS_MAX_SYSCALLS then k.Sound c → Q () k
      else k.Sound c → E (some .outOfBounds) := by
  unfold tableIndex
  split <;> simp

theorem disastrOS_trap_meets {num : Int} {args : Nat → Int}
    (inv : Coherent c (some r) none (k.enter r num args)) (runs : k.store.running = some r)
    (inside : 0 ≤ num ∧ num < DSOS_MAX_SYSCALLS) (enough : (blocks c).card < fuel) :
    (k.enter r num args).Meets c fuel (disastrOS_trap c)
      fun ending => Reacts c k (.syscall num args) ending := by
  have running : (k.enter r num args).store.running = some r := runs
  have entered : ((k.enter r num args).store.pcb r).syscall_num = num := by simp [Scene.enter]
  have range : ¬(num < 0 ∨ num > DSOS_MAX_SYSCALLS) := by omega
  simp [Scene.Meets, disastrOS_trap, Scene.wp_self running, running, inv.sound, entered]
  refine (if_neg range).mpr ((if_pos inside).mpr ?_)
  cases handler : Handles c num with
  | none =>
    cases code : syscall_vector c num with
    | none =>
      simp [Scene.wp_setRetvalue running, running]
      exact fun _ => .unknown runs inside handler
    | some code' =>
      -- the entries of the two tables go together
      have table := syscall_vector_implements (c := c) num
      rw [handler, code] at table
      cases table
  | some H =>
    have table := syscall_vector_implements (c := c) num
    rw [handler] at table
    cases code : syscall_vector c num with
    | none =>
      rw [code] at table
      cases table
    | some code' =>
      rw [code] at table
      cases table with | some implements =>
      refine (Scene.wp_bind ..).mpr (Scene.wp_mono (implements inv running enough) (fun _ k' sound' ends => ?_)
        fun stop ends => ?_)
      · apply Scene.wp_log.mpr
        intro _
        split
        · rename_i silent
          exact .unlogged runs handler ends silent.1 silent.2
        · rename_i logged
          exact .handled runs handler ends fun logs idle => logged ⟨logs, idle⟩
      · cases stop with
        | none => exact .diverges runs handler ends
        | some stop => exact .stopped runs handler ends

theorem disastrOS_syscall_meets {num : Int} {args : Nat → Int} {runner : Pointer}
    (inv : Coherent c runner none k) (runs : k.store.running = runner)
    (enough : (blocks c).card < fuel) :
    k.Meets c fuel (Event.code c (.syscall num args)) (Reacts c k (.syscall num args)) := by
  have sound := inv.sound
  cases runner with
  | none =>
    simp [Scene.Meets, Event.code, disastrOS_syscall, runs, sound]
    exact .nobody runs
  | some r =>
    by_cases range : num < 0 ∨ num > DSOS_MAX_SYSCALLS
    · simp [Scene.Meets, Event.code, disastrOS_syscall, runs, sound]
      exact (if_pos range).mpr (.outOfRange runs range)
    · by_cases bound : num = DSOS_MAX_SYSCALLS
      · have ends : Reacts c k (.syscall num args) (.fault .outOfBounds) := .outOfBounds runs bound
        simpa [Scene.Meets, Event.code, disastrOS_syscall, runs, sound, bound, DSOS_MAX_SYSCALLS]
          using ends
      · have inside : 0 ≤ num ∧ num < DSOS_MAX_SYSCALLS := by omega
        have entered := inv.moved (.enter num args rfl)
        have saved : k.enter r num args = (k.setPCB r fun p =>
            { p with syscall_args := storeArgs p.syscall_args args (syscall_numarg num) }).setPCB r
              fun p => { p with syscall_num := num, cpu_state := .swapped p.pid } := by
          simp [Scene.enter, Scene.setPCB, Scene.update, Store.setPCB_setPCB, Function.comp_def]
        simp [Scene.Meets, Event.code, disastrOS_syscall, runs, sound, ← saved]
        refine (if_neg range).mpr ((if_pos inside).mpr ?_)
        exact Scene.wp_mono (disastrOS_trap_meets entered runs inside enough)
          (fun _ _ _ holds _ => holds) fun _ => id

theorem Wakes.running {k' : Scene} (wakes : Wakes k k') : k'.store.running = k.store.running := by
  obtain ⟨⟨prev, rounds⟩, -⟩ := wakes
  suffices same : ∀ j : Scene × Pointer, ReflTransGen WakeRound (k, none) j →
      j.1.store.running = k.store.running from same _ rounds
  intro j rounds
  induction rounds with
  | refl => rfl
  | tail _ round same =>
    cases round
    exact same

theorem Schedule.runs {k' : Scene} (schedules : Schedule r k (.done () k'))
    (runs : k.store.running = some r) : ∃ n, k'.store.running = some n := by
  cases schedules with
  | alone wakes idle => exact ⟨r, wakes.running.trans runs⟩
  | rotates wakes ready => exact ⟨_, rfl⟩

theorem timerInterrupt_meets {runner : Pointer} (inv : Coherent c runner none k)
    (runs : k.store.running = runner) (enough : (blocks c).card < fuel) :
    k.Meets c fuel timerInterrupt (Reacts c k .tick) := by
  have sound := inv.sound
  cases runner with
  | none =>
    simp [Scene.Meets, timerInterrupt, self, runs, sound]
    exact .lateTick runs
  | some r =>
    have ticked := inv.moved (.tick rfl)
    have running : (k.tick r).store.running = some r := runs
    simp [Scene.Meets, timerInterrupt, Scene.wp_self runs, runs, sound]
    refine Scene.wp_mono (internal_schedule_meets ticked running enough) (fun _ k' _ ends => ?_)
      fun stop ends => ?_
    · obtain ⟨n, next⟩ := ends.runs running
      simpa [Scene.wp_self next] using fun _ => .tick runs ends
    · cases stop <;> cases ends

theorem main_context_meets (sound : k.Sound c) (idle : k.store.running = none) :
    k.Meets c fuel main_context (Proceeds k) := by
  cases pcb : (k.free .pcb).head? with
  | none =>
    have full : k.free .pcb = [] := List.head?_eq_none_iff.mp pcb
    simp [Scene.Meets, sound, main_context, PCB_alloc, pcb]
    exact .noPCB idle full
  | some p =>
    have fresh := sound.top pcb
    by_cases spent : k.store.last_pid = INT_MAX
    · simp [Scene.Meets, sound, main_context, PCB_alloc, pcb, spent]
      exact ⟨fresh.2.1, .overflow idle pcb spent⟩
    · simp [Scene.Meets, sound, main_context, PCB_alloc, pcb, spent]
      refine ⟨fresh.2.1, ?_⟩
      convert Proceeds.restarts idle pcb spent using 1
      simp [Scene.restart, Scene.update, Scene.setPCB, Scene.alloc, Scene.reset, Store.setPCB]

theorem proceed_meets {runner : Pointer} (inv : Coherent c runner none k) (runs : k.store.running = runner) :
    k.Meets c fuel proceed (Proceeds k) := by
  have sound := inv.sound
  cases runner with
  | none =>
    have restarts : k.Meets c fuel main_context (Proceeds k) := main_context_meets sound runs
    simpa [Scene.Meets, proceed, runs, sound] using restarts
  | some r =>
    by_cases unset : (k.store.pcb r).cpu_state = .unset
    · simp [Scene.Meets, proceed, runs, sound, unset]
      exact .noContext runs unset
    · simp [Scene.Meets, proceed, runs, sound, unset]
      exact .resumes runs unset

/-- Every event has one of the outcomes listed for it. -/
theorem Event.meets {runner : Pointer} (e : Event) (inv : Coherent c runner none k)
    (runs : k.store.running = runner) (enough : (blocks c).card < fuel) :
    k.Meets c fuel (e.code c) (Reacts c k e) := by
  cases e with
  | user memory => simpa [Scene.Meets, Event.code] using fun _ => .user memory
  | syscall num args => exact disastrOS_syscall_meets inv runs enough
  | tick => exact timerInterrupt_meets inv runs enough
  | proceed => exact Scene.wp_mono (proceed_meets inv runs) (fun _ _ _ ends => .proceeds ends) fun _ => .proceeds

end

end DisastrOS
