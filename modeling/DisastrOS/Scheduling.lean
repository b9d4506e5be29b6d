import DisastrOS.Moves

/-! The code of the scheduling handlers has the outcomes that `Schedule` and `Sleep` list. -/

set_option autoImplicit false

namespace DisastrOS

open Refinement
open Relation (ReflTransGen)

def Ending.abnormal : Option Stop → Ending
  | some stop => .fault stop
  | none => .exhausted

@[simp] theorem Ending.abnormal_some (stop : Stop) : Ending.abnormal (some stop) = .fault stop := rfl
@[simp] theorem Ending.abnormal_none : Ending.abnormal none = .exhausted := rfl

/-- With this fuel the code has one of the outcomes in `R`. -/
def Scene.Meets (c : Config) (fuel : Nat) (code : Code Unit) (R : Ending → Prop) (k : Scene) : Prop :=
  k.wp c fuel code (fun _ k' => R (.done () k')) fun stop => R (Ending.abnormal stop)

section
variable {c : Config} {fuel : Nat} {k : Scene} {r : Addr} {R : Ending → Prop}

theorem Scene.Meets.mono {code : Code Unit} {R' : Ending → Prop} (meets : k.Meets c fuel code R)
    (weaker : ∀ ending, R ending → R' ending) : k.Meets c fuel code R' :=
  Scene.wp_mono meets (fun _ _ _ => weaker _) fun _ => weaker _

theorem Scene.wp_self {Q : Addr → Scene → Prop} {E : Option Stop → Prop}
    (runs : k.store.running = some r) : k.wp c fuel self Q E ↔ (k.Sound c → Q r k) := by
  simp [self, runs]

theorem Scene.wp_syscall_arg {Q : Int → Scene → Prop} {E : Option Stop → Prop} {i : Nat}
    (runs : k.store.running = some r) :
    k.wp c fuel (syscall_arg i) Q E ↔ (k.Sound c → Q (k.arg r i) k) := by
  simp [syscall_arg, Scene.wp_self runs, Scene.arg]

theorem Scene.wp_setRetvalue {Q : Unit → Scene → Prop} {E : Option Stop → Prop} {value : Int}
    (runs : k.store.running = some r) :
    k.wp c fuel (setRetvalue value) Q E ↔ (k.Sound c → Q () (k.answer r value)) := by
  simp [setRetvalue, Scene.wp_self runs, Scene.answer]

end

theorem Scene.dispatch_id {k : Scene} {n : Addr} :
    k.dispatch n id = (k.detach .ready_list n).run (some n) := by
  simp [Scene.dispatch, Scene.setPCB, Scene.update, Scene.run, Store.setPCB]

section
variable {c : Config} {fuel : Nat} {k : Scene} {r : Addr}

theorem wp_wakes {Q : Unit → Scene → Prop} {E : Option Stop → Prop} {runner : Pointer}
    (inv : Coherent c runner none k) (enough : (blocks c).card < fuel)
    (post : ∀ k', Coherent c runner none k' → Wakes k k' → k'.store.running = k.store.running →
      Q () k') : k.wp c fuel (.iterate wake_sleeper none) Q E := by
  -- the invariant: so many timers are left, and `prev` is in the ready list
  refine Scene.wp_iterate (fun n prev k' => ReflTransGen WakeRound (k, none) (k', prev) ∧
      Coherent c runner none k' ∧ (∀ y, prev = some y → k'.place y = .linked .ready_list) ∧
      (k'.seq .timer_list).length = n ∧ k'.store.running = k.store.running) ?_
    (lt_of_le_of_lt (inv.sound.length_seq_le .timer_list) enough) none
    ⟨.refl, inv, by simp, rfl, rfl⟩
  rintro n prev k' ⟨woken, inv', ready, rfl, running⟩
  cases timer : (k'.seq .timer_list).head? with
  | none =>
    have last : Wakes k k' := ⟨⟨prev, woken⟩, by simp [timer]⟩
    simpa [wake_sleeper, TimerList_current, timer] using fun _ => post k' inv' last running
  | some t =>
    by_cases due : (k'.store.timer_item t).awakening_time ≤ k'.store.disastrOS_time
    · have linked := inv'.sound.first timer
      obtain ⟨p, names, blocked⟩ := inv'.timers.owner linked
      simp [wake_sleeper, TimerList_current, TimerList_removeCurrent, TimerItem_free, timer, due, names]
      have move : Move c .elapsed ⟨k', runner, none⟩ ⟨k'.wakeSleeper prev t p, runner, none⟩ :=
        .wakeSleeper timer due names ready
      have other : t ≠ p := by
        rintro rfl
        cases linked.symm.trans blocked.1
      refine fun sound => ⟨blocked.1, fun _ => ⟨⟨sound.live blocked.1, sound.kind blocked.1, by simp,
        fun y last => ?_⟩, fun _ => ⟨by simpa [other] using linked, fun _ => ⟨⟨sound.live linked,
          sound.kind linked⟩, fun _ => ⟨?_, woken.tail (.wake timer due names), move.coherent inv',
            by simp [Ne.symm other], running⟩⟩⟩⟩⟩
      · have there := ready y last
        have differs : y ≠ p := by
          rintro rfl
          cases there.symm.trans blocked.1
        simpa [differs] using there
      · have member := sound.mem_seq.mpr linked
        rw [List.length_erase_of_mem member]
        have := List.length_pos_of_mem member
        omega
    · have last : Wakes k k' := ⟨⟨prev, woken⟩, by simpa [timer] using due⟩
      simpa [wake_sleeper, TimerList_current, timer, due] using fun _ => post k' inv' last running

theorem internal_schedule_meets (inv : Coherent c (some r) none k)
    (runs : k.store.running = some r) (enough : (blocks c).card < fuel) :
    k.Meets c fuel internal_schedule (Schedule r k) := by
  rw [Scene.Meets, internal_schedule, Scene.wp_bind]
  apply wp_wakes inv enough
  intro k' inv' wakes same
  have running : k'.store.running = some r := same.trans runs
  cases ready : (k'.seq .ready_list).head? with
  | none => simpa [ready] using fun _ => .alone wakes (List.head?_eq_none_iff.mp ready)
  | some n =>
    have linked := inv'.sound.first ready
    obtain ⟨alive, pool⟩ := inv'.processes.runs rfl
    have unlinked := inv'.processes.not_waiting rfl
    have other : r ≠ n := by
      rintro rfl
      cases unlinked.symm.trans linked
    simp [ready, Scene.wp_self, running]
    exact fun _ => ⟨linked, fun _ => ⟨⟨alive, pool, by simpa [other] using unlinked⟩,
      fun _ => .rotates wakes ready⟩⟩

theorem wp_TimerList_place {Q : Pointer → Scene → Prop} {E : Option Stop → Prop} {wake : Int}
    (enough : (blocks c).card < fuel) (holds : k.Sound c → Q (k.placeTimer wake) k) :
    k.wp c fuel (TimerList_place .timer_list wake) Q E := by
  simp only [TimerList_place, Scene.wp_bind, Scene.wp_first, Scene.sound_wp]
  -- the scan has passed the timers that are due no later
  refine Scene.wp_scan (fun t => (k.store.timer_item t).awakening_time ≤ wake) enough
    (fun seen rest => (rest.head?, seen.getLast?)) (fun seen whole skipped => ?_)
    fun seen t rest split skipped => ?_
  · have last : k.placeTimer wake = seen.getLast? := by
      rw [Scene.placeTimer, ← whole, List.takeWhile_eq_self_iff.mpr (by simpa using skipped)]
    simpa [← last] using holds
  · have prefix_ : seen.takeWhile (fun t => (k.store.timer_item t).awakening_time ≤ wake) = seen :=
      List.takeWhile_eq_self_iff.mpr (by simpa using skipped)
    by_cases later : wake < (k.store.timer_item t).awakening_time
    · have last : k.placeTimer wake = seen.getLast? := by
        rw [Scene.placeTimer, ← split, List.takeWhile_append_of_pos (by simpa using skipped)]
        simp [Int.not_le.mpr later]
      simpa [later, ← last] using holds
    · apply Scene.sound_wp.mp
      intro sound
      simp [later, Scene.wp_next (Scene.linked_seen sound split), Scene.after_seen sound split]
      omega

theorem internal_sleep_meets (inv : Coherent c (some r) none k) (runs : k.store.running = some r)
    (enough : (blocks c).card < fuel) : k.Meets c fuel internal_sleep (Sleep r k) := by
  have unset := inv.timers.unset r
  simp only [Scene.Meets, internal_sleep, TimerList_add, Scene.wp_bind, Scene.wp_self runs,
    Scene.wp_get, Scene.sound_wp, unset, ne_eq, not_true_eq_false, if_false,
    Scene.wp_syscall_arg runs]
  apply wp_TimerList_place enough
  intro sound
  have place {y : Addr} (last : k.placeTimer (int32 (k.store.disastrOS_time + k.intArg r 0)) =
      some y) : k.place y = .linked .timer_list := inv.place_timer last
  obtain ⟨alive, pool⟩ := inv.processes.runs rfl
  have unlinked := inv.processes.not_waiting rfl
  cases top : (k.free .timer_item).head? with
  | none =>
    have full : k.free .timer_item = [] := List.head?_eq_none_iff.mp top
    simp [TimerItem_alloc, top, Scene.alloc_empty full, Scene.wp_setRetvalue runs]
    exact fun _ => .refused full
  | some t =>
    have fresh := sound.top top
    have live := (Scene.live_alloc sound top).mpr (.inl rfl)
    have alive' := (Scene.live_alloc sound top).mpr (.inr alive)
    have other : r ≠ t := by
      rintro rfl
      cases pool.symm.trans fresh.1
    have unlinked' : Function.update k.place t (.linked .timer_list) r = .unlinked := by
      simpa [other] using unlinked
    -- with nobody ready the code leaves `running` NULL
    cases ready : (k.seq .ready_list).head? with
    | none =>
      have idle : k.seq .ready_list = [] := List.head?_eq_none_iff.mp ready
      simp [TimerItem_alloc, top, idle]
      exact fun _ _ => ⟨fresh.2.1, fun _ => ⟨⟨live, fresh.1, fresh.2.1, fun _ => place⟩, fun _ =>
        ⟨⟨alive', pool, unlinked'⟩, fun _ => .allSleep top rfl idle⟩⟩⟩
    | some n =>
      have linked := sound.first ready
      have awake : n ≠ r := by
        rintro rfl
        cases unlinked.symm.trans linked
      have differs : n ≠ t := by
        rintro rfl
        cases fresh.2.1.symm.trans linked
      have busy : k.seq .ready_list ≠ [] := by
        intro idle
        simp [idle] at ready
      have ends := Sleep.dozes (r := r) top rfl ready
      rw [Scene.dispatch_id] at ends
      simp [TimerItem_alloc, top, ready, busy]
      exact fun _ _ => ⟨fresh.2.1, fun _ => ⟨⟨live, fresh.1, fresh.2.1, fun _ => place⟩, fun _ =>
        ⟨⟨alive', pool, unlinked'⟩, fun _ => ⟨by simpa [awake, differs] using linked, fun _ =>
          ends⟩⟩⟩⟩

end

end DisastrOS
