import DisastrOS.Guarded
import DisastrOS.Outstanding
import DisastrOS.Placement

/-! Timers and the processes that sleep. -/

set_option autoImplicit false

namespace DisastrOS

open Refinement

/-! ## One timer for every sleeping process -/

/-- `p` is in `waiting_list` because it called `sleep`. -/
def Asleep (m : Kernel) (p : Addr) : Prop :=
  p ∈ m.list .waiting_list ∧ (m.store.pcb p).syscall_num = DSOS_CALL_SLEEP

instance (m : Kernel) (p : Addr) : Decidable (Asleep m p) := inferInstanceAs (Decidable (_ ∧ _))

structure Timed (c : Config) (m : Kernel) : Prop where
  sorted : (m.list .timer_list).Pairwise fun t t' =>
    (m.store.timer_item t).awakening_time ≤ (m.store.timer_item t').awakening_time
  once : (m.list .timer_list).Nodup
  allocated : ∀ t, m.Allocated c t ∧ t.pool = .timer_item ↔ t ∈ m.list .timer_list
  owned : ∀ t ∈ m.list .timer_list, ∃ p, (m.store.timer_item t).pcb = some p
  unique : ∀ t ∈ m.list .timer_list, ∀ t' ∈ m.list .timer_list,
    (m.store.timer_item t).pcb = (m.store.timer_item t').pcb → t = t'
  asleep : ∀ p, (∃ t ∈ m.list .timer_list, (m.store.timer_item t).pcb = some p) ↔ Asleep m p
  /-- While a process runs there is a timer left for it. -/
  added : m.store.running ≠ none → ∀ (store : Store) (awakening_time : Int) (pcb : Addr) (fuel : Nat)
    (m' : Kernel),
    (TimerList_add .timer_list awakening_time pcb).run heap fuel ⟨store, m.data⟩ ≠ .done none m'
  /-- `List_detach` is given an element of the list it names, by a tick as by any other event. -/
  detached : ∀ e fuel,
    (Event.code c e).run guarded fuel (⟨m.store, m.data⟩ : State Store guarded.Data) ≠ .undefined

section
variable {c : Config} {k : Scene} {r : Addr}

theorem Timers.left (inv : Coherent c (some r) none k) (items : c.num_items .pcb = c.num_items .timer_item) :
    k.free .timer_item ≠ [] := by
  have runs := inv.processes.runs rfl
  have self : r ∈ k.outstanding c .pcb := Scene.mem_outstanding.mpr runs
  -- a timer counts for its owner, and none is for the process that runs
  have owners : (k.outstanding c .timer_item).card ≤ ((k.outstanding c .pcb).erase r).card := by
    refine Finset.card_le_card_of_injOn (fun t => (k.store.timer_item t).pcb.getD t) ?_ ?_
    · intro t member
      obtain ⟨alive, pool⟩ := Scene.mem_outstanding.mp member
      obtain ⟨p, owner, blocked⟩ := inv.timers.owner (inv.timers.listed alive pool)
      have asleep : p ≠ r := by
        rintro rfl
        cases (inv.processes.not_waiting rfl).symm.trans blocked.1
      simp only [owner, Option.getD_some, Finset.coe_erase, Set.mem_sdiff, Set.mem_singleton_iff]
      exact ⟨Scene.mem_outstanding.mpr ⟨inv.sound.live blocked.1, inv.sound.kind blocked.1⟩, asleep⟩
    · intro t member t' member' same
      obtain ⟨alive, pool⟩ := Scene.mem_outstanding.mp member
      obtain ⟨alive', pool'⟩ := Scene.mem_outstanding.mp member'
      have linked := inv.timers.listed alive pool
      have linked' := inv.timers.listed alive' pool'
      obtain ⟨p, owner, -⟩ := inv.timers.owner linked
      obtain ⟨p', owner', -⟩ := inv.timers.owner linked'
      simp only [owner, owner', Option.getD_some] at same
      exact inv.timers.unique linked linked' (by rw [owner, owner', same])
  intro full
  have timers := inv.sound.outstanding_add_free .timer_item
  have pcbs := inv.sound.outstanding_add_free .pcb
  have spare := Finset.card_erase_of_mem self
  have some_runs := Finset.card_pos.mpr ⟨r, self⟩
  rw [full, List.length_nil] at timers
  omega

theorem wp_TimerList_add {fuel : Nat} (wake : Int) (p : Addr) (enough : (blocks c).card < fuel)
    (left : k.free .timer_item ≠ []) :
    k.wp c fuel (TimerList_add .timer_list wake p) (fun t _ => t ≠ none) fun _ => True := by
  obtain ⟨t, rest, free⟩ := List.exists_cons_of_ne_nil left
  simp only [TimerList_add, Scene.wp_bind]
  apply wp_TimerList_place enough
  intro sound
  have top : (k.free .timer_item).head? = some t := by rw [free]; rfl
  have fresh := sound.top top
  have place {y : Addr} (last : k.placeTimer wake = some y) : k.place y = .linked .timer_list :=
    sound.mem_seq.mp (List.takeWhile_subset _ (List.mem_of_getLast? last))
  simp [TimerItem_alloc, top]
  exact fun _ _ => ⟨fresh.2.1, fun _ =>
    ⟨(Scene.live_alloc sound top).mpr (.inl rfl), fresh.1, fresh.2.1, fun _ => place⟩⟩

end

theorem Shows.restore {c : Config} {m : Kernel} {k : Scene} (shows : Shows c m k) (store : Store) :
    Shows c ⟨store, m.data⟩ { k with store := store } :=
  ⟨rfl, shows.represented⟩

theorem timers_timed (c : Constants) {m : Kernel} (reach : Reachable c.toConfig m) : Timed c.toConfig m := by
  obtain ⟨k, shows, inv, -⟩ := reach.shows
  constructor
  · rw [shows.list, shows.store]
    exact inv.timers.sorted
  · rw [shows.list]
    exact inv.sound.nodup _
  · intro t
    rw [shows.allocated, shows.mem_list]
    exact ⟨fun out => inv.timers.listed out.1 out.2,
      fun linked => ⟨inv.sound.live linked, inv.sound.kind linked⟩⟩
  · intro t there
    obtain ⟨p, owner, -⟩ := inv.timers.owner (shows.mem_list.mp there)
    exact ⟨p, shows.store ▸ owner⟩
  · intro t there t' there' same
    rw [shows.store] at same
    exact inv.timers.unique (shows.mem_list.mp there) (shows.mem_list.mp there') same
  · intro p
    rw [Asleep, shows.mem_list, shows.store]
    constructor
    · rintro ⟨t, there, names⟩
      obtain ⟨p', owner, blocked⟩ := inv.timers.owner (shows.mem_list.mp there)
      cases names.symm.trans owner
      exact blocked
    · intro blocked
      obtain ⟨t, linked, owner⟩ := inv.timers.sleeping blocked
      exact ⟨t, shows.mem_list.mpr linked, owner⟩
  · intro runs store wake p fuel m' run
    obtain ⟨r, running⟩ := Option.ne_none_iff_exists'.mp (shows.store ▸ runs)
    rw [running] at inv
    have left := Timers.left inv rfl
    -- with more fuel a call that ends has the same end
    have more := Program.run_extends heap (Nat.le_max_left fuel ((blocks c.toConfig).card + 1))
      (TimerList_add .timer_list wake p) ⟨store, m.data⟩
    have holds := (shows.restore store).sat (wp_TimerList_add wake p
      (Nat.lt_of_lt_of_le (Nat.lt_succ_self _) (Nat.le_max_right fuel _)) left)
    rw [run] at more
    rw [more.resolve_left nofun] at holds
    obtain ⟨k', -, added⟩ := holds
    exact added rfl
  · exact fun e fuel => e.defined shows inv fuel

/-- The first process sleeps while its child runs. -/
def first_asleep : Observed always fun m => Asleep m (block .pcb 0) :=
  observe always
    [.syscall DSOS_CALL_SPAWN (arguments [1, 2]), .syscall DSOS_CALL_SLEEP (arguments [4])]
    (by decide +kernel)

theorem timers_timed_sleeper : ∃ m, Reachable constants.toConfig m ∧ Asleep m (block .pcb 0) ∧
    Timed constants.toConfig m := by
  obtain ⟨m, reach, asleep⟩ := first_asleep
  exact ⟨m, reach.reachable, asleep, timers_timed constants reach.reachable⟩

/-! ## The end of a sleep -/

/-- The time at which the event executes `internal_schedule`, if it does. -/
def scheduleTime (m : Kernel) : Event → Option Int
  | .user _ => none
  | .syscall num _ => if num = DSOS_CALL_PREEMPT then some m.store.disastrOS_time else none
  | .tick => some (int32 (m.store.disastrOS_time + 1))
  | .proceed => none

/-- A run whose calls of `internal_schedule` are all executed before the time `due`. -/
inductive RunBefore (c : Config) (due : Int) (m : Kernel) : Kernel → Prop where
  | nil : RunBefore c due m m
  | snoc {m' m'' : Kernel} {e : Event} : RunBefore c due m m' → Step c m' e m'' →
      (∀ time ∈ scheduleTime m' e, time < due) → RunBefore c due m m''

/-- If the call suspends `p`, it waits as long as no schedule is due, and no longer. -/
def SleepsUntil (c : Config) (due : Int) (m : Kernel) (p : Addr) (args : Nat → Int) : Prop :=
  ∀ m₁, Step c m (.syscall DSOS_CALL_SLEEP args) m₁ → p ∈ m₁.list .waiting_list →
    ∀ m₂, RunBefore c due m₁ m₂ → p ∈ m₂.list .waiting_list ∧
      ∀ e m₃, Step c m₂ e m₃ → (∃ time ∈ scheduleTime m₂ e, due ≤ time) → p ∉ m₃.list .waiting_list

/-- `p` sleeps, and its timer is due at the time `wake`. -/
def Scene.Dozes (k : Scene) (p : Addr) (wake : Int) : Prop :=
  k.Blocked p DSOS_CALL_SLEEP ∧
    ∃ t, k.place t = .linked .timer_list ∧ k.store.timer_item t = ⟨wake, some p⟩

section
variable {c : Config} {tag : Tag} {P P' : Phase} {p : Addr} {wake : Int}

theorem Move.timer_item (move : Move c tag P P') (inv : P.Coherent c) {t : Addr}
    (linked : P.scene.place t = .linked .timer_list) :
    P'.scene.store.timer_item t = P.scene.store.timer_item t := by
  cases move with
  | doze wake calls top =>
    have other : t ≠ _ := fun same => by
      rw [same, (inv.sound.top top).2.1] at linked
      cases linked
    simp [Scene.startTimer, Scene.block, other]
  | _ =>
    simp [Scene.enter, Scene.tick, Scene.block, Scene.dispatch, Scene.enqueue, Scene.wakeSleeper,
      Scene.rotate, Scene.reparent, Scene.bury, Scene.destroy, Scene.newQueue, Scene.newChild,
      Scene.resumeParent, Scene.dropDescriptor, Scene.newResource, Scene.finishRead, Scene.finishWrite,
      Scene.post, Scene.openDescriptor, Scene.wakeWaiter, Scene.wakeWriter, Scene.reap, Scene.vanish, Scene.restart]

theorem Move.time (move : Move c tag P P') (other : tag ≠ .ticked) :
    P'.scene.store.disastrOS_time = P.scene.store.disastrOS_time := by
  cases move with
  | tick runs => exact absurd rfl other
  | _ =>
    simp [Scene.enter, Scene.block, Scene.startTimer, Scene.dispatch, Scene.enqueue, Scene.wakeSleeper,
      Scene.rotate, Scene.reparent, Scene.bury, Scene.destroy, Scene.newQueue, Scene.newChild,
      Scene.resumeParent, Scene.dropDescriptor, Scene.newResource, Scene.finishRead, Scene.finishWrite,
      Scene.post, Scene.openDescriptor, Scene.wakeWaiter, Scene.wakeWriter, Scene.reap, Scene.vanish, Scene.restart]

/-- Only a timer that is due ends a sleep. -/
theorem Wakeup.asleep (wakeup : Wakeup P.scene p tag) (inv : P.Coherent c)
    (dozes : P.scene.Dozes p wake) :
    tag = .elapsed ∧ wake ≤ P.scene.store.disastrOS_time := by
  obtain ⟨⟨waits, sleep⟩, t, linked, item⟩ := dozes
  cases wakeup with
  | @timer t' first due owner =>
    have same : t' = t := inv.timers.unique (inv.sound.first first) linked (by rw [owner, item])
    rw [same, item] at due
    exact ⟨rfl, due⟩
  | message first names =>
    have blocked := (WaitsIn.read.waiter_blocked inv first names).2
    exact absurd (sleep.symm.trans blocked.2) (by decide)
  | room first names =>
    have blocked := (WaitsIn.write.waiter_blocked inv first names).2
    exact absurd (sleep.symm.trans blocked.2) (by decide)
  | child zombie entry awaits => exact absurd (sleep.symm.trans awaits.2.1) (by decide)

theorem Move.dozes (move : Move c tag P P') (inv : P.Coherent c) (dozes : P.scene.Dozes p wake)
    (early : tag = .elapsed → P.scene.store.disastrOS_time < wake) : P'.scene.Dozes p wake := by
  have asleep {tag : Tag} (wakeup : Wakeup P.scene p tag) := wakeup.asleep inv dozes
  obtain ⟨⟨waits, sleep⟩, t, linked, item⟩ := dozes
  have timer : P'.scene.place t = .linked .timer_list := by
    rcases move.leaves inv linked with leaves | still
    · cases leaves with
      | elapsed first due =>
        have late := early rfl
        rw [item] at due
        exact absurd due (Int.not_le.mpr late)
      | lost owner => cases owner
    · exact still
  refine ⟨?_, t, timer, (move.timer_item inv linked).trans item⟩
  rcases move.waits inv waits with wakeup | ⟨still, call, -⟩
  · obtain ⟨rfl, late⟩ := asleep wakeup
    exact absurd late (Int.not_le.mpr (early rfl))
  · exact ⟨still, call.trans sleep⟩

end

section
variable {c : Config} {k k' : Scene} {r p : Addr} {wake : Int}

theorem Does.elapsed {j : Scene} {e : Event} (does : Does c k e j .elapsed) : e.Schedules := by
  cases does with
  | elapses e j schedules => exact schedules

theorem Does.ticked {j : Scene} {e : Event} (does : Does c k e j .ticked) : e = .tick := by
  cases does
  rfl

theorem Schedule.dozes (inv : Coherent c (some r) none k) (runs : k.store.running = some r)
    (early : k.store.disastrOS_time < wake) (dozes : k.Dozes p wake)
    (schedules : Schedule r k (.done () k')) : k'.Dozes p wake := by
  have chain := schedules.chain (A := fun _ tag => tag ≠ .ticked) (fun _ => nofun) (fun _ => nofun) inv runs
  refine (chain.keeps (J := fun P => P.scene.Dozes p wake ∧ P.scene.store.disastrOS_time < wake) inv
    (fun ok inv' move holds => ?_) ⟨dozes, early⟩).2.1
  exact ⟨move.dozes inv' holds.1 fun _ => holds.2, (move.time ok).trans_lt holds.2⟩

theorem Scene.dozes_wakeSleeper {prev : Pointer} {t q : Addr} (linked : k.place t = .linked .timer_list)
    (owner : (k.store.timer_item t).pcb = some q) (blocked : k.place q = .linked .waiting_list)
    (waits : (k.wakeSleeper prev t q).place p = .linked .waiting_list)
    (dozes : k.place p = .linked .waiting_list → k.Dozes p wake) :
    (k.wakeSleeper prev t q).Dozes p wake := by
  have other : p ≠ t := by
    rintro rfl
    simp [Scene.wakeSleeper] at waits
  have asleep : p ≠ q := by
    rintro rfl
    simp [Scene.wakeSleeper, other] at waits
  simp [Scene.wakeSleeper, other, asleep] at waits
  obtain ⟨⟨-, sleep⟩, t', linked', item⟩ := dozes waits
  -- a timer has one owner, so the one that is freed is not that of `p`
  have own : t' ≠ t := by
    rintro rfl
    rw [item] at owner
    exact asleep (Option.some.inj owner)
  have awake : t' ≠ q := by
    rintro rfl
    cases linked'.symm.trans blocked
  exact ⟨⟨by simpa [Scene.wakeSleeper, other, asleep] using waits, by simpa [Scene.wakeSleeper] using sleep⟩,
    t', by simpa [Scene.wakeSleeper, own, awake] using linked', item⟩

theorem Schedule.awakens (inv : Coherent c (some r) none k) (late : wake ≤ k.store.disastrOS_time)
    (dozes : k.Dozes p wake) (schedules : Schedule r k (.done () k')) :
    k'.place p ≠ .linked .waiting_list := by
  have woken {j : Scene} (wakes : Wakes k j) : j.place p ≠ .linked .waiting_list := by
    obtain ⟨⟨prev, rounds⟩, none_due⟩ := wakes
    have chain := (WakeRound.chain (A := fun _ tag => tag = .elapsed) (fun _ => rfl) inv (by simp) rounds).1
    obtain ⟨inv', asleep, time⟩ := chain.keeps
      (J := fun P => (P.scene.place p = .linked .waiting_list → P.scene.Dozes p wake) ∧
        P.scene.store.disastrOS_time = k.store.disastrOS_time) inv
      (fun ok inv' move holds => by
        subst ok
        cases move with
        | wakeSleeper first due owner after =>
          obtain ⟨q, owner', blocked⟩ := inv'.timers.owner (inv'.sound.first first)
          cases owner.symm.trans owner'
          exact ⟨fun waits => Scene.dozes_wakeSleeper (inv'.sound.first first) owner blocked.1 waits holds.1,
            holds.2⟩)
      ⟨fun _ => dozes, rfl⟩
    intro waits
    obtain ⟨blocked, t, linked, item⟩ := asleep waits
    have there := inv'.sound.mem_seq.mpr linked
    obtain ⟨first, rest, timers⟩ := List.exists_cons_of_ne_nil (List.ne_nil_of_mem there)
    -- the rounds stop at a first timer that is not due, and the list is sorted
    have head := none_due first (by rw [timers]; rfl)
    have sorted := inv'.timers.sorted
    rw [timers] at there sorted
    have later : (j.store.timer_item first).awakening_time ≤ (j.store.timer_item t).awakening_time := by
      rcases List.mem_cons.mp there with rfl | member
      · exact le_refl _
      · exact (List.pairwise_cons.mp sorted).1 t member
    have set : (j.store.timer_item t).awakening_time = wake := by rw [item]
    dsimp only at time
    omega
  cases schedules with
  | alone wakes idle => exact woken wakes
  | @rotates j n wakes ready =>
    have still := woken wakes
    by_cases self : p = r
    · simp [Scene.rotate, self]
    by_cases next : p = n
    · subst next
      simp [Scene.rotate, self]
    · simpa [Scene.rotate, self, next] using still

theorem Reacts.dozes {m : Kernel} {e : Event} (shows : Shows c m k) (inv : Coherent c k.store.running none k)
    (counted : Counted c k) (early : ∀ time ∈ scheduleTime m e, time < wake) (dozes : k.Dozes p wake)
    (reacts : Reacts c k e (.done () k')) : k'.Dozes p wake := by
  cases e with
  | tick =>
    cases reacts with
    | @tick r _ running schedules =>
      rw [running] at inv
      have ticks : Move c .ticked ⟨k, some r, none⟩ ⟨k.tick r, some r, none⟩ := .tick rfl
      have inv' := ticks.coherent inv
      refine schedules.dozes inv' running ?_ (ticks.dozes inv dozes nofun)
      have time := early _ rfl
      rwa [shows.store] at time
  | user memory =>
    cases reacts
    exact dozes
  | proceed =>
    refine ((reacts.chain inv counted).keeps (J := fun P => P.scene.Dozes p wake) inv
      (fun does inv' move holds => move.dozes inv' holds ?_) dozes).2
    rintro rfl
    cases does with
    | elapses _ _ schedules => exact schedules.elim
  | syscall num args =>
    -- the time stands still during a call
    refine ((reacts.chain inv counted).keeps (J := fun P => P.scene.Dozes p wake ∧
      P.scene.store.disastrOS_time = k.store.disastrOS_time) inv (fun does inv' move holds => ?_)
      ⟨dozes, rfl⟩).2.1
    refine ⟨move.dozes inv' holds.1 ?_, (move.time ?_).trans holds.2⟩
    · rintro rfl
      rw [holds.2, ← shows.store]
      exact early _ (if_pos does.elapsed)
    · rintro rfl
      cases does.ticked

theorem Reacts.awakens {m : Kernel} {e : Event} (shows : Shows c m k) (inv : Coherent c k.store.running none k)
    (late : ∃ time ∈ scheduleTime m e, wake ≤ time) (dozes : k.Dozes p wake)
    (reacts : Reacts c k e (.done () k')) : k'.place p ≠ .linked .waiting_list := by
  obtain ⟨time, scheduled, late⟩ := late
  cases e with
  | user memory | proceed => cases scheduled
  | tick =>
    cases reacts with
    | @tick r _ running schedules =>
      rw [running] at inv
      have ticks : Move c .ticked ⟨k, some r, none⟩ ⟨k.tick r, some r, none⟩ := .tick rfl
      have inv' := ticks.coherent inv
      refine schedules.awakens inv' ?_ (ticks.dozes inv dozes nofun)
      cases scheduled
      rwa [shows.store] at late
  | syscall num args =>
    simp only [scheduleTime, Option.mem_def, Option.ite_none_right_eq_some] at scheduled
    obtain ⟨rfl, same⟩ := scheduled
    obtain ⟨r, running⟩ := reacts.runs
    have schedules : Schedule r (k.enter r DSOS_CALL_PREEMPT args) (.done () k') :=
      reacts.handler_ends rfl running
    rw [running] at inv
    have enters : Move c _ ⟨k, some r, none⟩ ⟨k.enter r DSOS_CALL_PREEMPT args, some r, none⟩ :=
      .enter DSOS_CALL_PREEMPT args rfl
    refine schedules.awakens (enters.coherent inv) ?_ (enters.dozes inv dozes nofun)
    cases same
    rwa [shows.store] at late

theorem Sleep.has_timer (pool : r.pool = .pcb) (unlinked : k.place r = .unlinked)
    (calls : (k.store.pcb r).syscall_num = DSOS_CALL_SLEEP) (sound : k.Sound c)
    (sleeps : Sleep r k (.done () k')) (waits : k'.place r = .linked .waiting_list) :
    k'.Dozes r (int32 (k.store.disastrOS_time + k.intArg r 0)) := by
  cases sleeps with
  | refused full => cases unlinked.symm.trans waits
  | @dozes t timer wake time n ready =>
    have fresh := sound.top timer
    have other : t ≠ r := by
      rintro rfl
      cases pool.symm.trans fresh.1
    have next : t ≠ n := by
      rintro rfl
      cases fresh.2.1.symm.trans (sound.first ready)
    refine ⟨⟨waits, by simp [Scene.dispatch, Scene.block, Scene.startTimer, calls]⟩, t, ?_, ?_⟩
    · simp [Scene.dispatch, Scene.block, Scene.startTimer, other, next]
    · simp [Scene.dispatch, Scene.block, Scene.startTimer, time]
  | @allSleep t timer wake time idle =>
    have other : t ≠ r := by
      rintro rfl
      cases pool.symm.trans (sound.top timer).1
    refine ⟨⟨waits, by simp [Scene.block, Scene.startTimer, calls]⟩, t, ?_, ?_⟩
    · simp [Scene.block, Scene.startTimer, other]
    · simp [Scene.block, Scene.startTimer, time]

end

theorem RunBefore.dozes {c : Config} {m m' : Kernel} {k : Scene} {p : Addr} {due : Int}
    (run : RunBefore c due m m') (shows : Shows c m k) (inv : Coherent c k.store.running none k)
    (counted : Counted c k) (dozes : k.Dozes p due) :
    ∃ k', Shows c m' k' ∧ Coherent c k'.store.running none k' ∧ k'.Dozes p due := by
  suffices all : ∃ k', Shows c m' k' ∧ Coherent c k'.store.running none k' ∧ Counted c k' ∧ k'.Dozes p due by
    obtain ⟨k', shows', inv', -, dozes'⟩ := all
    exact ⟨k', shows', inv', dozes'⟩
  induction run with
  | nil => exact ⟨k, shows, inv, counted, dozes⟩
  | snoc _ step early ih =>
    obtain ⟨j, shows, inv, counted, dozes⟩ := ih
    obtain ⟨k', shows', reacts⟩ := step.reacts shows inv
    exact ⟨k', shows', (reacts.chain inv counted).coherent inv, reacts.counted inv counted,
      reacts.dozes shows inv counted early dozes⟩

/-- A process that calls `sleep` is woken by the first schedule that is not early,
if the time it asks for is an `int`. -/
theorem sleeps_until (c : Constants) {m : Kernel} (reach : Reachable c.toConfig m)
    (since : 0 ≤ m.store.disastrOS_time) {p : Addr} (runs : m.store.running = some p) {args : Nat → Int}
    (asked : 0 ≤ int32 (args 0)) (fits : m.store.disastrOS_time + int32 (args 0) ≤ INT_MAX) :
    SleepsUntil c.toConfig (m.store.disastrOS_time + int32 (args 0)) m p args := by
  obtain ⟨k, shows, inv, counted⟩ := reach.shows
  intro m₁ step waits m₂ run
  obtain ⟨k₁, shows₁, reacts⟩ := step.reacts shows inv
  rw [shows.store] at since runs fits run ⊢
  have sleeps : Sleep p (k.enter p DSOS_CALL_SLEEP args) (.done () k₁) := reacts.handler_ends rfl runs
  have inv₁ := (reacts.chain inv counted).coherent inv
  have counted₁ := reacts.counted inv counted
  have alone := inv.processes.runs runs
  -- the sum fits into an `int`, so the timer is due when the call asks for it
  have wake : int32 (k.store.disastrOS_time + (k.enter p DSOS_CALL_SLEEP args).intArg p 0) =
      k.store.disastrOS_time + int32 (args 0) := by
    have asks : (k.enter p DSOS_CALL_SLEEP args).intArg p 0 = int32 (args 0) := intArg_enter (by decide)
    have low : -2 ^ 31 ≤ k.store.disastrOS_time + int32 (args 0) := by omega
    have high : k.store.disastrOS_time + int32 (args 0) < 2 ^ 31 := by
      simp only [INT_MAX] at fits
      omega
    rw [asks, int32_eq low high]
  have now : (k.enter p DSOS_CALL_SLEEP args).store.disastrOS_time = k.store.disastrOS_time := rfl
  have unlinked : (k.enter p DSOS_CALL_SLEEP args).place p = .unlinked := inv.processes.not_waiting runs
  have sound : (k.enter p DSOS_CALL_SLEEP args).Sound c.toConfig := inv.sound
  have dozes := sleeps.has_timer alone.2 unlinked (by simp) sound (shows₁.mem_list.mp waits)
  rw [now, wake] at dozes
  obtain ⟨k₂, shows₂, inv₂, dozes₂⟩ := run.dozes shows₁ inv₁ counted₁ dozes
  refine ⟨shows₂.mem_list.mpr dozes₂.1.1, fun e m₃ step late there => ?_⟩
  obtain ⟨k₃, shows₃, reacts⟩ := step.reacts shows₂ inv₂
  exact reacts.awakens shows₂ inv₂ late dozes₂ (shows₃.mem_list.mp there)

/-- The child runs at the time 1. -/
def child_runs_at_one : Observed always fun m =>
    m.store.running = some (block .pcb 1) ∧ m.store.disastrOS_time = 1 :=
  observe always [.syscall DSOS_CALL_SPAWN (arguments [1, 2]), .tick] (by decide +kernel)

theorem sleeps_until_five : ∃ m, Reachable constants.toConfig m ∧
    SleepsUntil constants.toConfig 5 m (block .pcb 1) (arguments [4]) := by
  obtain ⟨m, reached, runs, time⟩ := child_runs_at_one
  have reach := reached.reachable
  have due : m.store.disastrOS_time + int32 (arguments [4] 0) = 5 := by
    rw [time]
    decide
  have asked : 0 ≤ int32 (arguments [4] 0) := by decide
  have until_five := sleeps_until constants reach (by omega) runs asked (by rw [due]; decide)
  rw [due] at until_five
  exact ⟨m, reach, until_five⟩

def AwakeAfterOne (cycles : Int) (m : Kernel) : Prop :=
  ((trial_from constants.toConfig always [.syscall DSOS_CALL_SLEEP (arguments [cycles])] m).any
    fun m₁ => block .pcb 1 ∈ m₁.list .waiting_list ∧ m₁.store.disastrOS_time = 1 ∧
      ((trial_from constants.toConfig always [.tick] m₁).any
        fun m₂ => block .pcb 1 ∉ m₂.list .waiting_list) = true) = true

instance (cycles : Int) (m : Kernel) : Decidable (AwakeAfterOne cycles m) :=
  inferInstanceAs (Decidable (_ = _))

/-- The child runs at the time 1 and asks for the largest `int`. -/
def child_asks_for_all : Observed always fun m => m.store.running = some (block .pcb 1) ∧
    m.store.disastrOS_time = 1 ∧ AwakeAfterOne 2147483647 m :=
  observe always [.syscall DSOS_CALL_SPAWN (arguments [1, 2]), .tick] (by decide +kernel)

/-- The largest `int` asked for at the time 1 is over after one cycle. -/
theorem sleep_cut_short : ¬ ∀ m, Reachable constants.toConfig m → 0 ≤ m.store.disastrOS_time →
    ∀ p, m.store.running = some p → ∀ args : Nat → Int, 0 ≤ int32 (args 0) →
      SleepsUntil constants.toConfig (m.store.disastrOS_time + int32 (args 0)) m p args := by
  intro every
  obtain ⟨m, reach, runs, time, seen⟩ := child_asks_for_all
  obtain ⟨m₁, step, waits, time₁, seen⟩ := trial_step seen
  obtain ⟨m₂, step₁, awake⟩ := trial_step seen
  have asleep := every m reach.reachable (by omega) _ runs (arguments [2147483647]) (by decide) m₁ step waits
  refine awake (asleep m₂ (.snoc .nil step₁ fun now scheduled => ?_)).1
  cases scheduled
  rw [time, time₁]
  decide

end DisastrOS
