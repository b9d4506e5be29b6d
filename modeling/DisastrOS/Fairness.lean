import DisastrOS.Refinement.Lines
import DisastrOS.Rotation
import DisastrOS.Sleepers
import DisastrOS.Transfer

/-! No process that is ready starves.

`ready_list` is a waiting line. Only sleepers cut in ahead of it, and each of
them gives a timer back; so the place of a process together with the number of
timers never goes up, and every schedule lowers it.
-/

set_option autoImplicit false

namespace DisastrOS

open Refinement
open Relation (ReflTransGen)

/-! ## What an event does to the line -/

/-- The processes `ahead` cut in ahead of `ready_list`, and `served` left it to run. -/
structure Scene.Advances (k k' : Scene) (ahead : List Addr) (served : Pointer) : Prop where
  line : Refinement.Advances (k.seq .ready_list) ahead served (k'.seq .ready_list)
  runs : ∀ n, served = some n → k'.store.running = some n
  slept : ∀ x ∈ ahead, k.place x = .linked .waiting_list
  timers : k.seq .ready_list ≠ [] →
    ahead.length + (k'.seq .timer_list).length ≤ (k.seq .timer_list).length + served.toList.length

section
variable {c : Config} {k k' j : Scene} {r : Addr}

theorem Scene.Advances.joins (behind : List Addr) (ready : k'.seq .ready_list = k.seq .ready_list ++ behind)
    (timers : k'.seq .timer_list = k.seq .timer_list) : k.Advances k' [] none where
  line := by
    rw [ready]
    exact .joined behind
  runs _ ran := absurd ran.symm (Option.some_ne_none _)
  slept := by simp
  timers _ := by simp [timers]

theorem Scene.Advances.still (ready : k'.seq .ready_list = k.seq .ready_list)
    (timers : k'.seq .timer_list = k.seq .timer_list) : k.Advances k' [] none :=
  .joins [] (by rw [ready, List.append_nil]) timers

theorem Scene.Advances.takes_over {n : Addr} (next : (k.seq .ready_list).head? = some n)
    (ready : k'.seq .ready_list = (k.seq .ready_list).erase n)
    (timers : (k'.seq .timer_list).length ≤ (k.seq .timer_list).length + 1)
    (running : k'.store.running = some n) : k.Advances k' [] (some n) where
  line := by
    obtain ⟨rest, line⟩ := List.head?_eq_some_iff.mp next
    have left : k'.seq .ready_list = rest ++ [] := by simp [ready, line]
    rw [left]
    exact .first [] line
  runs n' same := same ▸ running
  slept := by simp
  timers _ := by simpa [Nat.add_comm] using timers

/-- The loop over the timers, from its first round to its last. -/
theorem Wakes.roused (inv : Coherent c (some r) none k) (wakes : Wakes k j) :
    ∃ ts, Scene.Roused c k j ts ∧ j.Sound c := by
  obtain ⟨⟨prev, rounds⟩, -⟩ := wakes
  suffices all : ∀ s, ReflTransGen WakeRound (k, none) s →
      ∃ ts, Scene.Roused c k s.1 ts ∧ s.2 = (k.sleepers ts).getLast? by
    obtain ⟨ts, roused, -⟩ := all _ rounds
    have chain := (WakeRound.chain (A := fun _ _ => True) (fun _ => trivial) inv (by simp) rounds).1
    exact ⟨ts, roused, (chain.coherent inv).sound⟩
  intro s rounds
  induction rounds with
  | refl => exact ⟨[], .refl, rfl⟩
  | tail rounds round ih =>
    obtain ⟨ts, roused, last⟩ := ih
    have chain := (WakeRound.chain (A := fun _ _ => True) (fun _ => trivial) inv (by simp) rounds).1
    have sound := (chain.coherent inv).sound
    cases round with | @wake j prev t p first due owner =>
    obtain ⟨pcb, store, -⟩ := roused.store
    change j.store = _ at store
    have items : j.store.timer_item = k.store.timer_item := by rw [store]
    have time : j.store.disastrOS_time = k.store.disastrOS_time := by rw [store]
    rw [items] at due owner
    rw [time] at due
    have more : k.sleepers (ts ++ [t]) = k.sleepers ts ++ [p] := by simp [Scene.sleepers, owner]
    cases last
    exact ⟨ts ++ [t], roused.wake sound first due owner, by simp [more]⟩

theorem Scene.Roused.sleepers (inv : Coherent c (some r) none k) {ts : List Addr} (roused : Scene.Roused c k j ts) :
    (k.sleepers ts).length = ts.length ∧ ∀ p ∈ k.sleepers ts, k.place p = .linked .waiting_list := by
  have owned : ∀ t ∈ ts, ∃ p, (k.store.timer_item t).pcb = some p ∧ k.Blocked p DSOS_CALL_SLEEP := by
    intro t member
    apply inv.timers.owner
    apply inv.sound.mem_seq.mp
    rw [roused.timers]
    exact List.mem_append_left _ member
  constructor
  · rw [Scene.sleepers, List.length_filterMap_eq_countP, List.countP_eq_length]
    intro t member
    obtain ⟨p, owner, -⟩ := owned t member
    simp [owner]
  · intro p woken
    obtain ⟨t, member, names⟩ := List.mem_filterMap.mp woken
    obtain ⟨p', owner, blocked⟩ := owned t member
    cases names.symm.trans owner
    exact blocked.1

theorem Schedule.advances (inv : Coherent c (some r) none k)
    (schedules : Schedule r k (.done () k')) : ∃ ahead served, k.Advances k' ahead served ∧
      (k.seq .ready_list ≠ [] →
        served ≠ none ∧ ahead.length + (k'.seq .timer_list).length ≤ (k.seq .timer_list).length) := by
  cases schedules with
  | alone wakes idle =>
    -- with nobody ready afterwards nobody was ready, and nobody woke
    obtain ⟨ts, roused, sound⟩ := wakes.roused inv
    have empty := List.append_eq_nil_iff.mp (roused.ready.symm.trans idle)
    refine ⟨[], none, ⟨?_, fun _ ran => absurd ran.symm (Option.some_ne_none _), by simp,
      fun busy => absurd empty.2 busy⟩, fun busy => absurd empty.2 busy⟩
    rw [idle, empty.2]
    exact .refl
  | @rotates j n wakes ready =>
    obtain ⟨ts, roused, sound⟩ := wakes.roused inv
    obtain ⟨length, slept⟩ := roused.sleepers inv
    obtain ⟨rest, line⟩ := List.head?_eq_some_iff.mp ready
    have timers : (k.sleepers ts).length + ((j.rotate r n).seq .timer_list).length =
        (k.seq .timer_list).length := by
      rw [length, roused.timers, List.length_append]
      simp [Scene.rotate]
    refine ⟨k.sleepers ts, some n, ⟨?_, ?_, slept, fun _ => ?_⟩, fun _ => ⟨Option.some_ne_none n, le_of_eq timers⟩⟩
    · have rotated : (j.rotate r n).seq .ready_list = rest ++ [r] := by simp [Scene.rotate, line]
      rw [rotated]
      exact .first [r] (roused.ready.symm.trans line)
    · rintro n' ⟨⟩
      rfl
    · omega

theorem Sleep.advances (sound : k.Sound c) (sleeps : Sleep r k (.done () k')) :
    ∃ ahead served, k.Advances k' ahead served := by
  cases sleeps with
  | refused full => exact ⟨[], none, .still rfl rfl⟩
  | @dozes t timer wake time n ready =>
    have timed : (insertItem (k.placeTimer wake) t (k.seq .timer_list)).length = (k.seq .timer_list).length + 1 := by
      rw [Scene.placeTimer, insertItem_takeWhile _ (sound.nodup .timer_list), List.length_append, List.length_cons,
        ← Nat.add_assoc, ← List.length_append, List.takeWhile_append_dropWhile]
    refine ⟨[], some n, .takes_over ready ?_ ?_ rfl⟩
    · simp [Scene.dispatch, Scene.block, Scene.startTimer]
    · simp [Scene.dispatch, Scene.block, Scene.startTimer, timed]
  | @allSleep t timer wake time idle =>
    refine ⟨[], none, ⟨?_, fun _ ran => absurd ran.symm (Option.some_ne_none _), by simp, fun busy => absurd idle busy⟩⟩
    have same : (((k.startTimer (k.placeTimer wake) t r wake).block r).run none).seq .ready_list =
        k.seq .ready_list := by simp [Scene.block, Scene.startTimer]
    rw [same]
    exact .refl

theorem NewChild.advances {finish : Addr → Scene → Scene} (same : ∀ p j, (finish p j).toShape = j.toShape)
    (child : NewChild finish r k (.done () k')) : ∃ ahead served, k.Advances k' ahead served := by
  cases child with
  | @child p e pcb unspent ptr =>
    refine ⟨[], none, .joins [p] ?_ ?_⟩ <;> rw [same] <;> simp [Scene.newChild]

theorem Wait.advances (waits : Wait r k (.done () k')) : ∃ ahead served, k.Advances k' ahead served := by
  cases waits with
  | childless nobody => exact ⟨[], none, .still rfl rfl⟩
  | reaps found child zombie => exact ⟨[], none, .still (by simp [Scene.reap]) (by simp [Scene.reap])⟩
  | @blocks e z n found child alive ready =>
    refine ⟨[], some n, .takes_over ready ?_ ?_ rfl⟩ <;> simp [Scene.dispatch, Scene.block]

theorem Suspend.advances {waiting : Addr → Head} {mq : Pointer}
    (elsewhere : ∀ q, Head.ready_list ≠ waiting q ∧ Head.timer_list ≠ waiting q)
    (suspends : Suspend r mq waiting k (.done () k')) : ∃ ahead served, k.Advances k' ahead served := by
  cases suspends with
  | @suspended w q n ptr found ready =>
    refine ⟨[], some n, .takes_over ready ?_ ?_ rfl⟩ <;>
      simp [Scene.dispatch, Scene.enqueue, Scene.block, elsewhere q]

/-- A call that leaves the line and the timers alone. -/
def Scene.SameLine (k k' : Scene) : Prop :=
  k'.seq .ready_list = k.seq .ready_list ∧ k'.seq .timer_list = k.seq .timer_list

theorem Scene.SameLine.advances (same : k.SameLine k') : k.Advances k' [] none := .still same.1 same.2

theorem Reparents.line {i : Addr} (reparents : Reparents r i k j) : k.SameLine j := by
  obtain ⟨rounds, -⟩ := reparents
  induction rounds with
  | refl => exact ⟨rfl, rfl⟩
  | tail _ round ih =>
    cases round
    simpa [Scene.SameLine, Scene.reparent] using ih

theorem DropRound.line (drops : ReflTransGen (DropRound r) k j) : k.SameLine j := by
  induction drops with
  | refl => exact ⟨rfl, rfl⟩
  | tail _ round ih =>
    cases round
    simpa [Scene.SameLine, Scene.dropDescriptor] using ih

theorem Exit.advances (exits : Exit r k (.done () k')) : ∃ ahead served, k.Advances k' ahead served := by
  cases exits with
  | @buried i q n j init reparents parent unawaited ready =>
    obtain ⟨line, timers⟩ := reparents.line
    have next : (k.seq .ready_list).head? = some n := by
      rw [← line]
      exact ready
    refine ⟨[], some n, .takes_over next ?_ ?_ rfl⟩ <;> simp [Scene.dispatch, Scene.bury, line, timers]
  | @resumes i q e j j' init reparents parent awaited entry drops closed =>
    obtain ⟨line, timers⟩ := reparents.line
    obtain ⟨line', timers'⟩ := DropRound.line drops
    refine ⟨[], none, .still ?_ ?_⟩
    · simp [Scene.vanish, line', Scene.resumeParent, Scene.bury, line]
    · simp [Scene.vanish, timers', Scene.resumeParent, Scene.bury, timers]

theorem OpenDescriptor.line {o : Addr} {resource mq : Pointer}
    (opens : OpenDescriptor r o resource mq k (.done () k')) : k.SameLine k' := by
  cases opens with
  | refused full => exact ⟨rfl, rfl⟩
  | opened des unspent ptr => simp [Scene.SameLine, Scene.openDescriptor]

theorem OpenResource.line (opens : OpenResource r k (.done () k')) : k.SameLine k' := by
  cases opens with
  | taken | unknown | mistyped | shared => exact ⟨rfl, rfl⟩
  | creates create absent top opens => simpa [Scene.SameLine, Scene.newResource] using opens.line
  | opens old found type free opens => exact opens.line

theorem OpenMessageQueue.line (opens : OpenMessageQueue r k (.done () k')) : k.SameLine k' := by
  cases opens with
  | taken | unknown | shared => exact ⟨rfl, rfl⟩
  | creates create absent top opens => simpa [Scene.SameLine, Scene.newQueue] using opens.line
  | opens old found free opens => exact opens.line

theorem Close.line {object : Pool} {which : Descriptor → Pointer} (closes : Close object which r k (.done () k')) :
    k.SameLine k' := by
  cases closes with
  | unknown absent => exact ⟨rfl, rfl⟩
  | closed found kind ptr => simp [Scene.SameLine, Scene.closeDescriptor, Scene.dropDescriptor]

theorem Destroy.line {global : Head} {find : Scene → Int → Pointer}
    (elsewhere : Head.ready_list ≠ global ∧ Head.timer_list ≠ global)
    (destroys : Destroy global find r k (.done () k')) : k.SameLine k' := by
  cases destroys with
  | unknown | used => exact ⟨rfl, rfl⟩
  | destroyed found closed => simp [Scene.SameLine, Scene.destroy, elsewhere]

theorem Read.advances (inv : Coherent c (some r) none k) (reads : Read r k (.done () k')) :
    ∃ ahead served, k.Advances k' ahead served := by
  cases reads with
  | waits empty suspends => exact suspends.advances (by simp)
  | short found first long => exact ⟨[], none, .still rfl rfl⟩
  | @takes q m j found first fits wakes user =>
    have taken := inv.moved (.take (inv.sound.first first))
    have woken := wakes.woken taken
    refine ⟨[], none, .joins ((k.detach (.messages q) m).owners (k.seq (.waiting_to_write q))) ?_ ?_⟩
    · simpa [Scene.finishRead] using woken.ready
    · simpa [Scene.finishRead] using woken.others .timer_list (by simp) (by simp) (by simp)

theorem Write.advances (inv : Coherent c (some r) none k) (writes : Write c r k (.done () k')) :
    ∃ ahead served, k.Advances k' ahead served := by
  cases writes with
  | tooLong | unknown => exact ⟨[], none, .still rfl rfl⟩
  | waits fits found full suspends => exact suspends.advances (by simp)
  | @writes q m j fits found room block user wakes =>
    have posted := inv.moved (.post (q := q) (k.arg r 1) block fits)
    have woken := wakes.woken posted
    refine ⟨[], none, .joins ((k.post q m (k.arg r 1) (k.intArg r 2)).owners (k.seq (.waiting_to_read q))) ?_ ?_⟩
    · simpa [Scene.finishWrite, Scene.post] using woken.ready
    · simpa [Scene.finishWrite, Scene.post] using woken.others .timer_list (by simp) (by simp) (by simp)

theorem handler_advances {num : Int} {H : Addr → Scene → Ending → Prop} (handler : Handles c num = some H)
    (inv : Coherent c (some r) none k) (ends : H r k (.done () k')) : ∃ ahead served, k.Advances k' ahead served := by
  cases handler_entry handler with
  | preempt =>
    obtain ⟨ahead, served, advances, -⟩ := Schedule.advances inv ends
    exact ⟨ahead, served, advances⟩
  | fork | spawn => exact NewChild.advances (by intros; rfl) ends
  | wait => exact Wait.advances ends
  | exit => exact Exit.advances ends
  | sleep => exact Sleep.advances inv.sound ends
  | openResource => exact ⟨_, _, (OpenResource.line ends).advances⟩
  | closeResource => exact ⟨_, _, (Close.line ends).advances⟩
  | destroyResource => exact ⟨_, _, (Destroy.line (by simp) ends).advances⟩
  | shutdown => cases ends
  | openMessageQueue => exact ⟨_, _, (OpenMessageQueue.line ends).advances⟩
  | closeMessageQueue => exact ⟨_, _, (Close.line ends).advances⟩
  | write => exact Write.advances inv ends
  | read => exact Read.advances inv ends
  | destroyMessageQueue => exact ⟨_, _, (Destroy.line (by simp) ends).advances⟩

/-- Every event moves the line on. -/
theorem Reacts.advances {e : Event} (inv : Coherent c k.store.running none k)
    (reacts : Reacts c k e (.done () k')) : ∃ ahead served, k.Advances k' ahead served := by
  cases reacts with
  | user memory => exact ⟨_, _, .still rfl rfl⟩
  | outOfRange running range => exact ⟨_, _, .still rfl rfl⟩
  | unknown running range absent => exact ⟨_, _, .still rfl rfl⟩
  | @handled num args r _ H running handler ends logged =>
    obtain ⟨ahead, served, advances⟩ := handler_advances handler (inv.entered running num args) ends
    exact ⟨ahead, served, advances.line, advances.runs, advances.slept, advances.timers⟩
  | @tick r _ running schedules =>
    rw [running] at inv
    obtain ⟨ahead, served, advances, -⟩ := schedules.advances (inv.moved (.tick rfl))
    exact ⟨ahead, served, advances.line, advances.runs, advances.slept, advances.timers⟩
  | proceeds ends =>
    cases ends with
    | resumes running set => exact ⟨_, _, .still rfl rfl⟩
    | restarts idle pcb unspent => exact ⟨_, _, .still (by simp [Scene.restart]) (by simp [Scene.restart])⟩

/-- A schedule serves somebody if anybody waits. -/
theorem Reacts.serves {e : Event} (inv : Coherent c k.store.running none k) (reacts : Reacts c k e (.done () k'))
    (schedules : e.Schedules) (busy : k.seq .ready_list ≠ []) : ∃ ahead n, k.Advances k' ahead (some n) ∧
      ahead.length + (k'.seq .timer_list).length ≤ (k.seq .timer_list).length := by
  have served {r : Addr} {j : Scene} (inv : Coherent c (some r) none j) (same : j.toShape = k.toShape)
      (ends : Schedule r j (.done () k')) : ∃ ahead n, k.Advances k' ahead (some n) ∧
        ahead.length + (k'.seq .timer_list).length ≤ (k.seq .timer_list).length := by
    obtain ⟨ahead, served, advances, takes⟩ := ends.advances inv
    obtain ⟨line, runs, slept, timers⟩ := advances
    rw [same] at line slept timers takes
    obtain ⟨somebody, fewer⟩ := takes busy
    obtain ⟨n, rfl⟩ := Option.ne_none_iff_exists'.mp somebody
    exact ⟨ahead, n, ⟨line, runs, slept, timers⟩, fewer⟩
  cases e with
  | user | proceed => exact absurd schedules id
  | syscall num args =>
    cases schedules
    obtain ⟨r, runs⟩ := reacts.runs
    exact served (inv.entered runs DSOS_CALL_PREEMPT args) rfl (reacts.handler_ends rfl runs)
  | tick =>
    cases reacts with
    | @tick r _ runs ends =>
      rw [runs] at inv
      exact served (inv.moved (.tick rfl)) rfl ends

/-! ## How long the line is -/

theorem Coherent.length_timers {runner : Pointer} (inv : Coherent c runner none k) :
    (k.seq .timer_list).length ≤ (k.seq .waiting_list).length := by
  have owned : ∀ t ∈ k.seq .timer_list, ∃ p, (k.store.timer_item t).pcb = some p ∧ k.Blocked p DSOS_CALL_SLEEP :=
    fun t member => inv.timers.owner (inv.sound.mem_seq.mp member)
  have length : (k.sleepers (k.seq .timer_list)).length = (k.seq .timer_list).length := by
    rw [Scene.sleepers, List.length_filterMap_eq_countP, List.countP_eq_length]
    intro t member
    obtain ⟨p, owner, -⟩ := owned t member
    simp [owner]
  have nodup : (k.sleepers (k.seq .timer_list)).Nodup := by
    refine List.pairwise_filterMap.mpr ((inv.sound.nodup .timer_list).imp_of_mem ?_)
    rintro t t' member member' differ p owner _ owner' rfl
    exact differ (inv.timers.unique (inv.sound.mem_seq.mp member) (inv.sound.mem_seq.mp member')
      (owner.trans owner'.symm))
  have slept : k.sleepers (k.seq .timer_list) ⊆ k.seq .waiting_list := by
    intro p woken
    obtain ⟨t, member, names⟩ := List.mem_filterMap.mp woken
    obtain ⟨p', owner, blocked⟩ := owned t member
    cases names.symm.trans owner
    exact inv.sound.mem_seq.mpr blocked.1
  calc (k.seq .timer_list).length = (k.sleepers (k.seq .timer_list)).length := length.symm
    _ ≤ (k.seq .waiting_list).length := (nodup.subperm slept).length_le

/-- There are no more processes than blocks for them. -/
theorem Coherent.crowd {runner : Pointer} (inv : Coherent c runner none k) :
    runner.toList.length + (k.seq .ready_list).length + (k.seq .waiting_list).length ≤ c.num_items .pcb := by
  have apart : (runner.toList ++ (k.seq .ready_list ++ k.seq .waiting_list)).Nodup := by
    refine List.nodup_append.mpr ⟨by cases runner <;> simp, List.nodup_append.mpr
      ⟨inv.sound.nodup .ready_list, inv.sound.nodup .waiting_list, ?_⟩, ?_⟩
    · rintro p ready _ waits rfl
      cases (inv.sound.mem_seq.mp ready).symm.trans (inv.sound.mem_seq.mp waits)
    · rintro p runs _ member rfl
      have unlinked := inv.processes.not_waiting (Option.mem_toList.mp runs)
      rcases List.mem_append.mp member with ready | waits
      · cases unlinked.symm.trans (inv.sound.mem_seq.mp ready)
      · cases unlinked.symm.trans (inv.sound.mem_seq.mp waits)
  have processes : (runner.toList ++ (k.seq .ready_list ++ k.seq .waiting_list)).toFinset ⊆ k.outstanding c .pcb := by
    intro p member
    rw [List.mem_toFinset, List.mem_append, List.mem_append] at member
    apply Scene.mem_outstanding.mpr
    rcases member with runs | ready | waits
    · exact inv.processes.runs (Option.mem_toList.mp runs)
    · exact ⟨inv.sound.live (inv.sound.mem_seq.mp ready), inv.sound.kind (inv.sound.mem_seq.mp ready)⟩
    · exact ⟨inv.sound.live (inv.sound.mem_seq.mp waits), inv.sound.kind (inv.sound.mem_seq.mp waits)⟩
  have fits := Finset.card_le_card processes
  have pcbs := inv.sound.outstanding_add_free .pcb
  rw [List.toFinset_card_of_nodup apart, List.length_append, List.length_append] at fits
  omega

end

/-! ## Runs -/

instance : DecidablePred Event.Schedules
  | .user _ => inferInstanceAs (Decidable False)
  | .syscall num _ => inferInstanceAs (Decidable (num = DSOS_CALL_PREEMPT))
  | .tick => inferInstanceAs (Decidable True)
  | .proceed => inferInstanceAs (Decidable False)

/-- The place of `p` in `ready_list`, and the timers that may let others cut in. -/
def Kernel.turns (m : Kernel) (p : Addr) : Nat := (m.list .ready_list).idxOf p + (m.list .timer_list).length

/-- The context of every process that may come to run is set. -/
def Kernel.Resumable (m : Kernel) : Prop :=
  ∀ q ∈ m.list .ready_list ++ m.list .waiting_list, (m.store.pcb q).cpu_state ≠ .unset

instance (m : Kernel) : Decidable m.Resumable :=
  inferInstanceAs (Decidable (∀ q ∈ m.list .ready_list ++ m.list .waiting_list, (m.store.pcb q).cpu_state ≠ .unset))

/-- A run in which `p` does not run. -/
def RunWithout (c : Config) (p : Addr) : Kernel → List Event → Kernel → Prop :=
  RunWhile (Step c) fun m => m.store.running ≠ some p

section
variable {c : Constants} {m m' : Kernel} {e : Event} {es : List Event} {p q : Addr}

theorem Reachable.turns_lt (reach : Reachable c.toConfig m) (ready : p ∈ m.list .ready_list) :
    m.store.running.toList.length + m.turns p < c.num_items .pcb := by
  obtain ⟨k, shows, inv, -⟩ := reach.shows
  have line := List.idxOf_lt_length_of_mem ready
  have timers := inv.length_timers
  have crowd := inv.crowd
  rw [Kernel.turns, shows.store, shows.list, shows.list]
  rw [shows.list] at line
  omega

/-- A process that is ready moves up when somebody runs, and nothing sets it back. -/
theorem Step.turns (reach : Reachable c.toConfig m) (step : Step c.toConfig m e m') (ready : p ∈ m.list .ready_list)
    (idle : m'.store.running ≠ some p) :
    p ∈ m'.list .ready_list ∧ m'.turns p + (if e.Schedules then 1 else 0) ≤ m.turns p := by
  obtain ⟨k, shows, inv, -⟩ := reach.shows
  obtain ⟨k', shows', reacts⟩ := step.reacts shows inv
  rw [shows.list] at ready
  rw [shows'.store] at idle
  have busy := List.ne_nil_of_mem ready
  have moves {ahead : List Addr} {served : Pointer} (advances : k.Advances k' ahead served) :
      p ∈ k'.seq .ready_list ∧ (k'.seq .ready_list).idxOf p + served.toList.length =
        (k.seq .ready_list).idxOf p + ahead.length := by
    have unserved : served ≠ some p := fun here => idle (advances.runs p here)
    have polite : p ∉ ahead := by
      intro cuts
      cases (inv.sound.mem_seq.mp ready).symm.trans (advances.slept p cuts)
    exact ⟨advances.line.waits ready unserved, advances.line.place ready polite unserved⟩
  rw [shows'.list, Kernel.turns, Kernel.turns, shows'.list, shows'.list, shows.list, shows.list]
  split
  next schedules =>
    obtain ⟨ahead, n, advances, timers⟩ := reacts.serves inv schedules busy
    obtain ⟨still, place⟩ := moves advances
    exact ⟨still, by simp at place; omega⟩
  next other =>
    obtain ⟨ahead, served, advances⟩ := reacts.advances inv
    obtain ⟨still, place⟩ := moves advances
    exact ⟨still, by have := advances.timers busy; omega⟩

theorem Step.in_order (reach : Reachable c.toConfig m) (step : Step c.toConfig m e m')
    (readyP : p ∈ m.list .ready_list) (readyQ : q ∈ m.list .ready_list)
    (order : (m.list .ready_list).idxOf p < (m.list .ready_list).idxOf q) (idle : m'.store.running ≠ some p) :
    p ∈ m'.list .ready_list ∧ q ∈ m'.list .ready_list ∧
      (m'.list .ready_list).idxOf p < (m'.list .ready_list).idxOf q := by
  obtain ⟨k, shows, inv, -⟩ := reach.shows
  obtain ⟨k', shows', reacts⟩ := step.reacts shows inv
  obtain ⟨ahead, served, advances⟩ := reacts.advances inv
  rw [shows.list] at readyP readyQ order
  rw [shows'.store] at idle
  have unserved : served ≠ some p := fun here => idle (advances.runs p here)
  have polite {x : Addr} (ready : x ∈ k.seq .ready_list) : x ∉ ahead := by
    intro cuts
    cases (inv.sound.mem_seq.mp ready).symm.trans (advances.slept x cuts)
  rw [shows'.list]
  exact ⟨advances.line.waits readyP unserved,
    advances.line.waits readyQ (advances.line.in_turn order readyQ (polite readyQ)),
    advances.line.in_order order ⟨readyP, readyQ⟩ ⟨polite readyP, polite readyQ⟩ unserved⟩

theorem RunWithout.turns (run : RunWithout c.toConfig p m es m') (reach : Reachable c.toConfig m)
    (ready : p ∈ m.list .ready_list) :
    p ∈ m'.list .ready_list ∧ m'.turns p + es.countP (fun e => e.Schedules) ≤ m.turns p := by
  obtain ⟨⟨-, still⟩, rank⟩ := run.ranked (fun m => m.turns p) Event.Schedules
    (I := fun m => Reachable c.toConfig m ∧ p ∈ m.list .ready_list) (fun _ holds step idle => by
      obtain ⟨still, lower⟩ := step.turns holds.1 holds.2 idle
      exact ⟨⟨holds.1.step step, still⟩, lower⟩) ⟨reach, ready⟩
  exact ⟨still, rank⟩

/-- No ready process is passed over more often than its place in `ready_list` and the
number of timers say, whatever the others do. -/
theorem ready_served (c : Constants) {m m' : Kernel} {p : Addr} {es : List Event} (reach : Reachable c.toConfig m)
    (ready : p ∈ m.list .ready_list) (run : RunWithout c.toConfig p m es m') :
    p ∈ m'.list .ready_list ∧ m'.turns p + es.countP (fun e => e.Schedules) ≤ m.turns p ∧
      m.turns p < c.num_items .pcb := by
  have bound := reach.turns_lt ready
  obtain ⟨still, rank⟩ := run.turns reach ready
  exact ⟨still, rank, by omega⟩

def FirstChildNext (m : Kernel) : Prop :=
  ((trial_from constants.toConfig always [.tick] m).any fun m' => m'.store.running = some (block .pcb 1)) = true

instance (m : Kernel) : Decidable (FirstChildNext m) := inferInstanceAs (Decidable (_ = _))

/-- Three children are ready. -/
def three_ready : Observed always fun m => m.list .ready_list = [block .pcb 1, block .pcb 2, block .pcb 3] ∧
    m.store.running = some (block .pcb 0) ∧ m.turns (block .pcb 2) = 1 ∧ m.Resumable ∧ FirstChildNext m :=
  observe always [.syscall DSOS_CALL_SPAWN (arguments [1, 2]), .syscall DSOS_CALL_SPAWN (arguments [1, 2]),
    .syscall DSOS_CALL_SPAWN (arguments [1, 2])] (by decide +kernel)

theorem second_waits {m : Kernel} (runs : m.store.running = some (block .pcb 0)) (next : FirstChildNext m) :
    ∃ m', RunWithout constants.toConfig (block .pcb 2) m [.tick] m' := by
  obtain ⟨m', step, first⟩ := trial_step next
  refine ⟨m', .single ?_ step ?_⟩
  · rw [runs]
    decide
  · rw [first]
    decide

/-- The second child is passed over once, and no more. -/
theorem ready_served_second : ∃ m m', Reachable constants.toConfig m ∧
    RunWithout constants.toConfig (block .pcb 2) m [.tick] m' ∧ block .pcb 2 ∈ m'.list .ready_list ∧
    m'.turns (block .pcb 2) = 0 := by
  obtain ⟨m, reached, ready, runs, turns, -, next⟩ := three_ready
  obtain ⟨m', run⟩ := second_waits runs next
  obtain ⟨still, rank, -⟩ := ready_served constants reached.reachable (by simp [ready]) run
  have schedules : ([.tick] : List Event).countP (fun e => e.Schedules) = 1 := by decide
  rw [turns, schedules] at rank
  exact ⟨m, m', reached.reachable, run, still, by omega⟩

/-- Nobody overtakes a ready process: who is behind it stays behind it, and does not run before it. -/
theorem not_overtaken (c : Constants) {m m' : Kernel} {p q : Addr} {es : List Event} (reach : Reachable c.toConfig m)
    (ahead : (m.list .ready_list).idxOf p < (m.list .ready_list).idxOf q)
    (ready : p ∈ m.list .ready_list ∧ q ∈ m.list .ready_list) (run : RunWithout c.toConfig p m es m') :
    m'.store.running ≠ some q ∧ p ∈ m'.list .ready_list ∧ q ∈ m'.list .ready_list ∧
      (m'.list .ready_list).idxOf p < (m'.list .ready_list).idxOf q := by
  have all := run.keeps (I := fun m => Reachable c.toConfig m ∧ p ∈ m.list .ready_list ∧ q ∈ m.list .ready_list ∧
      (m.list .ready_list).idxOf p < (m.list .ready_list).idxOf q) (fun _ holds step idle => by
    obtain ⟨reach, readyP, readyQ, order⟩ := holds
    exact ⟨reach.step step, step.in_order reach readyP readyQ order idle⟩) ⟨reach, ready.1, ready.2, ahead⟩
  obtain ⟨reach', readyP, readyQ, order⟩ := all
  refine ⟨fun runs => ?_, readyP, readyQ, order⟩
  -- who runs is in no list
  obtain ⟨k, shows, inv, -⟩ := reach'.shows
  rw [shows.store] at runs
  cases (inv.processes.not_waiting runs).symm.trans (shows.mem_list.mp readyQ)

/-- The third child does not run before the second. -/
theorem not_overtaken_third : ∃ m m', Reachable constants.toConfig m ∧
    RunWithout constants.toConfig (block .pcb 2) m [.tick] m' ∧ m'.store.running ≠ some (block .pcb 3) := by
  obtain ⟨m, reached, ready, runs, turns, -, next⟩ := three_ready
  obtain ⟨m', run⟩ := second_waits runs next
  have order : (m.list .ready_list).idxOf (block .pcb 2) < (m.list .ready_list).idxOf (block .pcb 3) := by
    rw [ready]
    decide
  exact ⟨m, m', reached.reachable, run,
    (not_overtaken constants reached.reachable order (by simp [ready]) run).1⟩

theorem Reachable.ready_idle (reach : Reachable c.toConfig m) (ready : p ∈ m.list .ready_list) :
    m.store.running ≠ some p := by
  intro runs
  obtain ⟨k, shows, inv, -⟩ := reach.shows
  rw [shows.store] at runs
  cases (inv.processes.not_waiting runs).symm.trans (shows.mem_list.mp ready)

end

/-! ## Ticks -/

section
variable {c : Config} {k k' : Scene} {r q : Addr}

theorem Schedule.contexts (schedules : Schedule r k (.done () k')) :
    (k'.store.pcb q).cpu_state = (k.store.pcb q).cpu_state := by
  have rounds {s : Scene × Pointer} (rounds : ReflTransGen WakeRound (k, none) s) :
      (s.1.store.pcb q).cpu_state = (k.store.pcb q).cpu_state := by
    induction rounds with
    | refl => rfl
    | tail _ round ih =>
      cases round
      rw [← ih]
      simp [Scene.wakeSleeper]
  cases schedules with
  | alone wakes idle =>
    obtain ⟨prev, all⟩ := wakes.1
    exact rounds all
  | rotates wakes ready =>
    obtain ⟨prev, all⟩ := wakes.1
    rw [← rounds all]
    simp [Scene.rotate]

theorem Schedule.origin (inv : Coherent c (some r) none k) (runs : k.store.running = some r)
    (schedules : Schedule r k (.done () k'))
    (able : k'.store.running = some q ∨ q ∈ k'.seq .ready_list ∨ q ∈ k'.seq .waiting_list) :
    q = r ∨ q ∈ k.seq .ready_list ∨ q ∈ k.seq .waiting_list := by
  have before {j : Scene} (wakes : Wakes k j) (there : q ∈ j.seq .ready_list ∨ q ∈ j.seq .waiting_list) :
      q ∈ k.seq .ready_list ∨ q ∈ k.seq .waiting_list := by
    obtain ⟨ts, roused, -⟩ := wakes.roused inv
    rw [roused.ready, roused.slept, List.mem_append, List.mem_filter] at there
    rcases there with (woken | ready) | ⟨waits, -⟩
    · exact .inr (inv.sound.mem_seq.mpr ((roused.sleepers inv).2 q woken))
    · exact .inl ready
    · exact .inr waits
  cases schedules with
  | alone wakes idle =>
    rcases able with here | there
    · rw [wakes.running, runs] at here
      exact .inl (Option.some.inj here).symm
    · exact .inr (before wakes there)
  | @rotates j n wakes ready =>
    have first := List.mem_of_mem_head? ready
    simp only [Scene.rotate, Scene.store_run, Scene.toShape_run, Scene.toShape_setPCB, Scene.toShape_append] at able
    rcases able with here | there | waits
    · cases here
      exact .inr (before wakes (.inl first))
    · simp at there
      rcases there with ready | rfl
      · exact .inr (before wakes (.inl (List.mem_of_mem_erase ready)))
      · exact .inl rfl
    · simp at waits
      exact .inr (before wakes (.inr waits))

end

section
variable {c : Constants} {m m' : Kernel} {p r : Addr}

theorem proceed_resumes {c : Config} (runs : m.store.running = some r) (set : (m.store.pcb r).cpu_state ≠ .unset) :
    Step c m .proceed m :=
  ⟨0, by simp [Event.code, proceed, Program.run_bind, DisastrOS.get, Program.get, Program.run, Outcome.bind, runs, set]⟩

theorem Reachable.ticks (reach : Reachable c.toConfig m) (somebody : m.store.running ≠ none) (set : m.Resumable) :
    ∃ m', Step c.toConfig m .tick m' ∧ Step c.toConfig m' .proceed m' ∧ m'.store.running ≠ none ∧ m'.Resumable := by
  obtain ⟨k, shows, inv, -⟩ := reach.shows
  rw [shows.store] at somebody
  rcases shows.outcome inv .tick with ⟨m', k', step, shows', reacts⟩ | ⟨stop, -, reacts⟩ | reacts
  · cases reacts with
    | @tick r _ runs schedules =>
      rw [runs] at inv
      have ticked : Coherent c.toConfig (some r) none (k.tick r) := inv.moved (.tick rfl)
      have saved (q : Addr) (able : k'.store.running = some q ∨ q ∈ k'.seq .ready_list ∨ q ∈ k'.seq .waiting_list) :
          (k'.store.pcb q).cpu_state ≠ .unset := by
        rw [schedules.contexts]
        by_cases self : q = r
        · simp [Scene.tick, self]
        rcases (schedules.origin ticked runs able).resolve_left self with ready | waits
        · simpa [Scene.tick, self, ← shows.store] using set q (List.mem_append_left _ (shows.list _ ▸ ready))
        · simpa [Scene.tick, self, ← shows.store] using set q (List.mem_append_right _ (shows.list _ ▸ waits))
      obtain ⟨n, next⟩ : ∃ n, k'.store.running = some n := by
        cases schedules with
        | alone wakes idle => exact ⟨r, wakes.running.trans runs⟩
        | rotates wakes ready => exact ⟨_, rfl⟩
      have next' : m'.store.running = some n := by rw [shows'.store, next]
      refine ⟨m', step, proceed_resumes next' ?_, by simp [next'], fun q able => ?_⟩
      · rw [shows'.store]
        exact saved n (.inl next)
      · rw [List.mem_append, shows'.list, shows'.list] at able
        rw [shows'.store]
        exact saved q (.inr able)
  · cases reacts with
    | lateTick idle => exact absurd idle somebody
  · cases reacts

/-- The ticks of the timer, each followed by the resumption of a process. -/
def Event.cycles (n : Nat) : List Event := (List.replicate n [.tick, .proceed]).flatten

theorem Event.cycles_succ (n : Nat) : Event.cycles (n + 1) = Event.cycles n ++ [.tick] ++ [.proceed] := by
  simp [Event.cycles, List.replicate_succ']

theorem Event.countP_cycles (n : Nat) : (Event.cycles n).countP (fun e => e.Schedules) = n := by
  induction n with
  | zero => rfl
  | succ n ih =>
    have once : ([.tick] : List Event).countP (fun e => e.Schedules) = 1 := by decide
    have never : ([.proceed] : List Event).countP (fun e => e.Schedules) = 0 := by decide
    rw [Event.cycles_succ, List.countP_append, List.countP_append, ih, once, never]

/-- While anybody runs at all and no context is missing, the timer alone brings a ready
process to its turn. -/
theorem ticks_serve (c : Constants) {m : Kernel} {p : Addr} (reach : Reachable c.toConfig m)
    (somebody : m.store.running ≠ none) (set : m.Resumable) (ready : p ∈ m.list .ready_list) :
    ∃ n, n ≤ m.turns p + 1 ∧ ∃ m', Run c.toConfig m (Event.cycles n) m' ∧ m'.store.running = some p := by
  -- tick by tick, either `p` has run or it waits still
  have ticking (n : Nat) : (∃ i, i ≤ n ∧ ∃ m', Run c.toConfig m (Event.cycles i) m' ∧
        m'.store.running = some p) ∨
      ∃ m', Run c.toConfig m (Event.cycles n) m' ∧ RunWithout c.toConfig p m (Event.cycles n) m' ∧
        Reachable c.toConfig m' ∧ m'.store.running ≠ none ∧ m'.Resumable := by
    induction n with
    | zero => exact .inr ⟨m, .nil m, .nil (reach.ready_idle ready), reach, somebody, set⟩
    | succ n ih =>
      rcases ih with ⟨i, small, served⟩ | ⟨m', run, without, reach', somebody', set'⟩
      · exact .inl ⟨i, by omega, served⟩
      obtain ⟨m'', tick, proceed, goes_on, set''⟩ := reach'.ticks somebody' set'
      have longer : Run c.toConfig m (Event.cycles (n + 1)) m'' := by
        rw [Event.cycles_succ]
        exact .snoc (.snoc run tick) proceed
      by_cases runs : m''.store.running = some p
      · exact .inl ⟨n + 1, le_refl _, m'', longer, runs⟩
      · refine .inr ⟨m'', longer, ?_, (reach'.step tick).step proceed, goes_on, set''⟩
        rw [Event.cycles_succ]
        exact .snoc (.snoc without tick runs) proceed runs
  rcases ticking (m.turns p + 1) with served | ⟨m', run, without, -⟩
  · exact served
  · have bound := (without.turns reach ready).2
    rw [Event.countP_cycles] at bound
    omega

/-- Two ticks are enough for the second of three children. -/
theorem ticks_serve_second : ∃ m, Reachable constants.toConfig m ∧ ∃ n, n ≤ 2 ∧
    ∃ m', Run constants.toConfig m (Event.cycles n) m' ∧ m'.store.running = some (block .pcb 2) := by
  obtain ⟨m, reached, ready, runs, turns, set, -⟩ := three_ready
  have served := ticks_serve constants reached.reachable (p := block .pcb 2) (by simp [runs]) set (by simp [ready])
  rw [turns] at served
  exact ⟨m, reached.reachable, served⟩

/-! ## Sleepers -/

def Event.Ticks : Event → Prop
  | .tick => True
  | _ => False

instance : DecidablePred Event.Ticks
  | .tick => inferInstanceAs (Decidable True)
  | .user _ | .syscall _ _ | .proceed => inferInstanceAs (Decidable False)

/-- `p` is ready, or sleeps until the time `due`, which has not gone by. -/
def Kernel.Rests (m : Kernel) (p : Addr) (due : Int) : Prop :=
  p ∈ m.list .ready_list ∨ (0 ≤ m.store.disastrOS_time ∧ m.store.disastrOS_time ≤ due) ∧
    Asleep m p ∧ ∃ t ∈ m.list .timer_list, m.store.timer_item t = ⟨due, some p⟩

/-- The cycles that may go by before `p` runs. -/
def Kernel.patience (c : Config) (m : Kernel) (p : Addr) (due : Int) : Nat :=
  if p ∈ m.list .ready_list then m.turns p
  else (due - m.store.disastrOS_time).toNat + (c.num_items .pcb - 1)

end

theorem Shows.dozes {c : Config} {m : Kernel} {k : Scene} (shows : Shows c m k) {p : Addr} {due : Int} :
    k.Dozes p due ↔ Asleep m p ∧ ∃ t ∈ m.list .timer_list, m.store.timer_item t = ⟨due, some p⟩ := by
  simp only [Scene.Dozes, Scene.Blocked, Asleep, shows.mem_list, shows.store]

theorem Schedule.rouses {c : Config} {k k' : Scene} {r p : Addr} (inv : Coherent c (some r) none k)
    (waits : k.place p = .linked .waiting_list) (schedules : Schedule r k (.done () k')) :
    p ∈ k'.seq .waiting_list ∨ p ∈ k'.seq .ready_list ∨ k'.store.running = some p := by
  have rises {j : Scene} (wakes : Wakes k j) : p ∈ j.seq .waiting_list ∨ p ∈ j.seq .ready_list := by
    obtain ⟨ts, roused, -⟩ := wakes.roused inv
    rw [roused.slept, roused.ready, List.mem_filter, List.mem_append]
    by_cases woken : p ∈ k.sleepers ts
    · exact .inr (.inl woken)
    · exact .inl ⟨inv.sound.mem_seq.mpr waits, by simpa using woken⟩
  cases schedules with
  | alone wakes idle => exact (rises wakes).imp_right .inl
  | @rotates j n wakes ready =>
    obtain ⟨rest, line⟩ := List.head?_eq_some_iff.mp ready
    rcases rises wakes with asleep | awake
    · exact .inl (by simpa [Scene.rotate] using asleep)
    rw [line, List.mem_cons] at awake
    rcases awake with rfl | behind
    · exact .inr (.inr rfl)
    · exact .inr (.inl (by simp [Scene.rotate, line, behind]))

section
variable {c : Config} {k k' : Scene} {e : Event} {p : Addr}

theorem Reacts.rouses (inv : Coherent c k.store.running none k) (reacts : Reacts c k e (.done () k'))
    (schedules : e.Schedules) (waits : k.place p = .linked .waiting_list) : k'.store.running ≠ none ∧
      (p ∈ k'.seq .waiting_list ∨ p ∈ k'.seq .ready_list ∨ k'.store.running = some p) := by
  have goes_on {r : Addr} {j : Scene} (runs : j.store.running = some r) (ends : Schedule r j (.done () k')) :
      k'.store.running ≠ none := by
    cases ends with
    | alone wakes idle =>
      rw [wakes.running, runs]
      exact nofun
    | rotates wakes ready => exact nofun
  cases e with
  | user | proceed => exact absurd schedules id
  | syscall num args =>
    cases schedules
    obtain ⟨r, runs⟩ := reacts.runs
    have ends : Schedule r (k.enter r DSOS_CALL_PREEMPT args) (.done () k') := reacts.handler_ends rfl runs
    exact ⟨goes_on (j := k.enter r DSOS_CALL_PREEMPT args) runs ends, ends.rouses (inv.entered runs DSOS_CALL_PREEMPT args) waits⟩
  | tick =>
    cases reacts with
    | @tick r _ runs ends =>
      rw [runs] at inv
      exact ⟨goes_on (j := k.tick r) runs ends, ends.rouses (inv.moved (.tick rfl)) waits⟩

theorem Reacts.time (inv : Coherent c k.store.running none k) (counted : Counted c k)
    (reacts : Reacts c k e (.done () k')) : k'.store.disastrOS_time =
      if e.Ticks then int32 (k.store.disastrOS_time + 1) else k.store.disastrOS_time := by
  cases e with
  | user memory =>
    cases reacts
    rfl
  | syscall | proceed =>
    refine ((reacts.chain inv counted).keeps (J := fun P => P.scene.store.disastrOS_time =
      k.store.disastrOS_time) inv (fun does _ move same => (move.time ?_).trans same) rfl).2
    rintro rfl
    cases does.ticked
  | tick =>
    cases reacts with
    | @tick r _ runs schedules =>
      rw [runs] at inv
      have chain := schedules.chain (A := fun _ tag => tag ≠ .ticked) (fun _ => nofun) (fun _ => nofun)
        (inv.moved (.tick rfl)) runs
      exact (chain.keeps (J := fun P => P.scene.store.disastrOS_time = int32 (k.store.disastrOS_time + 1))
        (inv.moved (.tick rfl)) (fun ok _ move same => (move.time ok).trans same) rfl).2

end

section
variable {c : Constants} {m m' : Kernel} {e : Event} {es : List Event} {p : Addr} {due : Int}

/-- A sleeper is woken by the first schedule that is due, and waits for its turn then. -/
theorem Step.rests (reach : Reachable c.toConfig m) (step : Step c.toConfig m e m') (small : due < INT_MAX)
    (rests : m.Rests p due) (idle : m'.store.running ≠ some p) :
    m'.Rests p due ∧ m'.patience c.toConfig p due + (if e.Ticks then 1 else 0) ≤ m.patience c.toConfig p due := by
  -- once it is ready its turns are its patience
  by_cases ready : p ∈ m.list .ready_list
  · obtain ⟨still, lower⟩ := step.turns reach ready idle
    refine ⟨.inl still, ?_⟩
    have ticks : (if e.Ticks then 1 else 0) ≤ if e.Schedules then 1 else 0 := by
      cases e <;> simp [Event.Ticks, Event.Schedules]
    simp only [Kernel.patience, ready, still, if_true]
    omega
  obtain ⟨⟨since, early⟩, asleep⟩ := rests.resolve_left ready
  obtain ⟨k, shows, inv, counted⟩ := reach.shows
  obtain ⟨k', shows', reacts⟩ := step.reacts shows inv
  have dozes := shows.dozes.mpr asleep
  have patience : m.patience c.toConfig p due = (due - m.store.disastrOS_time).toNat + (c.num_items .pcb - 1) :=
    if_neg ready
  rw [patience]
  by_cases late : ∃ time ∈ scheduleTime m e, due ≤ time
  · -- it is woken now, and others may still be ahead of it
    have schedules : e.Schedules := by
      obtain ⟨time, scheduled, -⟩ := late
      cases e with
      | user | proceed => cases scheduled
      | tick => trivial
      | syscall num args =>
        by_contra other
        exact absurd scheduled (by simp [scheduleTime, show num ≠ DSOS_CALL_PREEMPT from other])
    have awake := reacts.awakens shows inv late dozes
    obtain ⟨somebody, placed⟩ := reacts.rouses inv schedules dozes.1.1
    have inv' := (reacts.chain inv counted).coherent inv
    have ready' : p ∈ m'.list .ready_list := by
      rw [shows'.list]
      rw [shows'.store] at idle
      rcases placed with waits | there | runs
      · exact absurd (inv'.sound.mem_seq.mp waits) awake
      · exact there
      · exact absurd runs idle
    have round := (reach.step step).turns_lt ready'
    obtain ⟨n, running⟩ := Option.ne_none_iff_exists'.mp somebody
    rw [shows'.store, running, Option.toList_some, List.length_singleton] at round
    refine ⟨.inl ready', ?_⟩
    simp only [Kernel.patience, ready', if_true]
    have tick : (if e.Ticks then 1 else 0) ≤ 1 := by split <;> omega
    omega
  · have before : ∀ time ∈ scheduleTime m e, time < due := fun time scheduled =>
      not_le.mp fun here => late ⟨time, scheduled, here⟩
    have dozes' := reacts.dozes shows inv counted before dozes
    have unready : p ∉ m'.list .ready_list := by
      intro there
      cases dozes'.1.1.symm.trans (shows'.mem_list.mp there)
    have time := reacts.time inv counted
    rw [← shows.store, ← shows'.store] at time
    have patience' : m'.patience c.toConfig p due =
        (due - m'.store.disastrOS_time).toNat + (c.num_items .pcb - 1) := if_neg unready
    rw [patience']
    by_cases ticks : e.Ticks
    · rw [if_pos ticks] at time ⊢
      cases e with
      | user | syscall | proceed => exact absurd ticks id
      | tick =>
        -- the clock does not wrap before `due`
        have next : int32 (m.store.disastrOS_time + 1) = m.store.disastrOS_time + 1 := by
          simp only [INT_MAX] at small
          exact int32_eq (by omega) (by omega)
        have due' := before _ rfl
        rw [next] at time due'
        exact ⟨.inr ⟨⟨by omega, by omega⟩, shows'.dozes.mp dozes'⟩, by omega⟩
    · rw [if_neg ticks] at time ⊢
      rw [time]
      exact ⟨.inr ⟨⟨by omega, by omega⟩, shows'.dozes.mp dozes'⟩, by omega⟩

/-- A process that sleeps for `n` cycles runs again before `n + MAX_NUM_PROCESSES` cycles have gone by. -/
theorem sleeper_runs_again (c : Constants) {m m₁ m' : Kernel} {p : Addr} {args : Nat → Int} {es : List Event}
    (reach : Reachable c.toConfig m) (since : 0 ≤ m.store.disastrOS_time) (runs : m.store.running = some p)
    (asked : 0 ≤ int32 (args 0)) (fits : m.store.disastrOS_time + int32 (args 0) < INT_MAX)
    (call : Step c.toConfig m (.syscall DSOS_CALL_SLEEP args) m₁) (run : RunWithout c.toConfig p m₁ es m') :
    es.countP (fun e => e.Ticks) + 1 ≤ (int32 (args 0)).toNat + c.num_items .pcb := by
  obtain ⟨k, shows, inv, counted⟩ := reach.shows
  obtain ⟨k₁, shows₁, reacts⟩ := call.reacts shows inv
  rw [shows.store] at since runs fits
  have sleeps : Sleep p (k.enter p DSOS_CALL_SLEEP args) (.done () k₁) := reacts.handler_ends rfl runs
  have alone := inv.processes.runs runs
  have unlinked : (k.enter p DSOS_CALL_SLEEP args).place p = .unlinked := inv.processes.not_waiting runs
  have sound : (k.enter p DSOS_CALL_SLEEP args).Sound c.toConfig := inv.sound
  have idle := run.starts
  rw [shows₁.store] at idle
  -- with no timer left it would go on
  have waits : k₁.place p = .linked .waiting_list := by
    cases sleeps with
    | refused full => exact absurd runs idle
    | @dozes t timer wake time n ready =>
      have other : p ≠ n := by
        rintro rfl
        cases unlinked.symm.trans (sound.first ready)
      simp [Scene.dispatch, Scene.block, other]
    | allSleep timer time idle => simp [Scene.block]
  have asks : (k.enter p DSOS_CALL_SLEEP args).intArg p 0 = int32 (args 0) := intArg_enter (by decide)
  have now : (k.enter p DSOS_CALL_SLEEP args).store.disastrOS_time = k.store.disastrOS_time := rfl
  have wake : int32 (k.store.disastrOS_time + int32 (args 0)) = k.store.disastrOS_time + int32 (args 0) := by
    simp only [INT_MAX] at fits
    exact int32_eq (by omega) (by omega)
  have dozes := sleeps.has_timer alone.2 unlinked (by simp) sound waits
  rw [now, asks, wake] at dozes
  have time : m₁.store.disastrOS_time = k.store.disastrOS_time := by
    rw [shows₁.store, reacts.time inv counted]
    rfl
  have unready : p ∉ m₁.list .ready_list := by
    intro there
    cases waits.symm.trans (shows₁.mem_list.mp there)
  have rests : m₁.Rests p (k.store.disastrOS_time + int32 (args 0)) := by
    refine .inr ⟨?_, shows₁.dozes.mp dozes⟩
    rw [time]
    omega
  have patience : m₁.patience c.toConfig p (k.store.disastrOS_time + int32 (args 0)) =
      (int32 (args 0)).toNat + (c.num_items .pcb - 1) := by
    rw [Kernel.patience, if_neg unready, time, add_sub_cancel_left]
  have ranked := (run.ranked (fun m => m.patience c.toConfig p (k.store.disastrOS_time + int32 (args 0))) Event.Ticks
    (I := fun m => Reachable c.toConfig m ∧ m.Rests p (k.store.disastrOS_time + int32 (args 0)))
    (fun _ holds step idle => by
      obtain ⟨rests, lower⟩ := step.rests holds.1 fits holds.2 idle
      exact ⟨⟨holds.1.step step, rests⟩, lower⟩) ⟨reach.step call, rests⟩).2
  rw [patience] at ranked
  have blocks := c.positive .pcb
  omega

end

def SleepsOnce (m : Kernel) : Prop :=
  ((trial_from constants.toConfig always [.syscall DSOS_CALL_SLEEP (arguments [2])] m).any fun m₁ =>
    m₁.store.running = some (block .pcb 1) ∧
      ((trial_from constants.toConfig always [.tick] m₁).any fun m₂ =>
        m₂.store.running = some (block .pcb 1)) = true) = true

instance (m : Kernel) : Decidable (SleepsOnce m) := inferInstanceAs (Decidable (_ = _))

def about_to_sleep : Observed always fun m => m.store.running = some (block .pcb 0) ∧
    m.store.disastrOS_time = 0 ∧ SleepsOnce m :=
  observe always [.syscall DSOS_CALL_SPAWN (arguments [1, 2])] (by decide +kernel)

theorem sleeper_runs_again_two : ∃ m m₁ m', Reachable constants.toConfig m ∧
    Step constants.toConfig m (.syscall DSOS_CALL_SLEEP (arguments [2])) m₁ ∧
    RunWithout constants.toConfig (block .pcb 0) m₁ [.tick] m' ∧
    ([.tick] : List Event).countP (fun e => e.Ticks) + 1 ≤ 2 + constants.num_items .pcb := by
  obtain ⟨m, reached, runs, time, sleeps⟩ := about_to_sleep
  obtain ⟨m₁, call, child, sleeps⟩ := trial_step sleeps
  obtain ⟨m', tick, child'⟩ := trial_step sleeps
  have run : RunWithout constants.toConfig (block .pcb 0) m₁ [.tick] m' := by
    refine .single ?_ tick ?_
    · rw [child]
      decide
    · rw [child']
      decide
  have bound := sleeper_runs_again constants reached.reachable (by omega) runs (by decide) (by rw [time]; decide) call run
  have asked : (int32 (arguments [2] 0)).toNat = 2 := by decide
  rw [asked] at bound
  exact ⟨m, m₁, m', reached.reachable, call, run, bound⟩

end DisastrOS
