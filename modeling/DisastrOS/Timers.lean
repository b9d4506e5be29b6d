import DisastrOS.Processes

/-! Every timer belongs to a process that sleeps. -/

set_option autoImplicit false

namespace DisastrOS

open Refinement

variable {c : Config} {k : Scene}

namespace Timers

theorem congr {k' : Scene} (inv : Timers c k)
    (live : ∀ {t}, t.pool = .timer_item → k'.Live c t → k.Live c t)
    (place : ∀ {t}, k'.place t = .linked .timer_list ↔ k.place t = .linked .timer_list)
    (seq : k'.seq .timer_list = k.seq .timer_list)
    (item : k'.store.timer_item = k.store.timer_item)
    (blocked : ∀ {p}, k'.Blocked p DSOS_CALL_SLEEP ↔ k.Blocked p DSOS_CALL_SLEEP)
    (timer : ∀ p, (k'.store.pcb p).timer = none ∨
      (k'.store.pcb p).timer = (k.store.pcb p).timer) : Timers c k' where
  listed alive pool := place.mpr (inv.listed (live pool alive) pool)
  owner {t} linked := by
    obtain ⟨p, owns, sleeps⟩ := inv.owner (place.mp linked)
    exact ⟨p, item ▸ owns, blocked.mpr sleeps⟩
  unique linked linked' same := by
    rw [item] at same
    exact inv.unique (place.mp linked) (place.mp linked') same
  sleeping {p} sleeps := by
    obtain ⟨t, linked, owns⟩ := inv.sleeping (blocked.mp sleeps)
    exact ⟨t, place.mpr linked, item ▸ owns⟩
  sorted := by
    rw [seq, item]
    exact inv.sorted
  unset p := by
    rcases timer p with none | same
    · exact none
    · exact same.trans (inv.unset p)

theorem frame {touched : List Pool} {k' : Scene} (inv : Timers c k)
    (frame : Scene.Frame touched k k') (sound : k.Sound c) (sound' : k'.Sound c)
    (other : .timer_item ∉ touched)
    (blocked : ∀ {p}, k'.Blocked p DSOS_CALL_SLEEP ↔ k.Blocked p DSOS_CALL_SLEEP) : Timers c k' :=
  inv.congr (fun pool => (frame.live (pool ▸ other)).mp) (frame.linked sound sound' .timer_list other)
    (frame.seq other) (frame.timer_item other) blocked frame.timer

theorem wakeSleeper {prev : Pointer} {t p : Addr} (inv : Timers c k) (sound : k.Sound c)
    (linked : k.place t = .linked .timer_list) (owns : (k.store.timer_item t).pcb = some p) :
    Timers c (k.wakeSleeper prev t p) := by
  obtain ⟨p', same, sleeps⟩ := inv.owner linked
  cases owns.symm.trans same
  have timer := sound.kind linked
  have pcb : p.pool = .pcb := sound.kind sleeps.1
  have live {x : Addr} : (k.wakeSleeper prev t p).Live c x ↔ x ≠ t ∧ k.Live c x :=
    Shape.live_release (L := layout c) timer
  have place {x : Addr} : (k.wakeSleeper prev t p).place x =
      if x = t then .unlinked else if x = p then .linked .ready_list else k.place x := by
    simp [Scene.wakeSleeper, Function.update_apply]
  have item : (k.wakeSleeper prev t p).store.timer_item = k.store.timer_item := rfl
  have blocked {x : Addr} : (k.wakeSleeper prev t p).Blocked x DSOS_CALL_SLEEP ↔
      x ≠ p ∧ k.Blocked x DSOS_CALL_SLEEP := by
    have kind (there : k.place x = .linked .waiting_list) := sound.kind there
    simp only [Scene.Blocked, place]
    simp [Scene.wakeSleeper]
    grind [Head.kind]
  constructor
  · intro x alive pool
    obtain ⟨away, before⟩ := live.mp alive
    rw [place, if_neg away, if_neg (by rintro rfl; simp [pcb] at pool)]
    exact inv.listed before pool
  · intro x here
    have owner := inv.owner (t := x)
    have unique (there : k.place x = .linked .timer_list) := inv.unique there linked
    rw [place] at here
    rw [item]
    simp only [blocked]
    grind
  · intro x x' here here'
    have unique := @Timers.unique _ _ inv x x'
    rw [place] at here here'
    rw [item]
    grind
  · intro x waits
    -- whoever else sleeps has a timer of its own
    obtain ⟨away, before⟩ := blocked.mp waits
    obtain ⟨x', there, names⟩ := inv.sleeping before
    have differs : x' ≠ t := by
      rintro rfl
      exact away (Option.some.inj (names.symm.trans owns))
    have kind : x'.pool = .timer_item := sound.kind there
    refine ⟨x', ?_, names⟩
    rw [place, if_neg differs, if_neg (by rintro rfl; simp [pcb] at kind), there]
  · have seq : (k.wakeSleeper prev t p).seq .timer_list = (k.seq .timer_list).erase t := by
      simp [Scene.wakeSleeper]
    rw [seq, item]
    exact inv.sorted.sublist List.erase_sublist
  · intro x
    have unset := inv.unset x
    simp [Scene.wakeSleeper]
    grind

theorem doze {r t : Addr} {wake : Int} (inv : Timers c k) (sound : k.Sound c)
    (unlinked : k.place r = .unlinked) (pool : r.pool = .pcb)
    (calls : (k.store.pcb r).syscall_num = DSOS_CALL_SLEEP)
    (top : (k.free .timer_item).head? = some t) :
    Timers c ((k.startTimer (k.placeTimer wake) t r wake).block r) := by
  have fresh := sound.top top
  have live {x : Addr} : ((k.startTimer (k.placeTimer wake) t r wake).block r).Live c x ↔
      x = t ∨ k.Live c x := sound.live_alloc top
  have place {x : Addr} : ((k.startTimer (k.placeTimer wake) t r wake).block r).place x =
      if x = r then .linked .waiting_list else if x = t then .linked .timer_list else k.place x := by
    simp [Scene.startTimer, Scene.block, Function.update_apply]
  have item {x : Addr} : ((k.startTimer (k.placeTimer wake) t r wake).block r).store.timer_item x =
      if x = t then ⟨wake, some r⟩ else k.store.timer_item x := by
    simp [Scene.startTimer, Scene.block, Function.update_apply]
  have blocked {x : Addr} :
      ((k.startTimer (k.placeTimer wake) t r wake).block r).Blocked x DSOS_CALL_SLEEP ↔
        x = r ∨ k.Blocked x DSOS_CALL_SLEEP := by
    have kind (there : k.place x = .linked .waiting_list) := sound.kind there
    simp only [Scene.Blocked, place]
    simp [Scene.startTimer, Scene.block]
    grind [Head.kind]
  have differs : t ≠ r := fun same => by simp [← same, fresh.1] at pool
  constructor
  · intro x alive kind
    rw [place, if_neg (by rintro rfl; simp [pool] at kind)]
    rcases live.mp alive with rfl | before
    · exact if_pos rfl
    · split
      · rfl
      · exact inv.listed before kind
  · intro x here
    have owner := inv.owner (t := x)
    rw [place] at here
    rw [item]
    simp only [blocked]
    grind
  · intro x x' here here'
    have unique := @Timers.unique _ _ inv x x'
    have owner := inv.owner (t := x)
    have owner' := inv.owner (t := x')
    -- the caller did not sleep before, so no old timer is its own
    have asleep : ¬ k.Blocked r DSOS_CALL_SLEEP := by simp [Scene.Blocked, unlinked]
    rw [place] at here here'
    rw [item, item]
    grind
  · intro x waits
    rcases blocked.mp waits with rfl | before
    · exact ⟨t, by rw [place, if_neg differs, if_pos rfl], by rw [item, if_pos rfl]⟩
    · obtain ⟨x', there, names⟩ := inv.sleeping before
      have kind : x'.pool = .timer_item := sound.kind there
      refine ⟨x', ?_, ?_⟩
      · rw [place, if_neg (by rintro rfl; simp [pool] at kind)]
        split
        · rfl
        · exact there
      · rw [item, if_neg (by rintro rfl; simp [fresh.2.1] at there)]
        exact names
  · -- the timer goes behind those that are due no later
    have seq : ((k.startTimer (k.placeTimer wake) t r wake).block r).seq .timer_list =
        insertItem (k.placeTimer wake) t (k.seq .timer_list) := by
      simp [Scene.startTimer, Scene.block]
    rw [seq]
    apply sorted_insertItem (sound.nodup .timer_list) inv.sorted
    · intro x member
      have old : x ≠ t := by
        rintro rfl
        cases fresh.2.1.symm.trans (sound.mem_seq.mp member)
      rw [item, if_neg old]
    · rw [item, if_pos rfl]
  · intro x
    have unset := inv.unset x
    simp [Scene.startTimer, Scene.block]
    grind

end Timers

end DisastrOS
