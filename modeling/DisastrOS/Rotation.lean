import DisastrOS.Trials

/-! The exact effect of `internal_schedule`.

The state need not be reachable: it is enough that its lists and pools are well
formed, that the running process is in no list, and that the timers are those
of distinct processes in `waiting_list`, sorted.
-/

set_option autoImplicit false

namespace DisastrOS

open Refinement

/-! ## What a step does -/

namespace Kernel
variable (m : Kernel)

def elapsed : List Addr :=
  (m.list .timer_list).filter fun t => (m.store.timer_item t).awakening_time ≤ m.store.disastrOS_time

/-- The processes whose timers have elapsed, in the order of the timers. -/
def awakened : List Addr := m.elapsed.filterMap fun t => (m.store.timer_item t).pcb

end Kernel

/-- A state in which the timer may expire while `r` runs. -/
structure Schedulable (c : Config) (m : Kernel) (r : Addr) : Prop where
  formed : ∃ a : Arena (layout c), Represents c m.data a
  runs : m.store.running = some r
  process : m.Allocated c r ∧ r.pool = .pcb
  unlinked : m.data.links.item r = ⟨none, none⟩ ∧ ∀ h, r ∉ m.list h
  owner : ∀ t ∈ m.list .timer_list, ∃ p ∈ m.list .waiting_list, (m.store.timer_item t).pcb = some p
  distinct : (m.list .timer_list).Pairwise fun t t' => (m.store.timer_item t).pcb ≠ (m.store.timer_item t').pcb
  sorted : (m.list .timer_list).Pairwise fun t t' =>
    (m.store.timer_item t).awakening_time ≤ (m.store.timer_item t').awakening_time

/-- `internal_schedule` takes `m`, where `r` runs, to `m'`. -/
structure Schedules (c : Config) (m m' : Kernel) (r : Addr) : Prop where
  formed : ∃ a : Arena (layout c), Represents c m'.data a
  timers : m'.list .timer_list =
    (m.list .timer_list).filter fun t => m.store.disastrOS_time < (m.store.timer_item t).awakening_time
  freed : ∀ x, m'.Allocated c x ↔ m.Allocated c x ∧ x ∉ m.elapsed
  slept : m'.list .waiting_list = (m.list .waiting_list).filter fun p => p ∉ m.awakened
  alone : m.awakened ++ m.list .ready_list = [] → m'.store.running = some r ∧ m'.list .ready_list = [] ∧
    (m'.store.pcb r).status = (m.store.pcb r).status
  rotates : ∀ n rest, m.awakened ++ m.list .ready_list = n :: rest →
    m'.store.running = some n ∧ m'.list .ready_list = rest ++ [r] ∧
    (m'.store.pcb n).status = .Running ∧ (m'.store.pcb r).status = .Ready ∧
    ∀ p ∈ m.awakened, p ≠ n → (m'.store.pcb p).status = .Ready
  others : ∀ h, h ≠ .timer_list → h ≠ .waiting_list → h ≠ .ready_list → m'.list h = m.list h
  kept : ∃ n, m'.store.running = some n ∧
    (n :: (m'.list .ready_list ++ m'.list .waiting_list)).Perm (r :: (m.list .ready_list ++ m.list .waiting_list))
  still : ∀ p, p ≠ r → p ∉ m.awakened → m'.store.running ≠ some p → m'.store.pcb p = m.store.pcb p

/-! ## The loop -/

def Scene.sleepers (k : Scene) (ts : List Addr) : List Addr := ts.filterMap fun t => (k.store.timer_item t).pcb

/-- The first timers `ts` have been removed and their processes are the first ones that are ready. -/
structure Scene.Roused (c : Config) (k j : Scene) (ts : List Addr) : Prop where
  timers : k.seq .timer_list = ts ++ j.seq .timer_list
  due : ∀ t ∈ ts, (k.store.timer_item t).awakening_time ≤ k.store.disastrOS_time
  ready : j.seq .ready_list = k.sleepers ts ++ k.seq .ready_list
  slept : j.seq .waiting_list = (k.seq .waiting_list).filter fun p => p ∉ k.sleepers ts
  others : ∀ h, h ≠ .timer_list → h ≠ .waiting_list → h ≠ .ready_list → j.seq h = k.seq h
  store : ∃ pcb, j.store = { k.store with pcb := pcb } ∧
    (∀ p ∉ k.sleepers ts, pcb p = k.store.pcb p) ∧ ∀ p ∈ k.sleepers ts, (pcb p).status = .Ready
  live : ∀ x, j.Live c x ↔ k.Live c x ∧ x ∉ ts
  place : ∀ x, x ∉ ts → x ∉ k.sleepers ts → j.place x = k.place x

/-- The timers of a scene are those of distinct processes in `waiting_list`. -/
structure Scene.Sleepers (k : Scene) : Prop where
  owner : ∀ t ∈ k.seq .timer_list, ∃ p, (k.store.timer_item t).pcb = some p ∧ k.place p = .linked .waiting_list
  distinct : (k.seq .timer_list).Pairwise fun t t' => (k.store.timer_item t).pcb ≠ (k.store.timer_item t').pcb

section
variable {c : Config} {k j : Scene} {ts : List Addr}

theorem Scene.Roused.refl : Scene.Roused c k k [] where
  timers := rfl
  due := by simp
  ready := by simp [Scene.sleepers]
  slept := by simp [Scene.sleepers]
  others _ _ _ _ := rfl
  store := ⟨_, rfl, fun _ _ => rfl, by simp [Scene.sleepers]⟩
  live x := by simp
  place _ _ _ := rfl

theorem Scene.Sleepers.asleep (sleepers : k.Sleepers) (roused : Scene.Roused c k j ts) {t p : Addr}
    (first : (j.seq .timer_list).head? = some t) (owner : (k.store.timer_item t).pcb = some p) :
    p ∉ k.sleepers ts := by
  intro woken
  obtain ⟨t', before, owner'⟩ := List.mem_filterMap.mp woken
  have distinct := sleepers.distinct
  rw [roused.timers] at distinct
  exact (List.pairwise_append.mp distinct).2.2 t' before t (List.mem_of_mem_head? first) (owner'.trans owner.symm)

theorem Scene.Roused.wake (sound : j.Sound c) (roused : Scene.Roused c k j ts) {t p : Addr}
    (first : (j.seq .timer_list).head? = some t)
    (due : (k.store.timer_item t).awakening_time ≤ k.store.disastrOS_time)
    (owner : (k.store.timer_item t).pcb = some p) :
    Scene.Roused c k (j.wakeSleeper (k.sleepers ts).getLast? t p) (ts ++ [t]) := by
  obtain ⟨rest, seq⟩ := List.head?_eq_some_iff.mp first
  obtain ⟨pcb, store, still, woken⟩ := roused.store
  have more : k.sleepers (ts ++ [t]) = k.sleepers ts ++ [p] := by simp [Scene.sleepers, owner]
  have timer : t.pool = .timer_item := sound.kind (sound.first first)
  constructor
  · simp [Scene.wakeSleeper, roused.timers, seq]
  · intro t' member
    rcases List.mem_append.mp member with before | last
    · exact roused.due t' before
    · cases List.mem_singleton.mp last
      exact due
  · have nodup := sound.nodup .ready_list
    rw [roused.ready] at nodup
    -- it goes behind those woken before it, and before those that were ready already
    have inserted : (j.wakeSleeper (k.sleepers ts).getLast? t p).seq .ready_list =
        insertItem (k.sleepers ts).getLast? p (j.seq .ready_list) := by simp [Scene.wakeSleeper]
    rw [inserted, roused.ready, insertItem_prefix (List.nodup_append.mp nodup).1, more, List.append_assoc]
    rfl
  · have erased : (j.wakeSleeper (k.sleepers ts).getLast? t p).seq .waiting_list =
        (j.seq .waiting_list).erase p := by simp [Scene.wakeSleeper]
    rw [erased, (sound.nodup .waiting_list).erase_eq_filter, roused.slept, List.filter_filter]
    apply List.filter_congr
    intro x _
    by_cases same : x = p <;> simp [more, same]
  · intro h timers waits ready
    simp [Scene.wakeSleeper, timers, waits, ready, roused.others h timers waits ready]
  · refine ⟨Function.update pcb p { pcb p with status := .Ready, timer := none }, ?_,
      fun x unnamed => ?_, fun x named => ?_⟩
    · simp [Scene.wakeSleeper, store, Store.setPCB]
    · rw [more, List.mem_append, not_or, List.mem_singleton] at unnamed
      rw [Function.update_of_ne unnamed.2, still x unnamed.1]
    · by_cases same : x = p
      · simp [same]
      · rw [more, List.mem_append, List.mem_singleton, or_iff_left same] at named
        rw [Function.update_of_ne same]
        exact woken x named
  · intro x
    have freed : (j.wakeSleeper (k.sleepers ts).getLast? t p).Live c x ↔ x ≠ t ∧ j.Live c x := by
      simp only [Scene.wakeSleeper, Scene.live_release timer, Scene.live_detach, Scene.live_insert,
        Scene.live_setPCB]
    rw [freed, roused.live, List.mem_append, List.mem_singleton]
    tauto
  · intro x timer' sleeper
    rw [List.mem_append, List.mem_singleton, not_or] at timer'
    rw [more, List.mem_append, List.mem_singleton, not_or] at sleeper
    simp [Scene.wakeSleeper, timer'.2, sleeper.2, roused.place x timer'.1 sleeper.1]

/-- Every loop over sleeping processes ends with the due timers removed, the first one left being later. -/
theorem wp_rouses {fuel : Nat} {Q : Unit → Scene → Prop} {E : Option Stop → Prop} (sleepers : k.Sleepers)
    (enough : (blocks c).card < fuel) (sound : k.Sound c)
    (post : ∀ j ts, j.Sound c → Scene.Roused c k j ts →
      (∀ t, (j.seq .timer_list).head? = some t →
        k.store.disastrOS_time < (k.store.timer_item t).awakening_time) → Q () j) :
    k.wp c fuel (.iterate wake_sleeper none) Q E := by
  -- the timers already removed are the witness; the previous process is the last one woken
  refine Scene.wp_iterate (fun n prev j => ∃ ts, Scene.Roused c k j ts ∧ prev = (k.sleepers ts).getLast? ∧
      j.Sound c ∧ (j.seq .timer_list).length = n) ?_
    (lt_of_le_of_lt (sound.length_seq_le .timer_list) enough) none ⟨[], .refl, rfl, sound, rfl⟩
  rintro n prev j ⟨ts, roused, rfl, sound', rfl⟩
  obtain ⟨pcb, store, -⟩ := roused.store
  have items : j.store.timer_item = k.store.timer_item := by rw [store]
  have time : j.store.disastrOS_time = k.store.disastrOS_time := by rw [store]
  cases timer : (j.seq .timer_list).head? with
  | none => simpa [wake_sleeper, TimerList_current, timer] using fun _ => post j ts sound' roused (by simp [timer])
  | some t =>
    by_cases due : (k.store.timer_item t).awakening_time ≤ k.store.disastrOS_time
    · have linked := sound'.first timer
      have member : t ∈ k.seq .timer_list := by
        rw [roused.timers]
        exact List.mem_append_right _ (List.mem_of_mem_head? timer)
      obtain ⟨p, names, waits⟩ := sleepers.owner t member
      have asleep := sleepers.asleep roused timer names
      have waits' : j.place p = .linked .waiting_list := by
        refine sound'.mem_seq.mp ?_
        rw [roused.slept]
        exact List.mem_filter.mpr ⟨sound.mem_seq.mpr waits, by simpa using asleep⟩
      have other : t ≠ p := by
        rintro rfl
        cases linked.symm.trans waits'
      have ready : ∀ y, (k.sleepers ts).getLast? = some y → j.place y = .linked .ready_list := by
        intro y last
        refine sound'.mem_seq.mp ?_
        rw [roused.ready]
        exact List.mem_append_left _ (List.mem_of_getLast? last)
      have fewer : ((j.seq .timer_list).erase t).length < (j.seq .timer_list).length := by
        have first := List.mem_of_mem_head? timer
        have := List.length_pos_of_mem first
        rw [List.length_erase_of_mem first]
        omega
      have named : (k.sleepers (ts ++ [t])).getLast? = some p := by simp [Scene.sleepers, names]
      simp [wake_sleeper, TimerList_current, TimerList_removeCurrent, TimerItem_free, timer, due, names, items,
        time]
      refine fun _ => ⟨waits', fun _ => ⟨⟨sound'.live waits', sound'.kind waits', by simp, fun y last => ?_⟩,
        fun _ => ⟨by simpa [other] using linked, fun _ => ⟨⟨sound'.live linked, sound'.kind linked⟩, fun _ =>
          ⟨fewer, ts ++ [t], roused.wake sound' timer due names, named.symm,
            sound'.wakeSleeper linked waits' ready⟩⟩⟩⟩⟩
      have there := ready y last
      have differs : y ≠ p := by
        rintro rfl
        cases there.symm.trans waits'
      simpa [differs] using there
    · have later : k.store.disastrOS_time < (k.store.timer_item t).awakening_time := not_le.mp due
      simpa [wake_sleeper, TimerList_current, timer, items, time, due] using fun _ =>
        post j ts sound' roused (by simpa [timer] using later)

end

/-! ## From the loop to the step -/

namespace Scene
variable {c : Config} {k j : Scene} {r n : Addr} {ts : List Addr}

structure Awakens (c : Config) (k j : Scene) (ts : List Addr) : Prop extends Scene.Roused c k j ts where
  sound : j.Sound c
  elapsed : (k.seq .timer_list).filter (fun t =>
    (k.store.timer_item t).awakening_time ≤ k.store.disastrOS_time) = ts
  left : j.seq .timer_list = (k.seq .timer_list).filter fun t =>
    k.store.disastrOS_time < (k.store.timer_item t).awakening_time

/-- Of a sorted list of timers the loop removes those that have elapsed, and no others. -/
theorem Roused.awakens (sound : j.Sound c) (roused : Scene.Roused c k j ts)
    (sorted : (k.seq .timer_list).Pairwise fun t t' =>
      (k.store.timer_item t).awakening_time ≤ (k.store.timer_item t').awakening_time)
    (later : ∀ t, (j.seq .timer_list).head? = some t →
      k.store.disastrOS_time < (k.store.timer_item t).awakening_time) : Scene.Awakens c k j ts := by
  -- the list is sorted, so the first timer that is not due is followed by none that is
  have left : ∀ t ∈ j.seq .timer_list, k.store.disastrOS_time < (k.store.timer_item t).awakening_time := by
    intro t member
    rw [roused.timers] at sorted
    have sorted' := (List.pairwise_append.mp sorted).2.1
    cases shape : j.seq .timer_list with
    | nil => simp [shape] at member
    | cons first rest =>
      have least := later first (by simp [shape])
      rw [shape] at member sorted'
      rcases List.mem_cons.mp member with rfl | member
      · exact least
      · exact lt_of_lt_of_le least ((List.pairwise_cons.mp sorted').1 t member)
  refine ⟨roused, sound, ?_, ?_⟩
  · rw [roused.timers, List.filter_append,
      List.filter_eq_self.mpr fun t member => by simpa using roused.due t member,
      List.filter_eq_nil_iff.mpr fun t member => by simpa using left t member, List.append_nil]
  · rw [roused.timers, List.filter_append,
      List.filter_eq_nil_iff.mpr fun t member => by simpa using roused.due t member, List.nil_append,
      List.filter_eq_self.mpr fun t member => by simpa using left t member]

theorem Roused.woken_perm (sound : k.Sound c) (sleepers : k.Sleepers) (roused : Scene.Roused c k j ts) :
    (k.sleepers ts ++ j.seq .waiting_list).Perm (k.seq .waiting_list) := by
  have distinct := sleepers.distinct
  rw [roused.timers] at distinct
  have nodup : (k.sleepers ts).Nodup := by
    refine List.pairwise_filterMap.mpr ((List.pairwise_append.mp distinct).1.imp fun differ p owner p' owner' => ?_)
    rintro rfl
    exact differ (owner.trans owner'.symm)
  have waits : ∀ p ∈ k.sleepers ts, p ∈ k.seq .waiting_list := by
    intro p member
    obtain ⟨t, before, owner⟩ := List.mem_filterMap.mp member
    obtain ⟨p', owner', blocked⟩ := sleepers.owner t (by rw [roused.timers]; exact List.mem_append_left _ before)
    cases owner.symm.trans owner'
    exact sound.mem_seq.mpr blocked
  have apart : (k.sleepers ts ++ j.seq .waiting_list).Nodup := by
    rw [roused.slept]
    refine List.nodup_append.mpr ⟨nodup, (sound.nodup .waiting_list).filter _, ?_⟩
    rintro p woken _ member rfl
    have out := (List.mem_filter.mp member).2
    simp [woken] at out
  apply (List.perm_ext_iff_of_nodup apart (sound.nodup .waiting_list)).mpr
  intro p
  rw [List.mem_append, roused.slept, List.mem_filter]
  by_cases woken : p ∈ k.sleepers ts
  · simp [woken, waits p woken]
  · simp [woken]

end Scene

section
variable {c : Config} {m m' : Kernel} {k k' j : Scene} {r n : Addr} {ts : List Addr}

theorem Scene.Awakens.elapsed_eq (awakens : Scene.Awakens c k j ts) (shows : Shows c m k) : m.elapsed = ts := by
  rw [Kernel.elapsed, shows.list, shows.store, awakens.elapsed]

theorem Scene.Awakens.awakened_eq (awakens : Scene.Awakens c k j ts) (shows : Shows c m k) :
    m.awakened = k.sleepers ts := by
  rw [Kernel.awakened, awakens.elapsed_eq shows, shows.store, Scene.sleepers]

theorem Scene.Awakens.goes_on (awakens : Scene.Awakens c k j ts) (shows : Shows c m k) (shows' : Shows c m' j)
    (runs : k.store.running = some r) (sleepers : k.Sleepers) (idle : j.seq .ready_list = []) :
    Schedules c m m' r := by
  have awakened := awakens.awakened_eq shows
  have perm := awakens.woken_perm shows.sound sleepers
  obtain ⟨pcb, store, still, -⟩ := awakens.store
  have empty : k.sleepers ts ++ k.seq .ready_list = [] := awakens.ready.symm.trans idle
  -- nobody was woken either, so the caller is the only one
  have none_woken := List.append_eq_nil_iff.mp empty
  have running : m'.store.running = some r := by
    rw [shows'.store, store]
    exact runs
  constructor
  · exact shows'.represented.imp fun _ => And.left
  · rw [shows'.list, awakens.left, shows.list, shows.store]
  · intro x
    rw [shows'.allocated, shows.allocated, awakens.elapsed_eq shows, awakens.live]
  · rw [shows'.list, shows.list, awakened, awakens.slept]
  · intro _
    refine ⟨running, by rw [shows'.list, idle], ?_⟩
    rw [shows'.store, shows.store, store]
    exact congrArg PCB.status (still r (by simp [none_woken.1]))
  · intro n rest there
    rw [awakened, shows.list, empty] at there
    cases there
  · intro h timers waits ready
    rw [shows'.list, shows.list, awakens.others h timers waits ready]
  · refine ⟨r, running, ?_⟩
    rw [none_woken.1, List.nil_append] at perm
    rw [shows'.list, shows'.list, shows.list, shows.list, idle, none_woken.2]
    exact perm.cons r
  · intro p _ asleep _
    rw [awakened] at asleep
    rw [shows'.store, shows.store, store]
    exact still p asleep

theorem Scene.Awakens.hands_over (awakens : Scene.Awakens c k j ts) (shows : Shows c m k)
    (shows' : Shows c m' (j.rotate r n)) (unlinked : k.place r = .unlinked) (sleepers : k.Sleepers)
    (next : (j.seq .ready_list).head? = some n) : Schedules c m m' r := by
  have awakened := awakens.awakened_eq shows
  have perm := awakens.woken_perm shows.sound sleepers
  obtain ⟨pcb, store, still, woken⟩ := awakens.store
  obtain ⟨others, line⟩ := List.head?_eq_some_iff.mp next
  have whole : k.sleepers ts ++ k.seq .ready_list = n :: others := awakens.ready.symm.trans line
  have running : m'.store.running = some n := by
    rw [shows'.store]
    rfl
  have ready : m'.list .ready_list = others ++ [r] := by
    rw [shows'.list]
    simp [Scene.rotate, line]
  -- who runs is in no list, and the next one waited or was ready
  have other : r ≠ n := by
    rintro rfl
    have first : r ∈ k.sleepers ts ++ k.seq .ready_list := by
      rw [whole]
      exact List.mem_cons_self
    rcases List.mem_append.mp first with slept | ready
    · have blocked := shows.sound.mem_seq.mp (perm.mem_iff.mp (List.mem_append_left _ slept))
      cases unlinked.symm.trans blocked
    · cases unlinked.symm.trans (shows.sound.mem_seq.mp ready)
  constructor
  · exact shows'.represented.imp fun _ => And.left
  · rw [shows'.list, shows.list, shows.store, ← awakens.left]
    simp [Scene.rotate]
  · intro x
    rw [shows'.allocated, shows.allocated, awakens.elapsed_eq shows, ← awakens.live]
    simp [Scene.rotate]
  · rw [shows'.list, shows.list, awakened, ← awakens.slept]
    simp [Scene.rotate]
  · intro empty
    rw [awakened, shows.list, whole] at empty
    cases empty
  · intro n' rest there
    rw [awakened, shows.list, whole] at there
    obtain ⟨rfl, rfl⟩ := List.cons.inj there
    refine ⟨running, ready, ?_, ?_, fun p member differs => ?_⟩
    · rw [shows'.store]
      simp [Scene.rotate, Scene.setPCB, Scene.update, Store.setPCB]
    · rw [shows'.store]
      simp [Scene.rotate, Scene.setPCB, Scene.update, Store.setPCB, other]
    · rw [awakened] at member
      by_cases same : p = r
      · simp [shows'.store, Scene.rotate, Scene.setPCB, Scene.update, Store.setPCB, other, same]
      · simp [shows'.store, Scene.rotate, Scene.setPCB, Scene.update, Store.setPCB, differs, same, store,
          woken p member]
  · intro h timers waits ready
    rw [shows'.list, shows.list, ← awakens.others h timers waits ready]
    simp [Scene.rotate, ready]
  · refine ⟨n, running, ?_⟩
    have slept : m'.list .waiting_list = j.seq .waiting_list := by
      rw [shows'.list]
      simp [Scene.rotate]
    rw [ready, slept, shows.list, shows.list]
    calc n :: (others ++ [r] ++ j.seq .waiting_list)
        = ((n :: others) ++ [r]) ++ j.seq .waiting_list := rfl
      _ = ((k.sleepers ts ++ k.seq .ready_list) ++ [r]) ++ j.seq .waiting_list := by rw [whole]
      _ = k.sleepers ts ++ ((k.seq .ready_list ++ [r]) ++ j.seq .waiting_list) := by
        simp only [List.append_assoc]
      List.Perm _ (((k.seq .ready_list ++ [r]) ++ j.seq .waiting_list) ++ k.sleepers ts) := List.perm_append_comm
      _ = (k.seq .ready_list ++ [r]) ++ (j.seq .waiting_list ++ k.sleepers ts) := by rw [List.append_assoc]
      List.Perm _ ((k.seq .ready_list ++ [r]) ++ (k.sleepers ts ++ j.seq .waiting_list)) :=
        List.perm_append_comm.append_left _
      List.Perm _ ((k.seq .ready_list ++ [r]) ++ k.seq .waiting_list) := perm.append_left _
      List.Perm _ (r :: k.seq .ready_list ++ k.seq .waiting_list) :=
        (List.perm_append_singleton r _).append_right _
  · intro p mover asleep idle
    rw [awakened] at asleep
    rw [running] at idle
    have differs : p ≠ n := fun same => idle (congrArg some same.symm)
    rw [shows'.store, shows.store, ← still p asleep]
    simp [Scene.rotate, Scene.setPCB, Scene.update, Store.setPCB, differs, mover, store]

theorem Represents.unlink {a : Arena (layout c)} {data : Heap} (rep : Represents c data a)
    (unlisted : ∀ h, a.place r ≠ .linked h) (clean : data.links.item r = ⟨none, none⟩) :
    ∃ a' : Arena (layout c), Represents c data a' ∧ a'.place r = .unlinked := by
  -- its place is in no list before and after, so nothing else can tell
  have kept {x : Addr} {h : Head} :
      Function.update a.place r .unlinked x = .linked h ↔ a.place x = .linked h := by
    by_cases same : x = r
    · simp [same, unlisted]
    · simp [same]
  have sound : Shape.Sound (layout c) { a.toShape with place := Function.update a.place r .unlinked } := by
    refine ⟨a.sound.nodup, ?_, ?_, a.sound.free_nodup, ?_⟩
    · intro h x
      exact a.sound.mem_seq.trans kept.symm
    · intro h x linked
      exact a.sound.kinded (kept.mp linked)
    · intro p x member
      obtain ⟨inside, pool, unlinked⟩ := a.sound.free_clean member
      refine ⟨inside, pool, ?_⟩
      by_cases same : x = r <;> simp [same, unlinked]
  refine ⟨⟨_, sound⟩, ⟨rep.lists, fun x unlinked => ?_, rep.buffer, rep.pools⟩, Function.update_self ..⟩
  by_cases same : x = r
  · rw [same, clean]
  · exact rep.clean x (by simpa [same] using unlinked)

theorem Schedulable.shows (state : Schedulable c m r) : ∃ k, Shows c m k ∧ k.place r = .unlinked := by
  obtain ⟨a, rep⟩ := state.formed
  have unlisted : ∀ h, a.place r ≠ .linked h := by
    intro h linked
    apply state.unlinked.2 h
    rw [rep.list]
    exact a.sound.mem_seq.mpr linked
  obtain ⟨a', rep', unlinked⟩ := rep.unlink unlisted state.unlinked.1
  exact ⟨⟨a'.toShape, m.store⟩, ⟨rfl, a', rep', rfl⟩, unlinked⟩

theorem Schedulable.sleepers (state : Schedulable c m r) (shows : Shows c m k) : k.Sleepers where
  owner t member := by
    rw [← shows.list] at member
    obtain ⟨p, waits, owner⟩ := state.owner t member
    rw [shows.store] at owner
    exact ⟨p, owner, shows.mem_list.mp waits⟩
  distinct := by
    have distinct := state.distinct
    rwa [shows.list, shows.store] at distinct

/-- A scheduling step ends, and this is all it does. -/
theorem schedule_exact (c : Config) {m : Kernel} {r : Addr} (state : Schedulable c m r) :
    ∃ m', (∃ fuel, internal_schedule.run heap fuel m = .done () m') ∧ Schedules c m m' r := by
  obtain ⟨k, shows, unlinked⟩ := state.shows
  have sleepers := state.sleepers shows
  have sorted := state.sorted
  have runs := state.runs
  have alive := (shows.allocated r).mp state.process.1
  rw [shows.list, shows.store] at sorted
  rw [shows.store] at runs
  have meets : k.wp c ((blocks c).card + 1) internal_schedule
      (fun _ k' => ∀ m', Shows c m' k' → Schedules c m m' r) fun _ => False := by
    rw [internal_schedule, Scene.wp_bind]
    apply wp_rouses sleepers (Nat.lt_succ_self _) shows.sound
    intro j ts sound roused later
    have awakens := roused.awakens sound sorted later
    cases ready : (j.seq .ready_list).head? with
    | none =>
      simpa [ready] using fun _ m' shows' =>
        awakens.goes_on shows shows' runs sleepers (List.head?_eq_none_iff.mp ready)
    | some n =>
      have linked := sound.first ready
      have running : j.store.running = some r := by
        obtain ⟨pcb, store, -⟩ := roused.store
        rw [store]
        exact runs
      -- the caller is in no list, so it is neither a timer nor a sleeper
      have kind : r ∉ ts := by
        intro member
        have timer : r ∈ k.seq .timer_list := by
          rw [roused.timers]
          exact List.mem_append_left _ member
        cases unlinked.symm.trans (shows.sound.mem_seq.mp timer)
      have awake : r ∉ k.sleepers ts := by
        intro member
        have waits := (roused.woken_perm shows.sound sleepers).mem_iff.mp (List.mem_append_left _ member)
        cases unlinked.symm.trans (shows.sound.mem_seq.mp waits)
      have apart : j.place r = .unlinked := (roused.place r kind awake).trans unlinked
      have alive' : j.Live c r := (roused.live r).mpr ⟨alive, kind⟩
      have other : r ≠ n := by
        rintro rfl
        cases apart.symm.trans linked
      simp [ready, Scene.wp_self, running]
      exact fun _ => ⟨linked, fun _ => ⟨⟨alive', state.process.2, by simpa [other] using apart⟩,
        fun _ m' shows' => awakens.hands_over shows shows' unlinked sleepers ready⟩⟩
  obtain ⟨value, m', run, k', shows', holds⟩ := (shows.sat meets).done
  exact ⟨m', ⟨_, run⟩, holds m' shows'⟩

end

/-! ## Where the kernel calls it -/

/-- The timer may expire in every reachable state. -/
theorem Reachable.schedulable {c : Constants} {m : Kernel} {r : Addr} (reach : Reachable c.toConfig m)
    (runs : m.store.running = some r) : Schedulable c.toConfig m r := by
  obtain ⟨k, shows, inv, -⟩ := reach.shows
  obtain ⟨a, rep, same⟩ := shows.represented
  rw [shows.store] at runs
  have unlinked := inv.processes.not_waiting runs
  obtain ⟨alive, pool⟩ := inv.processes.runs runs
  have clean := rep.clean r (by rw [same]; exact unlinked)
  refine ⟨⟨a, rep⟩, by rw [shows.store, runs], ⟨(shows.allocated r).mpr alive, pool⟩,
    ⟨clean, fun h member => ?_⟩, fun t member => ?_, ?_, ?_⟩
  · cases unlinked.symm.trans (shows.mem_list.mp member)
  · obtain ⟨p, owner, waits, -⟩ := inv.timers.owner (shows.mem_list.mp member)
    exact ⟨p, shows.mem_list.mpr waits, by rw [shows.store, owner]⟩
  · rw [shows.list, shows.store]
    refine (inv.sound.nodup .timer_list).imp_of_mem fun {t t'} member member' differ same => differ ?_
    exact inv.timers.unique (inv.sound.mem_seq.mp member) (inv.sound.mem_seq.mp member') same
  · rw [shows.list, shows.store]
    exact inv.timers.sorted

/-- One child sleeps for no time at all while the other runs and `init` is ready. -/
def due_at_once : Observed always fun m => m.store.running = some (block .pcb 2) ∧
    (m.list .timer_list).map (fun t => (m.store.timer_item t).pcb) = [some (block .pcb 1)] ∧
    m.elapsed = m.list .timer_list ∧ m.list .ready_list = [block .pcb 0] :=
  observe always [.syscall DSOS_CALL_SPAWN (arguments [1, 2]), .syscall DSOS_CALL_SPAWN (arguments [1, 2]),
    .tick, .syscall DSOS_CALL_SLEEP (arguments [0])] (by decide +kernel)

theorem schedule_exact_due : ∃ m m', Schedulable constants.toConfig m (block .pcb 2) ∧
    Schedules constants.toConfig m m' (block .pcb 2) ∧ m'.store.running = some (block .pcb 1) ∧
    m'.list .ready_list = [block .pcb 0, block .pcb 2] := by
  obtain ⟨m, reached, runs, owner, elapsed, ready⟩ := due_at_once
  have state := reached.reachable.schedulable runs
  obtain ⟨m', -, schedules⟩ := schedule_exact constants.toConfig state
  have awakened : m.awakened = [block .pcb 1] := by
    rw [Kernel.awakened, elapsed]
    have processes := congrArg (List.filterMap id) owner
    rwa [List.filterMap_map] at processes
  have line : m.awakened ++ m.list .ready_list = block .pcb 1 :: [block .pcb 0] := by
    rw [awakened, ready]
    rfl
  obtain ⟨running, ready', -⟩ := schedules.rotates _ _ line
  exact ⟨m, m', state, schedules, running, ready'⟩

end DisastrOS
