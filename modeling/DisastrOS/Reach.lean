import DisastrOS.Counting
import DisastrOS.Snapshot

/-! Every state between two handlers is shown by a coherent scene. -/

set_option autoImplicit false

namespace DisastrOS

open Refinement

/-- `k` is what the kernel `m` holds, seen as sequences of blocks. -/
structure Shows (c : Config) (m : Kernel) (k : Scene) : Prop where
  store : m.store = k.store
  represented : ∃ a : Arena (layout c), Represents c m.data a ∧ a.toShape = k.toShape

namespace Shows
variable {c : Config} {m : Kernel} {k : Scene}

theorem sound (shows : Shows c m k) : k.Sound c := by
  obtain ⟨a, -, same⟩ := shows.represented
  rw [Scene.Sound, ← same]
  exact a.sound

theorem list (shows : Shows c m k) (h : Head) : m.list h = k.seq h := by
  obtain ⟨a, rep, same⟩ := shows.represented
  rw [rep.list, same]

theorem holds (shows : Shows c m k) (h : Head) : m.data.links.Holds h (m.list h) := by
  obtain ⟨a, rep, same⟩ := shows.represented
  rw [rep.list]
  exact rep.lists h

theorem allocated (shows : Shows c m k) (x : Addr) : m.Allocated c x ↔ k.Live c x := by
  obtain ⟨a, rep, same⟩ := shows.represented
  rw [rep.allocated, Scene.Live, same]

theorem size (shows : Shows c m k) (p : Pool) : (m.data.pools p).size = (k.free p).length := by
  obtain ⟨a, rep, same⟩ := shows.represented
  rw [rep.size, same]

theorem mem_list (shows : Shows c m k) {h : Head} {x : Addr} :
    x ∈ m.list h ↔ k.place x = .linked h := by
  rw [shows.list]
  exact shows.sound.mem_seq

theorem queue (shows : Shows c m k) (id : Int) : m.queue id = k.queue id := by
  simp only [Kernel.queue, Scene.queue, shows.list, shows.store]

theorem awaited (shows : Shows c m k) (r : Addr) (pid : Int) : m.awaited r pid = k.awaited r pid := by
  have answers : m.answers pid = k.answers pid := by
    funext e
    cases names : k.store.pcb_ptr e <;>
      simp only [Kernel.answers, Scene.answers, shows.store, names]
  simp only [Kernel.awaited, Scene.awaited, shows.list, answers]

end Shows

def Ends (c : Config) (outcome : Outcome Stop Kernel Unit) (R : Ending → Prop) : Prop :=
  match outcome with
  | .done _ m => ∃ k, Shows c m k ∧ R (.done () k)
  | .fault stop => R (.fault stop)
  | .undefined => False
  | .exhausted => R .exhausted

section
variable {c : Config} {fuel : Nat} {m m' : Kernel} {k : Scene}

/-- What the code has on the scene it has on the heap. -/
theorem Shows.sat {α : Type} {code : Code α} {Q : α → Scene → Prop} {E : Option Stop → Prop}
    (shows : Shows c m k) (holds : k.wp c fuel code Q E) :
    (code.run heap fuel m).Sat (fun value m' => ∃ k', Shows c m' k' ∧ Q value k') E := by
  obtain ⟨a, rep, same⟩ := shows.represented
  have sound := shows.sound
  have related : Represents c m.data (⟨k.toShape, sound⟩ : Arena (layout c)) := by
    rwa [← Arena.eq_of_shape (a := a) (b := ⟨k.toShape, sound⟩) same]
  have simulates := (heap_refines c).run fuel code k.store m.data ⟨k.toShape, sound⟩ related
  have sat := holds sound
  have start : m = ⟨k.store, m.data⟩ := by rw [← shows.store]
  rw [← start] at simulates
  rw [Refinement.wp] at sat
  -- the run on the scene is simulated on the heap, outcome by outcome
  cases abstract : code.run (arena c) fuel (⟨k.store, ⟨k.toShape, sound⟩⟩ : View c) with
  | done value v =>
    rw [abstract] at sat simulates
    obtain ⟨data, result, rep'⟩ := simulates
    rw [result]
    exact ⟨View.scene v, ⟨rfl, v.data, rep', rfl⟩, sat⟩
  | fault stop =>
    rw [abstract] at sat simulates
    rw [show code.run heap fuel m = .fault stop from simulates]
    exact sat
  | undefined =>
    rw [abstract] at sat
    exact sat.elim
  | exhausted =>
    rw [abstract] at sat simulates
    rw [show code.run heap fuel m = .exhausted from simulates]
    exact sat

theorem Shows.ends {code : Code Unit} {R : Ending → Prop} (shows : Shows c m k)
    (meets : k.Meets c fuel code R) : Ends c (code.run heap fuel m) R := by
  have sat := shows.sat meets
  cases outcome : code.run heap fuel m <;> rw [outcome] at sat <;> exact sat

theorem Shows.reacts {e : Event} (shows : Shows c m k) (inv : Coherent c k.store.running none k)
    {outcome : Outcome Stop Kernel Unit} (run : (e.code c).run heap fuel m = outcome)
    (ended : outcome ≠ .exhausted) : Ends c outcome (Reacts c k e) := by
  -- an outcome with less fuel is the outcome with more
  have more := Program.run_extends heap (Nat.le_max_left fuel ((blocks c).card + 1)) (e.code c) m
  rw [run] at more
  rw [← more.resolve_left ended]
  exact shows.ends (e.meets inv rfl (by omega))

/-- The kernel answers an event, stops at it, or loops for ever. -/
theorem Shows.outcome (shows : Shows c m k) (inv : Coherent c k.store.running none k) (e : Event) :
    (∃ m' k', Step c m e m' ∧ Shows c m' k' ∧ Reacts c k e (.done () k')) ∨
      (∃ stop, Halts c m e stop ∧ Reacts c k e (.fault stop)) ∨ Reacts c k e .exhausted := by
  have ends := shows.ends (e.meets (k := k) inv rfl (Nat.lt_succ_self _))
  cases run : (e.code c).run heap ((blocks c).card + 1) m with
  | done value m' =>
    rw [run] at ends
    obtain ⟨k', shows', reacts⟩ := ends
    exact .inl ⟨m', k', ⟨_, run⟩, shows', reacts⟩
  | fault stop =>
    rw [run] at ends
    exact .inr (.inl ⟨stop, ⟨_, run⟩, ends⟩)
  | undefined =>
    rw [run] at ends
    exact ends.elim
  | exhausted =>
    rw [run] at ends
    exact .inr (.inr ends)

/-- A step of the kernel is a reaction of the scene that shows it. -/
theorem Step.reacts {e : Event} (shows : Shows c m k) (inv : Coherent c k.store.running none k)
    (step : Step c m e m') : ∃ k', Shows c m' k' ∧ Reacts c k e (.done () k') := by
  obtain ⟨fuel, run⟩ := step
  exact shows.reacts inv run nofun

theorem Halts.reacts {e : Event} {stop : Stop} (shows : Shows c m k)
    (inv : Coherent c k.store.running none k) (halts : Halts c m e stop) :
    Reacts c k e (.fault stop) := by
  obtain ⟨fuel, run⟩ := halts
  exact shows.reacts inv run nofun

end

/-! ## Start-up -/

/-- The kernel before `disastrOS_start`: every block is free. -/
def Scene.zero (c : Config) : Scene where
  seq _ := []
  place _ := .unlinked
  free p := (List.range (c.num_items p)).map (DisastrOS.block p)
  store := .zero

theorem Scene.zero_sound (c : Config) : (Scene.zero c).Sound c where
  nodup _ := List.nodup_nil
  mem_seq := by simp [Scene.zero]
  kinded := nofun
  free_nodup p := List.nodup_range.map (block_injective p)
  free_clean := by
    intro p x member
    obtain ⟨i, small, rfl⟩ := List.mem_map.mp member
    exact ⟨mem_blocks.mpr ⟨i, List.mem_range.mp small, rfl⟩, rfl, rfl⟩

theorem Scene.zero_not_live {c : Config} (x : Addr) : ¬ (Scene.zero c).Live c x := by
  rintro ⟨inside, out⟩
  obtain ⟨i, small, same⟩ := mem_blocks.mp inside
  exact out (List.mem_map.mpr ⟨i, List.mem_range.mpr small, same.symm⟩)

theorem Represents.zero (c : Config) {pools : Pool → PoolAllocator}
    (managed : ∀ p, (pools p).buffer = 0 ∧
      (pools p).Manages p.sizeof (c.num_items p) (List.range (c.num_items p))) :
    Represents c ⟨.zero, pools⟩ ⟨(Scene.zero c).toShape, Scene.zero_sound c⟩ where
  lists _ := ⟨rfl, rfl, rfl, trivial⟩
  clean _ _ := rfl
  buffer p := (managed p).1
  pools p := ⟨_, (managed p).2, rfl⟩

theorem pools_ready (c : Constants) {pools : Pool → PoolAllocator}
    (set_up : ∀ p, pools p = (pool_init c.toConfig p).2)
    (ready : ∀ p, (pool_init c.toConfig p).1 = .Success) (p : Pool) :
    (pools p).buffer = 0 ∧
      (pools p).Manages p.sizeof (c.num_items p) (List.range (c.num_items p)) := by
  have fits : p.sizeof * c.num_items p < 2 ^ 31 :=
    calc p.sizeof * c.num_items p = c.num_items p * p.sizeof := Nat.mul_comm ..
      _ ≤ c.num_items p * (p.sizeof + 4) := Nat.mul_le_mul_left _ (Nat.le_add_right ..)
      _ < 2 ^ 31 := lt_of_le_of_lt (c.enough p) (c.small p)
  have success := ready p
  rw [set_up]
  unfold pool_init at success ⊢
  exact PoolAllocator.Manages.of_init p.sizeof_pos (c.positive p) fits success

theorem Shows.zero (c : Config) {pools : Pool → PoolAllocator}
    (managed : ∀ p, (pools p).buffer = 0 ∧
      (pools p).Manages p.sizeof (c.num_items p) (List.range (c.num_items p))) :
    Shows c ⟨.zero, .zero, pools⟩ (Scene.zero c) :=
  ⟨rfl, _, .zero c managed, rfl⟩

/-- The first process, when it starts. -/
structure Fresh (c : Config) (k : Scene) : Prop where
  sound : k.Sound c
  seq : ∀ h, k.seq h = []
  place : ∀ x, k.place x = .unlinked
  live : ∀ x, k.Live c x ↔ x = block .pcb 0
  running : k.store.running = some (block .pcb 0)
  init_pcb : k.store.init_pcb = some (block .pcb 0)
  last_pid : k.store.last_pid = 1
  disastrOS_time : k.store.disastrOS_time = 0
  mq : ∀ q, k.store.mq q = ⟨0, 0⟩
  descriptor : ∀ d, k.store.descriptor d = ⟨none, none, none, 0, none⟩
  pcb : ∀ p, p ≠ block .pcb 0 → k.store.pcb p = Store.zero.pcb p
  first : ∃ function argument, k.store.pcb (block .pcb 0) =
    { Store.zero.pcb (block .pcb 0) with
      status := .Running, signals_mask := 0xFFFFFFFF, cpu_state := .made 0 function argument }

theorem wp_start (c : Constants) {fuel : Nat} (function argument : Int) (logfile : Bool) :
    (Scene.zero c.toConfig).wp c.toConfig fuel (disastrOS_start function argument logfile)
      (fun _ k => Fresh c.toConfig k) fun _ => False := by
  have sound := Scene.zero_sound c.toConfig
  have positive := c.positive .pcb
  have top : ((Scene.zero c.toConfig).free .pcb).head? = some (block .pcb 0) := by
    obtain ⟨n, items⟩ : ∃ n, c.num_items .pcb = n + 1 := ⟨c.num_items .pcb - 1, by omega⟩
    simp [Scene.zero, items, List.range_succ_eq_map]
  have fresh := sound.top top
  -- the first pid is 0
  have unspent : (Scene.zero c.toConfig).store.last_pid ≠ INT_MAX := by
    simp [Scene.zero, Store.zero, INT_MAX]
  simp [disastrOS_start, main_context, PCB_alloc, sound, top, unspent]
  refine ⟨rfl, ?_⟩
  constructor
  · exact sound.reset.reset.reset.reset.reset.reset.alloc.reset.reset
  · intro h
    simp [Scene.zero]
  · intro x
    simp [Shape.place_reset, Scene.zero]
  · intro x
    have only : ((Scene.zero c.toConfig).alloc .pcb).Live c.toConfig x ↔ x = block .pcb 0 := by
      rw [Scene.live_alloc sound top, or_iff_left (Scene.zero_not_live x)]
    exact only
  · rfl
  · rfl
  · rfl
  · rfl
  · intro q; rfl
  · intro d; rfl
  · intro p other
    simp [Scene.setPCB, Scene.update, Store.pcb_setPCB, other]
    rfl
  · simp [Scene.setPCB, Scene.update, Store.pcb_setPCB, Scene.zero, Store.zero]

theorem Fresh.coherent {c : Config} {k : Scene} (fresh : Fresh c k) :
    Coherent c (some (block .pcb 0)) none k := by
  have unlinked {x : Addr} {h : Head} : k.place x ≠ .linked h := by
    rw [fresh.place]
    nofun
  have alone {x : Addr} (live : k.Live c x) : x = block .pcb 0 := (fresh.live x).mp live
  have alive : k.Live c (block .pcb 0) := (fresh.live _).mpr rfl
  obtain ⟨function, argument, pcb⟩ := fresh.first
  have field {α : Type} (f : PCB → α) (p : Addr) (zero : f (k.store.pcb (block .pcb 0)) =
      f (Store.zero.pcb (block .pcb 0))) : f (k.store.pcb p) = f (Store.zero.pcb p) := by
    by_cases same : p = block .pcb 0
    · rw [same, zero]
    · rw [fresh.pcb p same]
  -- every list is empty, and only the first process is allocated
  constructor
  · exact fresh.sound
  · constructor
    · rintro r ⟨⟩
      exact ⟨alive, rfl⟩
    · intro p live pool
      exact .inl ⟨by rw [alone live], fresh.place p, .inl (by simp [Scene.status, alone live, pcb])⟩
    · intro p waits
      by_cases same : p = block .pcb 0
      · simp [Scene.status, same, pcb] at waits
      · simp [Scene.status, fresh.pcb p same, Store.zero] at waits
  · constructor
    · intro p live pool
      simp [alone live, pcb, Store.zero, fresh.last_pid]
    · intro p p' live pool live' pool' same
      rw [alone live, alone live']
  · constructor
    · exact ⟨_, fresh.init_pcb, alive, rfl, by simp [pcb, Store.zero]⟩
    · intro p live pool orphan
      exact unlinked
    · intro e q linked
      exact absurd linked unlinked
    · intro e e' q q' linked
      exact absurd linked unlinked
    · intro p live pool created
      exact absurd (by simp [alone live, pcb, Store.zero]) created
  · constructor
    · intro w q linked
      exact absurd linked unlinked
    · intro w q linked
      exact absurd linked unlinked
    · rintro w w' ⟨q, linked | linked⟩ <;> exact absurd linked unlinked
  · constructor
    · intro q live pool
      rw [alone live] at pool
      cases pool
    · intro q q' linked
      exact absurd linked unlinked
    · intro w q linked
      exact absurd linked unlinked
    · intro w q linked
      exact absurd linked unlinked
    · intro m q linked
      exact absurd linked unlinked
  · constructor
    · intro t live pool
      rw [alone live] at pool
      cases pool
    · intro t linked
      exact absurd linked unlinked
    · intro t t' linked
      exact absurd linked unlinked
    · intro p blocked
      exact absurd blocked.1 unlinked
    · simp [fresh.seq]
    · intro p
      exact field (·.timer) p (by simp [pcb])
  · constructor
    · intro d live pool
      rw [alone live] at pool
      cases pool
    · intro e live pool
      rw [alone live] at pool
      cases pool
    · intro d p linked
      exact absurd linked unlinked
    · intro p
      exact le_of_eq (field (·.last_fd) p (by simp [pcb])).symm
    · intro d p linked
      exact absurd linked unlinked
    · intro d d' p linked
      exact absurd linked unlinked
    · intro x live pool
      rw [alone live] at pool
      cases pool

theorem Fresh.counted {c : Config} {k : Scene} (fresh : Fresh c k) : Counted c k := fun q => by
  simp [fresh.mq, fresh.seq]

theorem start_shows {c : Constants} {m : Kernel} {pools : Pool → PoolAllocator} {fuel : Nat}
    {function argument : Int} {logfile : Bool}
    (run : (disastrOS_start function argument logfile).run heap fuel ⟨.zero, .zero, pools⟩ = .done () m)
    (managed : ∀ p, (pools p).buffer = 0 ∧
      (pools p).Manages p.sizeof (c.num_items p) (List.range (c.num_items p))) :
    ∃ k, Shows c.toConfig m k ∧ Fresh c.toConfig k := by
  have meets : (Scene.zero c.toConfig).Meets c.toConfig fuel (disastrOS_start function argument logfile)
      fun ending => ∃ k, ending = .done () k ∧ Fresh c.toConfig k :=
    Scene.wp_mono (wp_start c function argument logfile) (fun _ k _ fresh => ⟨k, rfl, fresh⟩)
      fun _ => False.elim
  have ends := (Shows.zero c.toConfig managed).ends meets
  rw [run] at ends
  obtain ⟨k, shows, k', same, fresh⟩ := ends
  cases same
  exact ⟨k, shows, fresh⟩

theorem Started.shows {c : Constants} {m : Kernel} (started : Started c.toConfig m) :
    ∃ k, Shows c.toConfig m k ∧ Fresh c.toConfig k := by
  obtain ⟨ready, function, argument, logfile, fuel, run⟩ := started
  exact start_shows run (pools_ready c (fun _ => rfl) ready)

/-! ## Runs -/

section
variable {c : Constants} {ok : Kernel → Event → Prop} {m : Kernel}

/-- What holds when the first process starts, and is kept by every event that
meets the condition, holds in every state of the run. -/
theorem ReachableWith.shows {J : Scene → Prop} (reach : ReachableWith c.toConfig ok m)
    (start : ∀ {k}, Fresh c.toConfig k → J k)
    (step : ∀ {m k k' e}, Shows c.toConfig m k → Coherent c.toConfig k.store.running none k →
      Counted c.toConfig k → ok m e → J k → Reacts c.toConfig k e (.done () k') → J k') :
    ∃ k, Shows c.toConfig m k ∧ Coherent c.toConfig k.store.running none k ∧
      Counted c.toConfig k ∧ J k := by
  -- the coherence of the scene is carried along: each step needs it to be a chain of moves
  induction reach with
  | start started =>
    obtain ⟨k, shows, fresh⟩ := started.shows
    exact ⟨k, shows, fresh.running ▸ fresh.coherent, fresh.counted, start fresh⟩
  | step _ good step' ih =>
    obtain ⟨k, shows, inv, counted, holds⟩ := ih
    obtain ⟨k', shows', reacts⟩ := step'.reacts shows inv
    exact ⟨k', shows', (reacts.chain inv counted).coherent inv, reacts.counted inv counted,
      step shows inv counted good holds reacts⟩

theorem Reachable.with (reach : Reachable c.toConfig m) : ReachableWith c.toConfig (fun _ _ => True) m := by
  induction reach with
  | start started => exact .start started
  | step _ step ih => exact .step ih trivial step

theorem Reachable.shows (reach : Reachable c.toConfig m) :
    ∃ k, Shows c.toConfig m k ∧ Coherent c.toConfig k.store.running none k ∧ Counted c.toConfig k := by
  obtain ⟨k, shows, inv, counted, -⟩ :=
    reach.with.shows (J := fun _ => True) (fun _ => trivial) fun _ _ _ _ _ _ => trivial
  exact ⟨k, shows, inv, counted⟩

end

end DisastrOS
