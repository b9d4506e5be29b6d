import DisastrOS.Reach

/-! Runs that are computed.

A trial starts the kernel with the constants of the repository and applies a
list of events, each under a condition. It computes a state reachable under
that condition, so an observation of its result settles a statement about runs.
-/

set_option autoImplicit false

namespace DisastrOS

open Refinement

def pool_ready (c : Config) (p : Pool) : PoolAllocator where
  buffer := 0
  free_list_base := p.sizeof * c.num_items p
  free_list i :=
    if i = c.num_items p - 1 then NullIdx
    else if 0 ≤ i ∧ i < c.num_items p - 1 then i + 1 else 0
  buffer_size := p.sizeof * c.num_items p
  size := c.num_items p
  size_max := c.num_items p
  item_size := p.sizeof
  first_idx := 0

theorem PoolAllocator_init_zero {item_size n memory : Nat} (positive : 0 < n)
    (enough : n * (item_size + 4) ≤ memory) (small : memory < 2 ^ 31) :
    PoolAllocator_init .zero item_size n 0 memory =
      (.Success,
        { buffer := 0
          free_list_base := item_size * n
          free_list := fun i =>
            if i = n - 1 then NullIdx else if 0 ≤ i ∧ i < (n : Int) - 1 then i + 1 else 0
          buffer_size := item_size * n
          size := n
          size_max := n
          item_size := item_size
          first_idx := 0 }) := by
  have room : (n : Int) * (item_size + 4) ≤ memory := by exact_mod_cast enough
  have low : (0 : Int) ≤ n * (item_size + 4) := by positivity
  have high : (n : Int) * (item_size + 4) < 2 ^ 31 := by omega
  have requested : int32 ((n : Int) * (item_size + 4) % 2 ^ 64) = n * (item_size + 4) := by
    rw [Int.emod_eq_of_lt low (by omega)]
    exact int32_eq (by omega) high
  have data : int32 ((item_size : Int) * n) = item_size * n := by
    have less : (item_size : Int) * n ≤ n * (item_size + 4) := by
      rw [mul_comm, mul_add]
      omega
    exact int32_eq (by have := Int.natCast_nonneg (item_size * n); push_cast at this; omega) (by omega)
  have success : ¬ (memory : Int) < n * (item_size + 4) := by omega
  have threads : Function.update (PoolAllocator_populate PoolAllocator.zero.free_list
      ((n : Int) - 1).toNat) ((n : Int) - 1) NullIdx = fun i =>
        if i = (n : Int) - 1 then NullIdx else if 0 ≤ i ∧ i < (n : Int) - 1 then i + 1 else 0 := by
    funext i
    rw [Function.update_apply, PoolAllocator.Manages.populate_eq]
    have last : (((n : Int) - 1).toNat : Int) = n - 1 := by omega
    rw [last]
    rfl
  simp only [PoolAllocator_init, requested, if_neg success, data, zero_add, threads]

theorem pool_init_eq (c : Constants) (p : Pool) :
    pool_init c.toConfig p = (.Success, pool_ready c.toConfig p) :=
  PoolAllocator_init_zero (c.positive p) (c.enough p) (c.small p)

def boot (c : Config) : Kernel := ⟨.zero, .zero, pool_ready c⟩

def trial_fuel : Nat := 64

def Outcome.result (outcome : Outcome Stop Kernel Unit) : Option Kernel :=
  match outcome with
  | .done _ k => some k
  | _ => none

/-- The events in order, as long as the condition holds and the kernel answers. -/
def trial_from (c : Config) (ok : Kernel → Event → Prop) [∀ k e, Decidable (ok k e)] :
    List Event → Kernel → Option Kernel
  | [], k => some k
  | e :: es, k =>
    if ok k e then
      (Outcome.result ((e.code c).run heap trial_fuel k)).bind (trial_from c ok es)
    else none

def trial (ok : Kernel → Event → Prop) [∀ k e, Decidable (ok k e)] (es : List Event) :
    Option Kernel :=
  (Outcome.result ((disastrOS_start 0 0 false).run heap trial_fuel (boot constants.toConfig))).bind
    (trial_from constants.toConfig ok es)

theorem Outcome.result_eq {outcome : Outcome Stop Kernel Unit} {k : Kernel}
    (result : Outcome.result outcome = some k) : outcome = .done () k := by
  cases outcome <;> simp_all [Outcome.result]

theorem start_reaches {c : Constants} {ok : Kernel → Event → Prop} {k : Kernel}
    (result : Outcome.result ((disastrOS_start 0 0 false).run heap trial_fuel (boot c.toConfig)) = some k) :
    ReachableWith c.toConfig ok k := by
  have ready (p : Pool) : pool_ready c.toConfig p = (pool_init c.toConfig p).2 := by
    rw [pool_init_eq]
  refine .start ⟨fun p => by rw [pool_init_eq], 0, 0, false, trial_fuel, ?_⟩
  rw [← funext ready]
  exact Outcome.result_eq result

section
variable {ok : Kernel → Event → Prop} [∀ k e, Decidable (ok k e)]

theorem trial_from_reaches {c : Config} {es : List Event} {k k' : Kernel}
    (reach : ReachableWith c ok k) (run : trial_from c ok es k = some k') : ReachableWith c ok k' := by
  induction es generalizing k with
  | nil =>
    cases run
    exact reach
  | cons e es ih =>
    simp only [trial_from] at run
    split at run
    · rename_i good
      obtain ⟨j, result, rest⟩ := Option.bind_eq_some_iff.mp run
      exact ih (.step reach good ⟨trial_fuel, Outcome.result_eq result⟩) rest
    · cases run

theorem trial_reaches {es : List Event} {k : Kernel} (run : trial ok es = some k) :
    ReachableWith constants.toConfig ok k := by
  obtain ⟨j, result, rest⟩ := Option.bind_eq_some_iff.mp run
  exact trial_from_reaches (start_reaches result) rest

end

def arguments (xs : List Int) : Nat → Int := fun i => xs.getD i 0

abbrev always : Kernel → Event → Prop := fun _ _ => True

theorem ReachableWith.reachable {c : Config} {ok : Kernel → Event → Prop} {k : Kernel}
    (reach : ReachableWith c ok k) : Reachable c k := by
  induction reach with
  | start started => exact .start started
  | step _ _ step ih => exact .step ih step

/-- The kernel at the end of a trial, with what is observed of it. -/
structure Observed (ok : Kernel → Event → Prop) (f : Kernel → Prop) where
  kernel : Kernel
  reach : ReachableWith constants.toConfig ok kernel
  seen : f kernel

def observe (ok : Kernel → Event → Prop) [∀ k e, Decidable (ok k e)] (es : List Event)
    {f : Kernel → Prop} [DecidablePred f] (seen : ((trial ok es).any fun k => f k) = true) :
    Observed ok f :=
  match run : trial ok es with
  | some k => ⟨k, trial_reaches run, by simpa [run] using seen⟩
  | none => False.elim (by simp [run] at seen)

/-- One event of a trial, and what is observed after it. -/
theorem trial_step {c : Config} {m : Kernel} {e : Event} {f : Kernel → Prop} [DecidablePred f]
    (seen : ((trial_from c always [e] m).any fun m => f m) = true) : ∃ m', Step c m e m' ∧ f m' := by
  obtain ⟨m', run, holds⟩ := (Option.any_eq_true ..).mp seen
  simp only [trial_from, if_true] at run
  obtain ⟨j, result, rest⟩ := Option.bind_eq_some_iff.mp run
  cases rest
  exact ⟨m', ⟨trial_fuel, Outcome.result_eq result⟩, of_decide_eq_true holds⟩

end DisastrOS
