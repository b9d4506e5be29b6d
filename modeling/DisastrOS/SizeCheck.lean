import DisastrOS.PoolAllocator

/-! The size check of `PoolAllocator_init`, and what the check is for. -/

set_option autoImplicit false

namespace DisastrOS

namespace PoolAllocator

/-- The blocks come first, the free list right behind them, and both stay inside the memory. -/
structure LaidOut (a a' : PoolAllocator) (item_size num_items memory_block memory_size : Int) : Prop where
  buffer : a'.buffer = memory_block
  base : a'.free_list_base = memory_block + item_size * num_items
  inside : a'.free_list_base + num_items * 4 ≤ memory_block + memory_size
  written : ∀ i, a'.free_list i ≠ a.free_list i → 0 ≤ i ∧ i < num_items
  handed : ∀ calls block, (PoolAllocator_getBlock (a'.run calls).1).1 = some block →
    memory_block ≤ block ∧ block + item_size ≤ a'.free_list_base

/-- The check succeeds exactly if there is memory for all of it. -/
def SizeCheckExact (a : PoolAllocator) (item_size num_items memory_block memory_size : Int) : Prop :=
  let result := PoolAllocator_init a item_size num_items memory_block memory_size
  (result.1 = .Success ↔ num_items * (item_size + 4) ≤ memory_size) ∧
    (result.1 = .Success → LaidOut a result.2 item_size num_items memory_block memory_size)

/-- The requested size is at no positive multiple of 2^32 nor just before or behind one. -/
def AwayFromWrap (item_size num_items memory_size : Int) : Prop :=
  ∀ k : Int, 1 ≤ k → num_items * (item_size + 4) < k * 2 ^ 32 - 2 ^ 31 ∨
    k * 2 ^ 32 + memory_size < num_items * (item_size + 4)

section
variable {a : PoolAllocator} {item_size n : Nat} {free : List Nat}

theorem Manages.released (manages : a.Manages item_size n free) (block : Int) :
    (PoolAllocator_releaseBlock a block).2.buffer = a.buffer ∧
      ∃ free', (PoolAllocator_releaseBlock a block).2.Manages item_size n free' := by
  simp only [PoolAllocator_releaseBlock, manages.item, manages.max]
  split
  · exact ⟨rfl, free, manages⟩
  split
  · exact ⟨rfl, free, manages⟩
  split
  · exact ⟨rfl, free, manages⟩
  -- the index in range is one that `releaseBlock` gets from the address of its block
  rename_i range detached
  simp only [not_or, Int.not_lt, ge_iff_le, Int.not_le, not_not] at range detached
  obtain ⟨i, index⟩ := Int.eq_ofNat_of_zero_le range.1
  have small : i < n := by omega
  rw [index] at detached
  have out : i ∉ free := fun member => manages.ne_detached member detached
  obtain ⟨a', run, buffer, manages'⟩ := manages.releaseBlock small out
  have positive : (item_size : Int) ≠ 0 := by have := manages.positive; omega
  have offset : int32 (a.buffer + i * item_size - a.buffer) = (i : Int) * item_size := by
    rw [show a.buffer + (i : Int) * item_size - a.buffer = i * item_size by ring]
    exact offset_eq manages.fits small
  have same := congrArg Prod.snd run
  simp only [PoolAllocator_releaseBlock, offset, manages.item, manages.max, Int.mul_tmod_left,
    Int.mul_tdiv_cancel _ positive, detached] at same
  rw [if_neg (by simp), if_neg (by omega), if_neg (by simp)] at same
  rw [index]
  exact ⟨rfl, i :: free, same ▸ manages'⟩

theorem Manages.run (manages : a.Manages item_size n free) (calls : List Call) :
    (a.run calls).1.buffer = a.buffer ∧ ∃ free', (a.run calls).1.Manages item_size n free' := by
  suffices all : ∀ out, (calls.foldl step (a, out)).1.buffer = a.buffer ∧
      ∃ free', (calls.foldl step (a, out)).1.Manages item_size n free' from all []
  induction calls generalizing a free with
  | nil => exact fun _ => ⟨rfl, free, manages⟩
  | cons call calls ih =>
    intro out
    obtain ⟨base, free', manages'⟩ : (step (a, out) call).1.buffer = a.buffer ∧
        ∃ free', (step (a, out) call).1.Manages item_size n free' := by
      cases call with
      | getBlock =>
        cases free with
        | nil => simpa [step, manages.getBlock_empty] using ⟨[], manages⟩
        | cons i free =>
          obtain ⟨a', run, buffer, manages'⟩ := manages.getBlock
          simpa [step, run] using ⟨buffer, free, manages'⟩
      | releaseBlock block => exact manages.released block
    obtain ⟨buffer, rest⟩ := ih manages' (step (a, out) call).2
    exact ⟨buffer.trans base, rest⟩

theorem Manages.handed (manages : a.Manages item_size n free) {block : Int}
    (found : (PoolAllocator_getBlock a).1 = some block) :
    a.buffer ≤ block ∧ block + item_size ≤ a.buffer + item_size * n := by
  cases free with
  | nil => simp [manages.getBlock_empty] at found
  | cons i free =>
    obtain ⟨a', run, -⟩ := manages.getBlock
    simp only [run, Option.some.injEq] at found
    subst found
    have small : i < n := manages.range i (by simp)
    have low : (0 : Int) ≤ i * item_size := by positivity
    have high : (i + 1 : Int) * item_size ≤ n * item_size := by gcongr; omega
    constructor
    · omega
    · calc a.buffer + (i : Int) * item_size + item_size = a.buffer + (i + 1) * item_size := by ring
        _ ≤ a.buffer + n * item_size := by omega
        _ = a.buffer + item_size * n := by ring

end

/-- The product of two `int` values, the second raised by 4, does not wrap as a `size_t`. -/
theorem requested_small {item_size n : Int} (size : item_size < 2 ^ 31) (items : n < 2 ^ 31)
    (positive : 1 ≤ item_size) (some_item : 1 ≤ n) :
    0 < n * (item_size + 4) ∧ n * (item_size + 4) % 2 ^ 64 = n * (item_size + 4) := by
  have low : 0 < n * (item_size + 4) := by positivity
  have high : n * (item_size + 4) ≤ 2 ^ 31 * (2 ^ 31 + 4) :=
    Int.mul_le_mul items.le (by omega) (by omega) (by norm_num)
  exact ⟨low, Int.emod_eq_of_lt low.le (lt_of_le_of_lt high (by decide))⟩

theorem init_success_iff (a : PoolAllocator) {item_size n memory_block memory : Int} (size : item_size < 2 ^ 31)
    (items : n < 2 ^ 31) (positive : 1 ≤ item_size) (some_item : 1 ≤ n) :
    (PoolAllocator_init a item_size n memory_block memory).1 = .Success ↔
      int32 (n * (item_size + 4)) ≤ memory := by
  simp only [PoolAllocator_init, (requested_small size items positive some_item).2]
  split
  · rename_i short
    simp only [reduceCtorEq, false_iff, Int.not_le]
    exact short
  · rename_i enough
    simp only [true_iff]
    omega

theorem init_laidOut (a : PoolAllocator) {item_size n memory_block memory : Int} (positive : 1 ≤ item_size)
    (some_item : 1 ≤ n) (enough : n * (item_size + 4) ≤ memory) (small : memory < 2 ^ 31) :
    LaidOut a (PoolAllocator_init a item_size n memory_block memory).2 item_size n memory_block memory := by
  obtain ⟨size, rfl⟩ := Int.eq_ofNat_of_zero_le (by omega : 0 ≤ item_size)
  obtain ⟨items, rfl⟩ := Int.eq_ofNat_of_zero_le (by omega : 0 ≤ n)
  have room : (items : Int) * (size + 4) = size * items + items * 4 := by ring
  have low : (0 : Int) ≤ size * items := by positivity
  have fits : (size : Int) * items < 2 ^ 31 := by omega
  obtain ⟨total, rfl⟩ := Int.eq_ofNat_of_zero_le (by omega : 0 ≤ memory)
  have success := Manages.init_success a memory_block (by exact_mod_cast enough) (by omega : total < 2 ^ 31)
  obtain ⟨buffer, manages⟩ := Manages.of_init (a := a) (by omega) (by omega) (by exact_mod_cast fits) success
  have wide : int32 ((size : Int) * items) = size * items := int32_eq (by omega) fits
  unfold PoolAllocator_init at success buffer manages ⊢
  simp only at success buffer manages ⊢
  split at success
  · cases success
  rename_i some_room
  simp only [if_neg some_room] at buffer manages ⊢
  refine ⟨rfl, ?_, ?_, fun i changed => ?_, fun calls block found => ?_⟩
  · simp only [wide]
  · simp only [wide]
    omega
  · -- the loop and the last store write the indices of the blocks only
    by_contra outside
    have last : i ≠ items - 1 := by omega
    simp only [Function.update_of_ne last, Manages.populate_eq] at changed
    rw [if_neg (by omega)] at changed
    exact changed rfl
  · obtain ⟨base, free, manages'⟩ := manages.run calls
    have inside := manages'.handed found
    rw [base] at inside
    simpa only [wide] using inside

/-- The check of the size is exact for the requests that stay away from the wrap of the `int`. -/
theorem size_check_exact (a : PoolAllocator) (item_size num_items memory_block memory_size : Int)
    (size : 1 ≤ item_size ∧ item_size < 2 ^ 31) (items : 1 ≤ num_items ∧ num_items < 2 ^ 31)
    (memory : 0 ≤ memory_size ∧ memory_size < 2 ^ 31) :
    SizeCheckExact a item_size num_items memory_block memory_size ↔
      AwayFromWrap item_size num_items memory_size := by
  have positive := (requested_small size.2 items.2 size.1 items.1).1
  have success : (PoolAllocator_init a item_size num_items memory_block memory_size).1 = .Success ↔
      int32 (num_items * (item_size + 4)) ≤ memory_size :=
    init_success_iff a size.2 items.2 size.1 items.1
  have laidOut (enough : num_items * (item_size + 4) ≤ memory_size) :
      LaidOut a (PoolAllocator_init a item_size num_items memory_block memory_size).2 item_size num_items
        memory_block memory_size :=
    init_laidOut a size.1 items.1 enough memory.2
  unfold AwayFromWrap
  unfold SizeCheckExact
  generalize num_items * (item_size + 4) = requested at positive success laidOut ⊢
  -- the request is `wraps` times 2^32 above what the `int` holds
  obtain ⟨wraps, split, low, high⟩ : ∃ wraps, int32 requested + wraps * 2 ^ 32 = requested ∧
      -2 ^ 31 ≤ int32 requested ∧ int32 requested < 2 ^ 31 :=
    ⟨requested.bdiv (2 ^ 32), Int.bmod_add_bdiv' requested (2 ^ 32),
      Int.le_bmod (by decide), Int.bmod_lt (by decide)⟩
  constructor
  · rintro ⟨exactly, -⟩ k some_wrap
    rw [success] at exactly
    omega
  · intro away
    have exactly : int32 requested ≤ memory_size ↔ requested ≤ memory_size := by
      by_cases none : wraps = 0
      · subst none
        have same : int32 requested = requested := by omega
        rw [same]
      · have := away wraps (by omega)
        omega
    exact ⟨success.trans exactly, fun ok => laidOut (exactly.mp (success.mp ok))⟩

/-- Ten blocks of eight bytes in 120 bytes. -/
theorem size_check_exact_ten : SizeCheckExact ⟨0, 0, fun _ => 0, 0, 0, 0, 0, 0⟩ 8 10 0 120 :=
  (size_check_exact _ 8 10 0 120 (by decide) (by decide) (by decide)).mpr fun k some_wrap => by omega

/-- 2^16 blocks of 2^16-4 bytes are taken to fit in no memory at all. -/
theorem size_check_wraps : ¬ ∀ (a : PoolAllocator) (item_size num_items memory_block memory_size : Int),
    1 ≤ item_size ∧ item_size < 2 ^ 31 → 1 ≤ num_items ∧ num_items < 2 ^ 31 →
    0 ≤ memory_size ∧ memory_size < 2 ^ 31 →
    SizeCheckExact a item_size num_items memory_block memory_size := by
  intro every
  have exactly := (every ⟨0, 0, fun _ => 0, 0, 0, 0, 0, 0⟩ 65532 65536 0 0 (by decide) (by decide) (by decide)).1
  have success : (PoolAllocator_init ⟨0, 0, fun _ => 0, 0, 0, 0, 0, 0⟩ 65532 65536 0 0).1 = .Success := by
    rw [init_success_iff _ (by decide) (by decide) (by decide) (by decide)]
    decide
  exact absurd (exactly.mp success) (by decide)

end PoolAllocator

end DisastrOS
