import Mathlib.Data.List.Range
import Mathlib.Data.List.Nodup
import Mathlib.Logic.Function.Basic
import Mathlib.Tactic.GCongr
import Mathlib.Tactic.Positivity
import Mathlib.Tactic.Ring

/-! The block allocator of `pool_allocator.c`.

Addresses are integers. The free list is the array of indices that lies behind
the blocks; the sentinels of that array also record which blocks are out.
-/

set_option autoImplicit false

namespace DisastrOS

/-- The value a wider integer has as a 32-bit `int`. -/
def int32 (x : Int) : Int := x.bmod (2 ^ 32)

theorem int32_eq {x : Int} (low : -2 ^ 31 ≤ x) (high : x < 2 ^ 31) : int32 x = x :=
  Int.bmod_eq_of_le (by omega) (by omega)

inductive PoolAllocatorResult where
  | Success
  | NotEnoughMemory
  | UnalignedFree
  | OutOfRange
  | DoubleFree
  deriving DecidableEq

def PoolAllocatorResult.code : PoolAllocatorResult → Int
  | .Success => 0
  | .NotEnoughMemory => -1
  | .UnalignedFree => -2
  | .OutOfRange => -3
  | .DoubleFree => -4

def NullIdx : Int := -1
def DetachedIdx : Int := -2

structure PoolAllocator where
  buffer : Int
  /-- Address of the first index of the free list. -/
  free_list_base : Int
  /-- The indices stored from `free_list_base` on. -/
  free_list : Int → Int
  buffer_size : Int
  size : Int
  size_max : Int
  item_size : Int
  first_idx : Int

/-- The first `n` rounds of the loop that threads the free list. -/
def PoolAllocator_populate (free_list : Int → Int) : Nat → Int → Int
  | 0 => free_list
  | n + 1 => Function.update (PoolAllocator_populate free_list n) n (n + 1)

/-- `num_items*(item_size+sizeof(int))` is a `size_t` product stored in an `int`. -/
def PoolAllocator_init (a : PoolAllocator) (item_size num_items memory_block memory_size : Int) :
    PoolAllocatorResult × PoolAllocator :=
  let requested_size := int32 (num_items * (item_size + 4) % 2 ^ 64)
  if memory_size < requested_size then (.NotEnoughMemory, a)
  else
    let free_list := PoolAllocator_populate a.free_list (num_items - 1).toNat
    (.Success,
      { buffer := memory_block
        free_list_base := memory_block + int32 (item_size * num_items)
        free_list := Function.update free_list (num_items - 1) NullIdx
        buffer_size := int32 (item_size * num_items)
        size := num_items
        size_max := num_items
        item_size := item_size
        first_idx := 0 })

def PoolAllocator_getBlock (a : PoolAllocator) : Option Int × PoolAllocator :=
  if a.first_idx = -1 then (none, a)
  else
    let detached_idx := a.first_idx
    (some (a.buffer + int32 (detached_idx * a.item_size)),
      { a with
        first_idx := a.free_list a.first_idx
        size := a.size - 1
        free_list := Function.update a.free_list detached_idx DetachedIdx })

/-- Division and remainder are those of C: they truncate towards zero. -/
def PoolAllocator_releaseBlock (a : PoolAllocator) (block : Int) :
    PoolAllocatorResult × PoolAllocator :=
  let offset := int32 (block - a.buffer)
  if offset.tmod a.item_size ≠ 0 then (.UnalignedFree, a)
  else
    let idx := offset.tdiv a.item_size
    if idx < 0 ∨ idx ≥ a.size_max then (.OutOfRange, a)
    else if a.free_list idx ≠ DetachedIdx then (.DoubleFree, a)
    else
      (.Success,
        { a with
          free_list := Function.update a.free_list idx a.first_idx
          first_idx := idx
          size := a.size + 1 })

/-! ## The free list as a stack of indices -/

/-- Starting from `first`, the free list visits `free` and ends in `NullIdx`. -/
def Threads (free_list : Int → Int) : Int → List Nat → Prop
  | first, [] => first = NullIdx
  | first, i :: free => first = i ∧ Threads free_list (free_list i) free

theorem Threads.congr {f g : Int → Int} {first : Int} {free : List Nat}
    (threads : Threads f first free) (same : ∀ i ∈ free, g (i : Int) = f i) :
    Threads g first free := by
  induction free generalizing first with
  | nil => exact threads
  | cons i free ih =>
    refine ⟨threads.1, ?_⟩
    rw [same i (by simp)]
    exact ih threads.2 fun j member => same j (List.mem_cons_of_mem i member)

/-- The allocator manages `n` blocks of `item_size` bytes; those of index in
`free` are free, in the order they will be handed out. -/
structure PoolAllocator.Manages (a : PoolAllocator) (item_size n : Nat) (free : List Nat) : Prop where
  positive : 0 < item_size
  fits : item_size * n < 2 ^ 31
  item : a.item_size = item_size
  max : a.size_max = n
  size : a.size = free.length
  threads : Threads a.free_list a.first_idx free
  nodup : free.Nodup
  range : ∀ i ∈ free, i < n
  detached : ∀ i < n, i ∉ free → a.free_list i = DetachedIdx

namespace PoolAllocator.Manages
variable {a : PoolAllocator} {item_size n i : Nat} {free : List Nat}

theorem offset_eq (fits : item_size * n < 2 ^ 31) (small : i < n) :
    int32 ((i : Int) * item_size) = i * item_size := by
  have low : (0 : Int) ≤ (i : Int) * item_size := by positivity
  have high : i * item_size < 2 ^ 31 :=
    lt_of_le_of_lt (by rw [Nat.mul_comm]; exact Nat.mul_le_mul_left _ small.le) fits
  exact int32_eq (by omega) (by exact_mod_cast high)

theorem getBlock_empty (manages : a.Manages item_size n []) : PoolAllocator_getBlock a = (none, a) := by
  have first : a.first_idx = -1 := manages.threads
  simp [PoolAllocator_getBlock, first]

theorem getBlock (manages : a.Manages item_size n (i :: free)) :
    ∃ a', PoolAllocator_getBlock a = (some (a.buffer + i * item_size), a') ∧
      a'.buffer = a.buffer ∧ a'.Manages item_size n free := by
  obtain ⟨first, rest⟩ := manages.threads
  have nodup := List.nodup_cons.mp manages.nodup
  have small := manages.range i (by simp)
  have run : PoolAllocator_getBlock a = (some (a.buffer + i * item_size),
      { a with
        first_idx := a.free_list i
        size := a.size - 1
        free_list := Function.update a.free_list i DetachedIdx }) := by
    simp only [PoolAllocator_getBlock, first, manages.item, offset_eq manages.fits small]
    rw [if_neg (by omega)]
  refine ⟨_, run, rfl, ?_⟩
  refine ⟨manages.positive, manages.fits, manages.item, manages.max, ?_, ?_, nodup.2,
    fun j member => manages.range j (List.mem_cons_of_mem i member), fun j bound out => ?_⟩
  · simp only [manages.size, List.length_cons]; omega
  · refine rest.congr fun j member => Function.update_of_ne ?_ _ _
    intro same
    exact nodup.1 (by simpa [Int.natCast_inj.mp same] using member)
  · by_cases same : j = i
    · simp [same]
    · have other : (j : Int) ≠ i := fun h => same (Int.natCast_inj.mp h)
      simpa [other] using manages.detached j bound (by simp [same, out])

theorem releaseBlock (manages : a.Manages item_size n free) (small : i < n) (out : i ∉ free) :
    ∃ a', PoolAllocator_releaseBlock a (a.buffer + i * item_size) = (.Success, a') ∧
      a'.buffer = a.buffer ∧ a'.Manages item_size n (i :: free) := by
  have positive : (item_size : Int) ≠ 0 := by have := manages.positive; omega
  have offset : int32 (a.buffer + i * item_size - a.buffer) = (i : Int) * item_size := by
    rw [show a.buffer + (i : Int) * item_size - a.buffer = i * item_size by ring]
    exact offset_eq manages.fits small
  have free_list := manages.detached i small out
  have run : PoolAllocator_releaseBlock a (a.buffer + i * item_size) = (.Success,
      { a with
        free_list := Function.update a.free_list i a.first_idx
        first_idx := i
        size := a.size + 1 }) := by
    simp only [PoolAllocator_releaseBlock, offset, manages.item, manages.max, Int.mul_tmod_left,
      Int.mul_tdiv_cancel _ positive, free_list]
    rw [if_neg (by simp), if_neg (by omega), if_neg (by simp)]
  refine ⟨_, run, rfl, ?_⟩
  refine ⟨manages.positive, manages.fits, manages.item, manages.max, ?_, ⟨rfl, ?_⟩,
    List.nodup_cons.mpr ⟨out, manages.nodup⟩, ?_, fun j bound absent => ?_⟩
  · simp only [manages.size, List.length_cons]; omega
  · simp only [Function.update_self]
    refine manages.threads.congr fun j member => Function.update_of_ne ?_ _ _
    intro same
    exact out (by simpa [Int.natCast_inj.mp same] using member)
  · intro j member
    rcases List.mem_cons.mp member with rfl | member
    · exact small
    · exact manages.range j member
  · rw [List.mem_cons, not_or] at absent
    have other : (j : Int) ≠ i := fun h => absent.1 (Int.natCast_inj.mp h)
    simpa [other] using manages.detached j bound absent.2

theorem ne_detached (manages : a.Manages item_size n free) {i : Nat} (member : i ∈ free) :
    a.free_list i ≠ DetachedIdx := by
  have all : ∀ (free : List Nat) (first : Int), Threads a.free_list first free →
      ∀ i ∈ free, a.free_list i = NullIdx ∨ ∃ j : Nat, a.free_list i = j := by
    intro free
    induction free with
    | nil => simp
    | cons j free ih =>
      rintro first ⟨-, rest⟩ i member
      rcases List.mem_cons.mp member with rfl | member
      · cases free with
        | nil => exact .inl rest
        | cons next free => exact .inr ⟨next, rest.1⟩
      · exact ih _ rest i member
  rcases all free _ manages.threads i member with last | ⟨j, next⟩
  · rw [last]
    decide
  · rw [next, DetachedIdx]
    omega

/-! ### Initialisation -/

theorem populate_eq (free_list : Int → Int) (n : Nat) (j : Int) :
    PoolAllocator_populate free_list n j = if 0 ≤ j ∧ j < n then j + 1 else free_list j := by
  induction n with
  | zero => rw [if_neg (by omega)]; rfl
  | succ n ih =>
    by_cases last : j = n
    · simp [PoolAllocator_populate, last]
    · simp only [PoolAllocator_populate, Function.update_of_ne last, ih]
      split <;> split <;> first | rfl | omega

theorem threads_range (free_list : Int → Int) (n first : Nat)
    (next : ∀ i, first ≤ i → i < first + n → free_list (i : Int) = i + 1)
    (last : free_list (first + n : Nat) = NullIdx) :
    Threads free_list first (List.range' first (n + 1)) := by
  induction n generalizing first with
  | zero => exact ⟨rfl, last⟩
  | succ n ih =>
    refine ⟨rfl, ?_⟩
    rw [next first (Nat.le_refl _) (by omega)]
    have step := ih (first + 1) (fun i low high => next i (by omega) (by omega))
      (by rw [show first + 1 + n = first + (n + 1) by omega]; exact last)
    simpa using step

theorem of_init {item_size n : Nat} {memory_block memory : Int} (positive : 0 < item_size)
    (some_item : 0 < n) (fits : item_size * n < 2 ^ 31)
    (success : (PoolAllocator_init a item_size n memory_block memory).1 = .Success) :
    (PoolAllocator_init a item_size n memory_block memory).2.buffer = memory_block ∧
      (PoolAllocator_init a item_size n memory_block memory).2.Manages item_size n
        (List.range n) := by
  unfold PoolAllocator_init at success ⊢
  simp only at success ⊢
  split at success
  · cases success
  rename_i enough
  rw [if_neg enough]
  obtain ⟨k, rfl⟩ : ∃ k, n = k + 1 := ⟨n - 1, by omega⟩
  refine ⟨rfl, positive, fits, rfl, rfl, by simp, ?_, List.nodup_range, by simp,
    fun i small out => ?_⟩
  · rw [List.range_eq_range']
    refine threads_range _ k 0 (fun i _ high => ?_) (by simp)
    simp only [Nat.cast_add, Nat.cast_one, Int.add_sub_cancel, Int.toNat_natCast]
    rw [Function.update_of_ne (by omega), populate_eq, if_pos (by omega)]
  · exact absurd (List.mem_range.mpr small) out

theorem init_success (a : PoolAllocator) {item_size n memory : Nat} (memory_block : Int)
    (enough : n * (item_size + 4) ≤ memory) (small : memory < 2 ^ 31) :
    (PoolAllocator_init a item_size n memory_block memory).1 = .Success := by
  have low : (0 : Int) ≤ n * (item_size + 4) := by positivity
  have room : (n : Int) * (item_size + 4) ≤ memory := by exact_mod_cast enough
  have high : (n : Int) * (item_size + 4) < 2 ^ 31 := by omega
  have requested : int32 ((n : Int) * (item_size + 4) % 2 ^ 64) = n * (item_size + 4) := by
    rw [Int.emod_eq_of_lt low (by omega)]
    exact int32_eq (by omega) high
  have success : ¬ (memory : Int) < n * (item_size + 4) := by omega
  simp only [PoolAllocator_init, requested, if_neg success]

end PoolAllocator.Manages

/-! ## Runs of one allocator -/

inductive PoolAllocator.Call where
  | getBlock
  | releaseBlock (block : Int)

/-- One call, with the addresses of the blocks that are out: handed out and not
given back with success since. -/
def PoolAllocator.step : PoolAllocator × List Int → Call → PoolAllocator × List Int
  | (a, out), .getBlock =>
      let result := PoolAllocator_getBlock a
      (result.2, match result.1 with
        | some block => block :: out
        | none => out)
  | (a, out), .releaseBlock block =>
      let result := PoolAllocator_releaseBlock a block
      (result.2, if result.1 = .Success then out.erase block else out)

def PoolAllocator.run (a : PoolAllocator) (calls : List Call) : PoolAllocator × List Int :=
  calls.foldl step (a, [])

/-- The offset of a pointer from the buffer is an `int`. -/
def PoolAllocator.Reaches (a : PoolAllocator) (block : Int) : Prop :=
  -2 ^ 31 ≤ block - a.buffer ∧ block - a.buffer < 2 ^ 31

/-- What an allocator of `n` blocks from `buffer` on does next while `out` are out. -/
structure PoolAllocator.Correct (a : PoolAllocator) (buffer : Int) (item_size n : Nat)
    (out : List Int) : Prop where
  chain : ∃ free : List Nat, Threads a.free_list a.first_idx free ∧ free.Nodup ∧
    a.size = free.length ∧ (∀ i ∈ free, (i : Int) < a.size_max) ∧
    ∀ i : Nat, (i : Int) < a.size_max → i ∉ free → a.free_list i = DetachedIdx
  size_max : a.size_max = n
  empty : (PoolAllocator_getBlock a).1 = none ↔ (out.length : Int) = a.size_max
  fresh : ∀ block, (PoolAllocator_getBlock a).1 = some block →
    (∃ i : Nat, (i : Int) < a.size_max ∧ block = buffer + i * item_size) ∧ block ∉ out
  inside : ∀ block ∈ out, buffer ≤ block ∧ block + item_size ≤ buffer + item_size * n
  apart : out.Pairwise fun block other : Int =>
    block + item_size ≤ other ∨ other + item_size ≤ block
  success : ∀ block, a.Reaches block →
    ((PoolAllocator_releaseBlock a block).1 = .Success ↔ block ∈ out)
  failure : ∀ block, a.Reaches block → block ∉ out →
    (PoolAllocator_releaseBlock a block).1.code < 0 ∧ (PoolAllocator_releaseBlock a block).2 = a

structure PoolAllocator.Tracks (a : PoolAllocator) (buffer : Int) (item_size n : Nat)
    (free : List Nat) (out : List Int) : Prop where
  manages : a.Manages item_size n free
  base : a.buffer = buffer
  nodup : out.Nodup
  mem_out : ∀ block, block ∈ out ↔ ∃ i < n, i ∉ free ∧ block = buffer + i * item_size

namespace PoolAllocator.Tracks
variable {a : PoolAllocator} {buffer : Int} {item_size n : Nat} {free : List Nat} {out : List Int}

theorem block_inj (positive : 0 < item_size) {i j : Nat}
    (same : buffer + (i : Int) * item_size = buffer + j * item_size) : i = j := by
  -- as integers: the addresses may be negative
  have product : (i : Int) * item_size = j * item_size := by omega
  have nonzero : (item_size : Int) ≠ 0 := by omega
  exact_mod_cast mul_right_cancel₀ nonzero product

theorem code_neg {result : PoolAllocatorResult} (failed : result ≠ .Success) : result.code < 0 := by
  cases result with
  | Success => exact absurd rfl failed
  | _ => decide

/-- A block that is out is given back, and no other pointer is accepted. -/
theorem releaseBlock (tracks : a.Tracks buffer item_size n free out) {block : Int}
    (near : a.Reaches block) :
    (∃ i < n, i ∉ free ∧ block = buffer + i * item_size ∧
        ∃ a', PoolAllocator_releaseBlock a block = (.Success, a') ∧ a'.buffer = a.buffer ∧
          a'.Manages item_size n (i :: free)) ∨
      block ∉ out ∧ (PoolAllocator_releaseBlock a block).1.code < 0 ∧
        (PoolAllocator_releaseBlock a block).2 = a := by
  have manages := tracks.manages
  have offset : int32 (block - a.buffer) = block - a.buffer := int32_eq near.1 near.2
  have positive : (0 : Int) < item_size := by exact_mod_cast manages.positive
  by_cases isOut : block ∈ out
  · obtain ⟨i, small, used, at_i⟩ := (tracks.mem_out block).mp isOut
    refine .inl ⟨i, small, used, at_i, ?_⟩
    have released := manages.releaseBlock small used
    rw [tracks.base, ← at_i] at released
    rw [tracks.base]
    exact released
  refine .inr ⟨isOut, ?_⟩
  simp only [PoolAllocator_releaseBlock, offset, manages.item, manages.max]
  split
  · exact ⟨code_neg nofun, rfl⟩
  rename_i aligned
  split
  · exact ⟨code_neg nofun, rfl⟩
  rename_i range
  split
  · exact ⟨code_neg nofun, rfl⟩
  -- An aligned index in range that holds `DetachedIdx` is the index of a block that is out.
  rename_i detached
  exfalso
  simp only [not_not] at aligned detached
  simp only [not_or, Int.not_lt, ge_iff_le, Int.not_le] at range
  obtain ⟨i, index⟩ := Int.eq_ofNat_of_zero_le range.1
  have small : i < n := by omega
  have whole : block - a.buffer = i * item_size := by
    have division := Int.mul_tdiv_add_tmod (block - a.buffer) item_size
    rw [aligned, index] at division
    rw [← division]
    ring
  refine isOut ((tracks.mem_out block).mpr ⟨i, small, fun member => ?_, ?_⟩)
  · have held := manages.ne_detached member
    rw [index] at detached
    exact held detached
  · rw [← tracks.base, ← whole]
    ring

theorem step (tracks : a.Tracks buffer item_size n free out) (call : Call)
    (near : ∀ block, call = .releaseBlock block → a.Reaches block) :
    ∃ free', (step (a, out) call).1.Tracks buffer item_size n free' (step (a, out) call).2 := by
  have positive := tracks.manages.positive
  cases call with
  | getBlock =>
    cases free with
    | nil =>
      have none_left := tracks.manages.getBlock_empty
      simp only [PoolAllocator.step, none_left]
      exact ⟨[], tracks⟩
    | cons i free =>
      obtain ⟨a', run, sameBuffer, manages⟩ := tracks.manages.getBlock
      have small := tracks.manages.range i (by simp)
      have used := (List.nodup_cons.mp tracks.manages.nodup).1
      rw [tracks.base] at run
      simp only [PoolAllocator.step, run]
      refine ⟨free, manages, sameBuffer.trans tracks.base, ?_, fun block => ?_⟩
      -- a block that was free is not out, so no block is handed out twice
      · refine List.nodup_cons.mpr ⟨fun isOut => ?_, tracks.nodup⟩
        obtain ⟨j, -, notFree, same⟩ := (tracks.mem_out _).mp isOut
        exact notFree (by simp [block_inj positive same])
      · rw [List.mem_cons, tracks.mem_out]
        constructor
        · rintro (rfl | ⟨j, bound, notFree, rfl⟩)
          · exact ⟨i, small, used, rfl⟩
          · exact ⟨j, bound, fun member => notFree (List.mem_cons_of_mem i member), rfl⟩
        · rintro ⟨j, bound, notFree, rfl⟩
          by_cases same : j = i
          · exact .inl (by rw [same])
          · exact .inr ⟨j, bound, by simp [same, notFree], rfl⟩
  | releaseBlock block =>
    -- the release of a block that is out succeeds, any other changes nothing
    rcases tracks.releaseBlock (near block rfl) with
      ⟨i, small, used, at_i, a', run, sameBuffer, manages⟩ | ⟨notOut, code, same⟩
    · simp only [PoolAllocator.step, run, if_true]
      refine ⟨i :: free, manages, sameBuffer.trans tracks.base, tracks.nodup.erase block,
        fun other => ?_⟩
      rw [tracks.nodup.mem_erase_iff, tracks.mem_out]
      constructor
      · rintro ⟨differs, j, bound, notFree, rfl⟩
        refine ⟨j, bound, ?_, rfl⟩
        rw [List.mem_cons, not_or]
        exact ⟨fun same => differs (by rw [at_i, same]), notFree⟩
      · rintro ⟨j, bound, notFree, rfl⟩
        rw [List.mem_cons, not_or] at notFree
        exact ⟨fun same => notFree.1 (block_inj positive (same.trans at_i)), j, bound, notFree.2,
          rfl⟩
    · have failed : (PoolAllocator_releaseBlock a block).1 ≠ .Success := by
        intro success
        rw [success] at code
        exact absurd code (by decide)
      simp only [PoolAllocator.step, same, if_neg failed]
      exact ⟨free, tracks⟩

theorem length_out (tracks : a.Tracks buffer item_size n free out) :
    out.length + free.length = n := by
  have positive := tracks.manages.positive
  -- out are the indices that are not free
  have indices : (out.toFinset).card = ((Finset.range n).filter (· ∉ free)).card := by
    have image : out.toFinset =
        ((Finset.range n).filter (· ∉ free)).image fun i : Nat => buffer + (i : Int) * item_size := by
      ext block
      simp only [List.mem_toFinset, tracks.mem_out, Finset.mem_image, Finset.mem_filter,
        Finset.mem_range]
      constructor
      · rintro ⟨i, small, used, rfl⟩
        exact ⟨i, ⟨small, used⟩, rfl⟩
      · rintro ⟨i, ⟨small, used⟩, rfl⟩
        exact ⟨i, small, used, rfl⟩
    rw [image, Finset.card_image_of_injective _ fun _ _ => block_inj positive]
  have frees : ((Finset.range n).filter (· ∈ free)).card = free.length := by
    rw [← List.toFinset_card_of_nodup tracks.manages.nodup]
    congr 1
    ext i
    simp only [Finset.mem_filter, Finset.mem_range, List.mem_toFinset, and_iff_right_iff_imp]
    exact tracks.manages.range i
  have split := Finset.card_filter_add_card_filter_not (s := Finset.range n) (· ∈ free)
  rw [List.toFinset_card_of_nodup tracks.nodup] at indices
  rw [Finset.card_range] at split
  omega

theorem correct (tracks : a.Tracks buffer item_size n free out) :
    a.Correct buffer item_size n out where
  chain := by
    have manages := tracks.manages
    refine ⟨free, manages.threads, manages.nodup, manages.size, fun i member => ?_,
      fun i small => manages.detached i ?_⟩
    · rw [manages.max]
      exact_mod_cast manages.range i member
    · rw [manages.max] at small
      exact_mod_cast small
  size_max := tracks.manages.max
  empty := by
    have total := tracks.length_out
    rw [tracks.manages.max]
    cases free with
    | nil =>
      simp only [tracks.manages.getBlock_empty, true_iff]
      simpa using total
    | cons i free =>
      obtain ⟨a', run, -⟩ := tracks.manages.getBlock
      simp only [run, reduceCtorEq, false_iff]
      rw [List.length_cons] at total
      omega
  fresh block found := by
    cases free with
    | nil => simp [tracks.manages.getBlock_empty] at found
    | cons i free =>
      obtain ⟨a', run, -⟩ := tracks.manages.getBlock
      simp only [run, Option.some.injEq, tracks.base] at found
      subst found
      refine ⟨⟨i, ?_, rfl⟩, fun isOut => ?_⟩
      · rw [tracks.manages.max]
        exact_mod_cast tracks.manages.range i (by simp)
      · obtain ⟨j, -, notFree, same⟩ := (tracks.mem_out _).mp isOut
        exact notFree (by simp [block_inj tracks.manages.positive same])
  inside block isOut := by
    obtain ⟨i, small, -, rfl⟩ := (tracks.mem_out block).mp isOut
    have low : (0 : Int) ≤ i * item_size := by positivity
    have high : (i + 1 : Int) * item_size ≤ n * item_size := by gcongr; omega
    constructor
    · omega
    · calc buffer + (i : Int) * item_size + item_size = buffer + (i + 1) * item_size := by ring
        _ ≤ buffer + n * item_size := by omega
        _ = buffer + item_size * n := by ring
  apart := by
    apply tracks.nodup.imp_of_mem
    intro block block' isOut isOut' differs
    obtain ⟨i, -, -, rfl⟩ := (tracks.mem_out _).mp isOut
    obtain ⟨j, -, -, rfl⟩ := (tracks.mem_out _).mp isOut'
    -- the block of the smaller index ends before the other begins
    rcases lt_trichotomy i j with before | rfl | behind
    · left
      have : (i + 1 : Int) * item_size ≤ j * item_size := by gcongr; omega
      rw [Int.add_mul] at this
      omega
    · exact absurd rfl differs
    · right
      have : (j + 1 : Int) * item_size ≤ i * item_size := by gcongr; omega
      rw [Int.add_mul] at this
      omega
  success block near := by
    constructor
    · intro success
      rcases tracks.releaseBlock near with ⟨i, small, used, at_i, -⟩ | ⟨-, code, -⟩
      · exact (tracks.mem_out block).mpr ⟨i, small, used, at_i⟩
      · rw [success] at code
        exact absurd code (by decide)
    · intro isOut
      rcases tracks.releaseBlock near with ⟨i, -, -, -, a', run, -⟩ | ⟨notOut, -⟩
      · rw [run]
      · exact absurd isOut notOut
  failure block near notOut := by
    rcases tracks.releaseBlock near with ⟨i, small, used, at_i, -⟩ | ⟨-, failed⟩
    · exact absurd ((tracks.mem_out block).mpr ⟨i, small, used, at_i⟩) notOut
    · exact failed

theorem calls (tracks : a.Tracks buffer item_size n free out) (calls : List Call)
    (near : ∀ block, .releaseBlock block ∈ calls →
      -2 ^ 31 ≤ block - buffer ∧ block - buffer < 2 ^ 31) :
    ∃ free', (calls.foldl PoolAllocator.step (a, out)).1.Tracks buffer item_size n free'
      (calls.foldl PoolAllocator.step (a, out)).2 := by
  -- the invariant is that the allocator tracks its blocks; which are free changes with each call
  induction calls generalizing a free out with
  | nil => exact ⟨free, tracks⟩
  | cons call calls ih =>
    have reaches : ∀ block, call = .releaseBlock block → a.Reaches block := by
      rintro block rfl
      rw [PoolAllocator.Reaches, tracks.base]
      exact near block (by simp)
    obtain ⟨free', tracks'⟩ := tracks.step call reaches
    exact ih tracks' fun block member => near block (List.mem_cons_of_mem call member)

end PoolAllocator.Tracks

/-- An allocator that was set up is correct after any calls, with any pointers. -/
theorem PoolAllocator.run_correct (a : PoolAllocator) (item_size n : Nat) (memory_block memory : Int)
    (positive : 0 < item_size) (some_item : 0 < n) (fits : item_size * n < 2 ^ 31)
    (success : (PoolAllocator_init a item_size n memory_block memory).1 = .Success)
    (calls : List Call) (near : ∀ block, .releaseBlock block ∈ calls →
      -2 ^ 31 ≤ block - memory_block ∧ block - memory_block < 2 ^ 31) :
    ((PoolAllocator_init a item_size n memory_block memory).2.run calls).1.Correct memory_block
      item_size n ((PoolAllocator_init a item_size n memory_block memory).2.run calls).2 := by
  obtain ⟨base, manages⟩ := Manages.of_init positive some_item fits success
  have start : (PoolAllocator_init a item_size n memory_block memory).2.Tracks memory_block item_size
      n (List.range n) [] :=
    ⟨manages, base, List.nodup_nil, fun block => by simp; omega⟩
  obtain ⟨free, tracks⟩ := start.calls calls near
  exact tracks.correct

/-- Two blocks of eight bytes: take both, fail on a third, give the first one back twice. -/
theorem PoolAllocator.run_correct_two :
    ((PoolAllocator_init ⟨0, 0, fun _ => 0, 0, 0, 0, 0, 0⟩ (8 : Nat) (2 : Nat) 100 24).2.run
      [.getBlock, .getBlock, .getBlock, .releaseBlock 100, .releaseBlock 100]).1.Correct 100 8 2
      ((PoolAllocator_init ⟨0, 0, fun _ => 0, 0, 0, 0, 0, 0⟩ (8 : Nat) (2 : Nat) 100 24).2.run
        [.getBlock, .getBlock, .getBlock, .releaseBlock 100, .releaseBlock 100]).2 :=
  run_correct _ 8 2 100 24 (by decide) (by decide) (by decide) (by decide) _ (by simp)

end DisastrOS
