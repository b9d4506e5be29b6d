import Mathlib.Data.Set.Card
import DisastrOS.Trials

/-! How many blocks of a pool are outstanding, and that descriptors come in pairs. -/

set_option autoImplicit false

namespace DisastrOS

open Refinement

/-! ## Counting -/

namespace Scene

/-- The blocks of a pool that are allocated. -/
def outstanding (c : Config) (k : Scene) (p : Pool) : Finset Addr :=
  (blocks c).filter fun x => x.pool = p ∧ x ∉ k.free p

theorem mem_outstanding {c : Config} {k : Scene} {p : Pool} {x : Addr} :
    x ∈ k.outstanding c p ↔ k.Live c x ∧ x.pool = p := by
  simp only [outstanding, Finset.mem_filter, Scene.Live, Shape.Live, layout_blocks, layout_poolOf]
  constructor
  · rintro ⟨inside, rfl, out⟩
    exact ⟨⟨inside, out⟩, rfl⟩
  · rintro ⟨⟨inside, out⟩, rfl⟩
    exact ⟨inside, rfl, out⟩

end Scene

theorem card_pool (c : Config) (p : Pool) : ((blocks c).filter fun x => x.pool = p).card = c.num_items p := by
  have indexed : (blocks c).filter (fun x => x.pool = p) = (Finset.range (c.num_items p)).image (block p) := by
    ext x
    simp only [Finset.mem_filter, mem_blocks, Finset.mem_image, Finset.mem_range]
    constructor
    · rintro ⟨⟨i, small, same⟩, rfl⟩
      exact ⟨i, small, same.symm⟩
    · rintro ⟨i, small, rfl⟩
      exact ⟨⟨i, small, rfl⟩, rfl⟩
  rw [indexed, Finset.card_image_of_injective _ (block_injective p), Finset.card_range]

/-- Every block of a pool is outstanding or free. -/
theorem Scene.Sound.outstanding_add_free {c : Config} {k : Scene} (sound : k.Sound c) (p : Pool) :
    (k.outstanding c p).card + (k.free p).length = c.num_items p := by
  have free : ((blocks c).filter fun x => x.pool = p ∧ x ∈ k.free p) = (k.free p).toFinset := by
    ext x
    simp only [Finset.mem_filter, List.mem_toFinset]
    exact ⟨fun there => there.2.2, fun there => ⟨(sound.free_clean there).1, (sound.free_clean there).2.1, there⟩⟩
  have count := Finset.card_filter_add_card_filter_not (s := (blocks c).filter fun x => x.pool = p)
    (fun x => x ∈ k.free p)
  rw [Finset.filter_filter, Finset.filter_filter, free, card_pool,
    List.toFinset_card_of_nodup (sound.free_nodup p)] at count
  rw [Scene.outstanding, Nat.add_comm]
  exact count

theorem Shows.ncard {c : Config} {m : Kernel} {k : Scene} (shows : Shows c m k) (p : Pool) :
    {x | m.Allocated c x ∧ x.pool = p}.ncard = (k.outstanding c p).card := by
  have set : {x | m.Allocated c x ∧ x.pool = p} = (k.outstanding c p : Set Addr) := by
    ext x
    rw [Set.mem_ofPred_eq, shows.allocated, Finset.mem_coe, Scene.mem_outstanding]
  rw [set, Set.ncard_coe_finset]

theorem Shows.ncard_add_size {c : Config} {m : Kernel} {k : Scene} (shows : Shows c m k) (p : Pool) :
    ({x | m.Allocated c x ∧ x.pool = p}.ncard : Int) + (m.data.pools p).size = c.num_items p := by
  rw [shows.ncard, shows.size]
  exact_mod_cast shows.sound.outstanding_add_free p

/-! ## Descriptors and their pointers -/

theorem Descriptors.sizes {c : Config} {k : Scene} (inv : Descriptors c k) (sound : k.Sound c)
    (items : c.num_items .descriptor = c.num_items .descriptor_ptr) :
    (k.free .descriptor).length = (k.free .descriptor_ptr).length := by
  have paired : (k.outstanding c .descriptor).card = (k.outstanding c .descriptor_ptr).card := by
    refine Finset.card_bij (fun d _ => (k.store.descriptor d).ptr.getD d) ?_ ?_ ?_
    · intro d member
      obtain ⟨alive, pool⟩ := Scene.mem_outstanding.mp member
      obtain ⟨e, o, ptr, -, linked, -⟩ := inv.des alive pool
      rw [ptr, Option.getD_some, Scene.mem_outstanding]
      exact ⟨sound.live linked, sound.kind linked⟩
    · intro d member d' member' same
      obtain ⟨alive, pool⟩ := Scene.mem_outstanding.mp member
      obtain ⟨alive', pool'⟩ := Scene.mem_outstanding.mp member'
      obtain ⟨e, o, ptr, names, -⟩ := inv.des alive pool
      obtain ⟨e', o', ptr', names', -⟩ := inv.des alive' pool'
      rw [ptr, ptr', Option.getD_some, Option.getD_some] at same
      rw [same, names'] at names
      exact (Option.some.inj names).symm
    · intro e member
      obtain ⟨alive, pool⟩ := Scene.mem_outstanding.mp member
      obtain ⟨d, -, ptr, open_, kind⟩ := inv.ptr alive pool
      exact ⟨d, Scene.mem_outstanding.mpr ⟨open_, kind⟩, by rw [ptr, Option.getD_some]⟩
  have des := sound.outstanding_add_free .descriptor
  have ptrs := sound.outstanding_add_free .descriptor_ptr
  omega

/-- The descriptors and their pointers, as they are allocated. -/
structure Paired (c : Config) (m : Kernel) : Prop where
  sizes : (m.data.pools .descriptor).size = (m.data.pools .descriptor_ptr).size
  own : ∀ d, m.Allocated c d → d.pool = .descriptor →
    ∃ e, (m.store.descriptor d).ptr = some e ∧ m.Allocated c e ∧ e.pool = .descriptor_ptr ∧
      m.store.descriptor_ptr e = some d
  unshared : ∀ d d', m.Allocated c d → d.pool = .descriptor → m.Allocated c d' → d'.pool = .descriptor →
    (m.store.descriptor d).ptr = (m.store.descriptor d').ptr → d = d'
  /-- A NULL is inserted only when the new object has no block, before the
  descriptor is allocated. -/
  queue : ∀ args, Halts c m (.syscall DSOS_CALL_OPEN_MQ args) .insertNull →
    int32 (args 1) = DSOS_CREATE ∧ (m.data.pools .message_queue).size = 0
  resource : ∀ args, Halts c m (.syscall DSOS_CALL_OPEN_RESOURCE args) .insertNull →
    hasFlag (int32 (args 2)) DSOS_CREATE ∧ (m.data.pools .resource).size = 0

section
variable {c : Config} {k : Scene} {r o : Addr} {resource mq : Pointer}

theorem OpenDescriptor.no_null (sizes : (k.free .descriptor).length = (k.free .descriptor_ptr).length) :
    ¬ OpenDescriptor r o resource mq k (.fault .insertNull) := by
  intro opens
  cases opens with
  | noPtr des unspent full =>
    rw [full, List.length_nil, List.length_eq_zero_iff] at sizes
    rw [sizes] at des
    cases des

end

theorem descriptors_paired (c : Constants) {m : Kernel} (reach : Reachable c.toConfig m) :
    Paired c.toConfig m := by
  obtain ⟨k, shows, inv, -⟩ := reach.shows
  have sizes := inv.descriptors.sizes inv.sound rfl
  constructor
  · rw [shows.size, shows.size, sizes]
  · intro d alive pool
    obtain ⟨e, o, ptr, names, linked, -⟩ := inv.descriptors.des ((shows.allocated d).mp alive) pool
    rw [shows.store]
    exact ⟨e, ptr, (shows.allocated e).mpr (inv.sound.live linked), inv.sound.kind linked, names⟩
  · intro d d' alive pool alive' pool' same
    obtain ⟨e, o, ptr, names, -⟩ := inv.descriptors.des ((shows.allocated d).mp alive) pool
    obtain ⟨e', o', ptr', names', -⟩ := inv.descriptors.des ((shows.allocated d').mp alive') pool'
    rw [shows.store, ptr, ptr', Option.some.injEq] at same
    exact Option.some.inj (names.symm.trans (same ▸ names'))
  · intro args halts
    obtain ⟨r, runs, stops⟩ := (halts.reacts shows inv).handler_stops rfl ⟨nofun, nofun⟩
    -- NULL is met only where the pool of the objects is empty
    have mode : (k.enter r DSOS_CALL_OPEN_MQ args).intArg r 1 = int32 (args 1) := intArg_enter (by decide)
    rw [shows.size, ← mode]
    cases stops with
    | exhausted create absent full => exact ⟨create, by simpa using full⟩
    | creates create absent top opens =>
      exact absurd opens (OpenDescriptor.no_null (by simpa [Scene.newQueue] using sizes))
    | opens old found free opens => exact absurd opens (OpenDescriptor.no_null sizes)
  · intro args halts
    obtain ⟨r, runs, stops⟩ := (halts.reacts shows inv).handler_stops rfl ⟨nofun, nofun⟩
    have mode : (k.enter r DSOS_CALL_OPEN_RESOURCE args).intArg r 2 = int32 (args 2) := intArg_enter (by decide)
    rw [shows.size, ← mode]
    cases stops with
    | exhausted create absent full => exact ⟨create, by simpa using full⟩
    | creates create absent top opens =>
      exact absurd opens (OpenDescriptor.no_null (by simpa [Scene.newResource] using sizes))
    | opens old found type free opens => exact absurd opens (OpenDescriptor.no_null sizes)

/-- The first process opens a queue. -/
def queue_opened : Observed always fun m => (m.data.pools .descriptor).size = 2047 :=
  observe always [.syscall DSOS_CALL_OPEN_MQ (arguments [5, 1])] (by decide +kernel)

theorem descriptors_paired_open : ∃ m, Reachable constants.toConfig m ∧
    (m.data.pools .descriptor).size = 2047 ∧ Paired constants.toConfig m := by
  obtain ⟨m, reach, opened⟩ := queue_opened
  exact ⟨m, reach.reachable, opened, descriptors_paired constants reach.reachable⟩

end DisastrOS
