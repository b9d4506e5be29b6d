import DisastrOS.System

/-! The kernel seen as sequences of blocks, and why the heap refines that view. -/

set_option autoImplicit false

namespace DisastrOS

open Refinement

/-- The pool whose blocks a list links. -/
def Head.kind : Head → Pool
  | .ready_list | .waiting_list | .zombie_list => .pcb
  | .timer_list => .timer_item
  | .resources_list => .resource
  | .mq_list => .message_queue
  | .children _ | .waiting_to_read _ | .waiting_to_write _ => .pcb_ptr
  | .descriptors _ => .descriptor
  | .descriptors_ptrs _ => .descriptor_ptr
  | .messages _ => .message

/-- Address of the block of index `i`. -/
def block (p : Pool) (i : Nat) : Addr := ⟨p, i * p.sizeof⟩

theorem block_injective (p : Pool) : Function.Injective (block p) := by
  intro i j same
  have offsets : (i : Int) * p.sizeof = j * p.sizeof := congrArg Addr.offset same
  have positive : (p.sizeof : Int) ≠ 0 := by have := p.sizeof_pos; omega
  exact_mod_cast mul_right_cancel₀ positive offsets

def blocks (c : Config) : Finset Addr :=
  Finset.univ.biUnion fun p => (Finset.range (c.num_items p)).image (block p)

theorem mem_blocks {c : Config} {x : Addr} :
    x ∈ blocks c ↔ ∃ i < c.num_items x.pool, x = block x.pool i := by
  simp only [blocks, Finset.mem_biUnion, Finset.mem_univ, true_and, Finset.mem_image,
    Finset.mem_range]
  constructor
  · rintro ⟨p, i, small, rfl⟩
    exact ⟨i, small, rfl⟩
  · rintro ⟨i, small, same⟩
    exact ⟨x.pool, i, small, same.symm⟩

def layout (c : Config) : Layout Head Pool Addr where
  kind := Head.kind
  poolOf := Addr.pool
  blocks := blocks c

@[simp] theorem layout_kind (c : Config) : (layout c).kind = Head.kind := rfl
@[simp] theorem layout_poolOf (c : Config) : (layout c).poolOf = Addr.pool := rfl
@[simp] theorem layout_blocks (c : Config) : (layout c).blocks = blocks c := rfl

open Classical in
/-- The operations on sequences. Inserting asks for a block that is out of its
pool and in no list, detaching for an element of the list it names. -/
noncomputable def sequences (c : Config) : {β : Type} → Op β → Arena (layout c) →
    Option (β × Arena (layout c))
  | _, .first head, a => some ((a.seq head).head?, a)
  | _, .last head, a => some ((a.seq head).getLast?, a)
  | _, .size head, a => some ((a.seq head).length, a)
  | _, .next item, a =>
      match a.place item with
      | .linked head => some (after item (a.seq head), a)
      | .unlinked => some (none, a)
      | .lost => none
  | _, .clear item, a => if a.place item = .unlinked then some ((), a) else none
  | _, .init head, a => some ((), a.reset head)
  | _, .insert head prev item, a =>
      if ok : a.CanInsert (layout c) head prev item then
        some (some item, a.insert head prev item ok)
      else none
  | _, .detach head item, a =>
      if linked : a.place item = .linked head then some ((), a.detach head item linked) else none
  | _, .getBlock pool, a => some ((a.free pool).head?, a.alloc pool)
  | _, .releaseBlock pool block, a =>
      if ok : a.CanRelease (layout c) pool block then
        some (.Success, a.release pool block ok)
      else none

noncomputable def arena (c : Config) : DataType Op where
  Data := Arena (layout c)
  exec := sequences c

/-- The abstract kernel: the same store over an arena. -/
abbrev View (c : Config) := State Store (arena c).Data

/-! ## Refinement -/

/-- The heap links the sequences of the arena, keeps the items of unlinked blocks
clean and threads the stacks of free blocks. -/
structure Represents (c : Config) (m : Heap) (a : Arena (layout c)) : Prop where
  lists : ∀ h, m.links.Holds h (a.seq h)
  clean : ∀ x, a.place x = .unlinked → m.links.item x = ⟨none, none⟩
  buffer : ∀ p, (m.pools p).buffer = 0
  pools : ∀ p, ∃ free : List Nat,
    (m.pools p).Manages p.sizeof (c.num_items p) free ∧ a.free p = free.map (block p)

namespace Represents
variable {c : Config} {m : Heap} {a : Arena (layout c)}

theorem split_insert {h : Head} {prev : Pointer} {x : Addr} (ok : a.CanInsert (layout c) h prev x) :
    ∃ xs ys, a.seq h = xs ++ ys ∧ xs.getLast? = prev ∧
      insertItem prev x (a.seq h) = xs ++ x :: ys := by
  cases prev with
  | none => exact ⟨[], a.seq h, rfl, rfl, rfl⟩
  | some p =>
    obtain ⟨xs, ys, split⟩ := List.append_of_mem (a.sound.mem_seq.mpr (ok.prev p rfl))
    have fresh : p ∉ xs := fun member => by
      have nodup := a.sound.nodup h
      rw [split] at nodup
      exact (List.nodup_append.mp nodup).2.2 p member p (by simp) rfl
    exact ⟨xs ++ [p], ys, by simp [split], by simp, by simp [split, insertItem, insertAfter_append fresh]⟩

theorem insert (rep : Represents c m a) {h : Head} {prev : Pointer} {x : Addr}
    (ok : a.CanInsert (layout c) h prev x) :
    ∃ links, m.links.List_insert h prev x = (some x, links) ∧
      Represents c (m.setLinks links) (a.insert h prev x ok) := by
  obtain ⟨xs, ys, split, rfl, inserted⟩ := split_insert ok
  have holds := rep.lists h
  have nodup := a.sound.nodup h
  have fresh : x ∉ a.seq h := by rw [a.sound.mem_seq, ok.unlinked]; nofun
  have clean := rep.clean x ok.unlinked
  rw [split] at holds nodup fresh
  have answer : (m.links.List_insert h xs.getLast? x).1 = some x := by
    simp [Links.List_insert, clean]
  -- an item of another list is none of the neighbours
  have others : ∀ y, y ≠ x → y ∉ xs ++ ys →
      (m.links.List_insert h xs.getLast? x).2.item y = m.links.item y :=
    fun _ => holds.item_insert_of_notMem nodup fresh clean
  refine ⟨_, Prod.ext answer rfl, ⟨fun h' => ?_, fun y unlinked => ?_, rep.buffer, rep.pools⟩⟩
  · by_cases same : h' = h
    · subst same
      simpa [Heap.setLinks, inserted] using holds.insert nodup fresh clean
    · rw [Arena.toShape_insert, Shape.seq_insert, Function.update_of_ne same]
      refine (rep.lists h').congr ?_ fun y member => others y ?_ ?_
      · change (m.links.List_insert h xs.getLast? x).2.head h' = _
        rw [Links.head_insert clean holds.prev_next, if_neg same]
      · rintro rfl
        rw [a.sound.mem_seq, ok.unlinked] at member
        cases member
      · intro here
        rw [← split, a.sound.mem_seq] at here
        rw [a.sound.mem_seq, here] at member
        exact same (Place.linked.inj member).symm
  · have new : y ≠ x := by
      rintro rfl
      simp at unlinked
    have old : a.place y = .unlinked := by simpa [new] using unlinked
    refine (others y new fun here => ?_).trans (rep.clean y old)
    rw [← split, a.sound.mem_seq, old] at here
    cases here

theorem detach (rep : Represents c m a) {h : Head} {x : Addr} (linked : a.place x = .linked h) :
    Represents c (m.setLinks (m.links.List_detach h x)) (a.detach h x linked) := by
  obtain ⟨xs, ys, split⟩ := List.append_of_mem (a.sound.mem_seq.mpr linked)
  have holds := rep.lists h
  have nodup := a.sound.nodup h
  rw [split] at holds nodup
  have before : x ∉ xs := fun member =>
    (List.nodup_append.mp nodup).2.2 x member x (by simp) rfl
  have erased : (a.seq h).erase x = xs ++ ys := by
    rw [split, List.erase_append_right _ before, List.erase_cons_head]
  -- an item of another list is none of the neighbours
  have others : ∀ y, y ∉ a.seq h → (m.links.List_detach h x).item y = m.links.item y := by
    rw [split]
    exact fun _ => holds.item_detach_of_notMem nodup
  constructor
  · intro h'
    by_cases same : h' = h
    · subst same
      simpa [Heap.setLinks, erased] using holds.detach nodup
    · rw [Arena.toShape_detach, Shape.seq_detach, Function.update_of_ne same]
      refine (rep.lists h').congr ?_ fun y member => others y fun here => ?_
      · change (m.links.List_detach h x).head h' = _
        rw [Links.head_detach, if_neg same]
      · rw [a.sound.mem_seq] at here member
        rw [here] at member
        exact same (Place.linked.inj member).symm
  · intro y unlinked
    change (m.links.List_detach h x).item y = _
    by_cases gone : y = x
    · rw [holds.item_detach nodup, if_pos gone]
    · have old : a.place y = .unlinked := by simpa [gone] using unlinked
      refine (others y fun here => ?_).trans (rep.clean y old)
      rw [a.sound.mem_seq, old] at here
      cases here
  · exact rep.buffer
  · exact rep.pools

theorem next (rep : Represents c m a) {h : Head} {x : Addr} (linked : a.place x = .linked h) :
    (m.links.item x).next = after x (a.seq h) := by
  obtain ⟨xs, ys, split⟩ := List.append_of_mem (a.sound.mem_seq.mpr linked)
  have holds := rep.lists h
  have nodup := a.sound.nodup h
  rw [split] at holds nodup
  have before : x ∉ xs := fun member =>
    (List.nodup_append.mp nodup).2.2 x member x (by simp) rfl
  rw [split, after_append before, holds.links.item_eq]
  simp

theorem clear (rep : Represents c m a) {x : Addr} (unlinked : a.place x = .unlinked) :
    Represents c (m.setLinks (m.links.clear x)) a := by
  have same : (m.links.clear x).item = m.links.item := by
    rw [Links.clear, ← rep.clean x unlinked, Function.update_eq_self]
  refine ⟨fun h => (rep.lists h).congr rfl fun y _ => congrFun same y, fun y unlinked => ?_,
    rep.buffer, rep.pools⟩
  exact (congrFun same y).trans (rep.clean y unlinked)

theorem reset (rep : Represents c m a) (h : Head) :
    Represents c (m.setLinks (m.links.List_init h)) (a.reset h) := by
  constructor
  · intro h'
    by_cases same : h' = h
    · subst same
      simp only [Arena.toShape_reset, Shape.seq_reset, Function.update_self]
      constructor <;> simp [Heap.setLinks, Links.List_init, Links.Segment]
    · rw [Arena.toShape_reset, Shape.seq_reset, Function.update_of_ne same]
      exact (rep.lists h').congr (by simp [Heap.setLinks, Links.List_init, same]) fun _ _ => rfl
  · intro y unlinked
    refine rep.clean y ?_
    rw [Arena.toShape_reset, Shape.place_reset] at unlinked
    split at unlinked
    · cases unlinked
    · exact unlinked
  · exact rep.buffer
  · exact rep.pools

theorem of_pool (rep : Represents c m a) {p : Pool} {pool : PoolAllocator} {a' : Arena (layout c)}
    {free : List Nat} (buffer : pool.buffer = 0)
    (manages : pool.Manages p.sizeof (c.num_items p) free)
    (seq : a'.seq = a.seq) (place : a'.place = a.place)
    (frees : a'.free = Function.update a.free p (free.map (block p))) :
    Represents c (m.setPool p pool) a' := by
  refine ⟨fun h => seq ▸ rep.lists h, fun x unlinked => rep.clean x (place ▸ unlinked), fun q => ?_,
    fun q => ?_⟩
  · by_cases same : q = p
    · subst same; simpa [Heap.setPool] using buffer
    · simpa [Heap.setPool, same] using rep.buffer q
  · by_cases same : q = p
    · subst same; exact ⟨free, by simpa [Heap.setPool] using manages, by simp [frees]⟩
    · simpa [Heap.setPool, same, frees] using rep.pools q

theorem getBlock (rep : Represents c m a) (p : Pool) :
    ∃ pool, Heap.exec (.getBlock p) m = some ((a.free p).head?, m.setPool p pool) ∧
      Represents c (m.setPool p pool) (a.alloc p) := by
  obtain ⟨free, manages, frees⟩ := rep.pools p
  cases free with
  | nil =>
    refine ⟨m.pools p, ?_, rep.of_pool (rep.buffer p) manages rfl rfl (by simp [frees])⟩
    simp [Heap.exec, manages.getBlock_empty, frees]
  | cons i free =>
    obtain ⟨pool, run, buffer, manages'⟩ := manages.getBlock
    refine ⟨pool, ?_, rep.of_pool (buffer.trans (rep.buffer p)) manages' rfl rfl (by simp [frees])⟩
    simp [Heap.exec, run, frees, rep.buffer p, block]

theorem releaseBlock (rep : Represents c m a) {p : Pool} {x : Addr} (ok : a.CanRelease (layout c) p x) :
    ∃ pool, Heap.exec (.releaseBlock p x) m = some (.Success, m.setPool p pool) ∧
      Represents c (m.setPool p pool) (a.release p x ok) := by
  obtain ⟨free, manages, frees⟩ := rep.pools p
  obtain ⟨i, small, same⟩ := mem_blocks.mp ok.live.1
  have pool_eq : x.pool = p := ok.pool
  rw [pool_eq] at small same
  have out : i ∉ free := fun member => ok.live.2 (by
    rw [layout_poolOf, pool_eq, frees, same]
    exact List.mem_map_of_mem member)
  obtain ⟨pool, run, buffer, manages'⟩ := manages.releaseBlock small out
  refine ⟨pool, ?_, rep.of_pool (buffer.trans (rep.buffer p)) manages' rfl rfl (by simp [frees, same])⟩
  rw [rep.buffer p, Int.zero_add] at run
  simp [Heap.exec, same, block, run]

end Represents

/-- The heap refines the arena. -/
theorem heap_refines (c : Config) : Refines heap (arena c) (Represents c) where
  sim := by
    intro β op m a a' value rep run
    change sequences c op a = some (value, a') at run
    change ∃ m', Heap.exec op m = some (value, m') ∧ Represents c m' a'
    -- an operation on the sequences has a meaning only inside its contract
    cases op with
    | first head => cases run; exact ⟨m, by simp [Heap.exec, (rep.lists head).first], rep⟩
    | last head => cases run; exact ⟨m, by simp [Heap.exec, (rep.lists head).last], rep⟩
    | size head => cases run; exact ⟨m, by simp [Heap.exec, (rep.lists head).size], rep⟩
    | next item =>
      simp only [sequences] at run
      split at run
      · rename_i head linked
        cases run
        exact ⟨m, by simp [Heap.exec, rep.next linked], rep⟩
      · rename_i unlinked
        cases run
        exact ⟨m, by simp [Heap.exec, rep.clean item unlinked], rep⟩
      · cases run
    | clear item =>
      simp only [sequences] at run
      split at run
      · cases run; exact ⟨_, rfl, rep.clear ‹_›⟩
      · cases run
    | init head => cases run; exact ⟨_, rfl, rep.reset head⟩
    | insert head prev item =>
      simp only [sequences] at run
      split at run
      · rename_i ok
        cases run
        obtain ⟨links, inserted, rep'⟩ := rep.insert ok
        exact ⟨_, by simp [Heap.exec, inserted], rep'⟩
      · cases run
    | detach head item =>
      simp only [sequences] at run
      split at run
      · rename_i linked
        cases run
        exact ⟨_, rfl, rep.detach linked⟩
      · cases run
    | getBlock pool =>
      cases run
      obtain ⟨m', taken, rep'⟩ := rep.getBlock pool
      exact ⟨_, taken, rep'⟩
    | releaseBlock pool block =>
      simp only [sequences] at run
      split at run
      · rename_i ok
        cases run
        obtain ⟨m', released, rep'⟩ := rep.releaseBlock ok
        exact ⟨_, released, rep'⟩
      · cases run

end DisastrOS
