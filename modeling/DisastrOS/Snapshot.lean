import DisastrOS.View

/-! What can be read off the memory of the kernel between two handlers. -/

set_option autoImplicit false

namespace DisastrOS

open Refinement

/-- At most `n` items from `aux` on, along the `next` pointers. -/
def Heap.walk (m : Heap) : Nat → Pointer → List Addr
  | 0, _ => []
  | _, none => []
  | n + 1, some item => item :: m.walk n (m.links.item item).next

namespace Kernel
variable (k : Kernel)

def list (h : Head) : List Addr :=
  k.data.walk (k.data.links.head h).size.toNat (k.data.links.head h).first

/-- A block of a pool that is not in its free list. -/
def Allocated (c : Config) (x : Addr) : Prop :=
  ∃ i < c.num_items x.pool, x = block x.pool i ∧ (k.data.pools x.pool).free_list i = DetachedIdx

def queue (id : Int) : Pointer := (k.list .mq_list).find? fun q => (k.store.mq q).id = id

def answers (pid_to_wait : Int) (e : Addr) : Bool :=
  match k.store.pcb_ptr e with
  | some p =>
      pid_to_wait = 0 ∧ (k.store.pcb p).status = .Zombie ∨
        pid_to_wait ≠ 0 ∧ (k.store.pcb p).pid = pid_to_wait
  | none => false

/-- The entry that scan is left with: the last one when no child passes the test. -/
def awaited (r : Addr) (pid_to_wait : Int) : Pointer :=
  ((k.list (.children r)).find? (k.answers pid_to_wait)).or (k.list (.children r)).getLast?

/-- The process that `internal_wait` decides about, when it is called with these arguments. -/
def awaitedProcess (args : Nat → Int) : Pointer :=
  k.store.running.bind fun r => (k.awaited r (int32 (args 0))).bind k.store.pcb_ptr

end Kernel

theorem Links.Segment.walk {m : Heap} {prev : Pointer} {xs : List Addr}
    (segment : Links.Segment m.links.item prev xs none) : m.walk xs.length xs.head? = xs := by
  induction xs generalizing prev with
  | nil => rfl
  | cons x xs ih =>
    obtain ⟨item, rest⟩ := segment
    simp only [List.length_cons, List.head?_cons, Heap.walk, item, Option.or_none]
    rw [ih rest]

section
variable {c : Config} {k : Kernel} {a : Arena (layout c)}

theorem Represents.list (rep : Represents c k.data a) (h : Head) : k.list h = a.seq h := by
  have holds := rep.lists h
  rw [Kernel.list, holds.size, holds.first, Int.toNat_natCast]
  exact holds.links.walk

theorem Represents.allocated (rep : Represents c k.data a) (x : Addr) :
    k.Allocated c x ↔ a.Live (layout c) x := by
  obtain ⟨free, manages, frees⟩ := rep.pools x.pool
  constructor
  · rintro ⟨i, small, same, detached⟩
    refine ⟨mem_blocks.mpr ⟨i, small, same⟩, fun member => ?_⟩
    rw [layout_poolOf, frees, same, List.mem_map] at member
    obtain ⟨j, there, equal⟩ := member
    cases block_injective _ equal
    exact manages.ne_detached there detached
  · rintro ⟨inside, out⟩
    obtain ⟨i, small, same⟩ := mem_blocks.mp inside
    refine ⟨i, small, same, manages.detached i small fun member => out ?_⟩
    rw [layout_poolOf, frees, same]
    exact List.mem_map_of_mem member

theorem Represents.size (rep : Represents c k.data a) (p : Pool) :
    (k.data.pools p).size = (a.free p).length := by
  obtain ⟨free, manages, frees⟩ := rep.pools p
  rw [frees, List.length_map, manages.size]

end

end DisastrOS
