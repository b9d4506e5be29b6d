import DisastrOS.Refinement.Arena

/-! The intrusive lists of `linked_list.c`.

A list item is the first field of the block it links, so a pointer to a block
is a pointer to its item. `Links` holds the items of all blocks and all list
heads; a NULL pointer is `none`.
-/

set_option autoImplicit false
set_option linter.unusedSectionVars false

namespace DisastrOS

open Refinement

structure ListItem (X : Type) where
  prev : Option X
  next : Option X
  deriving DecidableEq

structure ListHead (X : Type) where
  first : Option X
  last : Option X
  size : Int
  deriving DecidableEq

structure Links (H X : Type) where
  item : X → ListItem X
  head : H → ListHead X

namespace Links
variable {H X : Type} [DecidableEq H] [DecidableEq X] (m : Links H X)

def setPrev (x : X) (prev : Option X) : Links H X :=
  { m with item := Function.update m.item x { m.item x with prev := prev } }
def setNext (x : X) (next : Option X) : Links H X :=
  { m with item := Function.update m.item x { m.item x with next := next } }
def setFirst (h : H) (first : Option X) : Links H X :=
  { m with head := Function.update m.head h { m.head h with first := first } }
def setLast (h : H) (last : Option X) : Links H X :=
  { m with head := Function.update m.head h { m.head h with last := last } }
def setSize (h : H) (size : Int) : Links H X :=
  { m with head := Function.update m.head h { m.head h with size := size } }

section Setters
variable (x y : X) (h k : H) (prev next : Option X) (size : Int)

@[simp] theorem item_setPrev : (m.setPrev x prev).item y =
    if y = x then { m.item y with prev := prev } else m.item y := by
  unfold setPrev; by_cases same : y = x <;> simp [same]
@[simp] theorem item_setNext : (m.setNext x next).item y =
    if y = x then { m.item y with next := next } else m.item y := by
  unfold setNext; by_cases same : y = x <;> simp [same]
@[simp] theorem head_setPrev : (m.setPrev x prev).head = m.head := rfl
@[simp] theorem head_setNext : (m.setNext x next).head = m.head := rfl
@[simp] theorem item_setFirst : (m.setFirst h next).item = m.item := rfl
@[simp] theorem item_setLast : (m.setLast h next).item = m.item := rfl
@[simp] theorem item_setSize : (m.setSize h size).item = m.item := rfl
@[simp] theorem head_setFirst : (m.setFirst h next).head k =
    if k = h then { m.head k with first := next } else m.head k := by
  unfold setFirst; by_cases same : k = h <;> simp [same]
@[simp] theorem head_setLast : (m.setLast h next).head k =
    if k = h then { m.head k with last := next } else m.head k := by
  unfold setLast; by_cases same : k = h <;> simp [same]
@[simp] theorem head_setSize : (m.setSize h size).head k =
    if k = h then { m.head k with size := size } else m.head k := by
  unfold setSize; by_cases same : k = h <;> simp [same]

end Setters

def List_init (head : H) : Links H X :=
  { m with head := Function.update m.head head ⟨none, none, 0⟩ }

/-- `item->prev=item->next=0`, as the allocators of the kernel write it. -/
def clear (x : X) : Links H X :=
  { m with item := Function.update m.item x ⟨none, none⟩ }

/-- The result is 0 when the item has a neighbour: it is then in some list. -/
def List_insert (head : H) (prev : Option X) (item : X) : Option X × Links H X :=
  if (m.item item).next.isSome || (m.item item).prev.isSome then (none, m)
  else
    let next := match prev with
      | some prev => (m.item prev).next
      | none => (m.head head).first
    let m := match prev with
      | some prev => (m.setPrev item (some prev)).setNext prev (some item)
      | none => m
    let m := match next with
      | some next => (m.setNext item (some next)).setPrev next (some item)
      | none => m
    let m := if prev.isNone then m.setFirst head (some item) else m
    let m := if next.isNone then m.setLast head (some item) else m
    (some item, m.setSize head ((m.head head).size + 1))

def List_detach (head : H) (item : X) : Links H X :=
  let prev := (m.item item).prev
  let next := (m.item item).next
  let m := match prev with
    | some prev => m.setNext prev next
    | none => m
  let m := match next with
    | some next => m.setPrev next prev
    | none => m
  let m := if (m.head head).first = some item then m.setFirst head next else m
  let m := if (m.head head).last = some item then m.setLast head prev else m
  let m := m.setSize head ((m.head head).size - 1)
  (m.setNext item none).setPrev item none

/-- The loop of `List_find` and of the `_byId` functions, which takes the first item that passes
the test. It is `none` while `fuel` rounds are too few. -/
def scan (test : X → Bool) : Nat → Option X → Option (Option X)
  | 0, _ => none
  | _ + 1, none => some none
  | fuel + 1, some aux => if test aux then some (some aux) else scan test fuel (m.item aux).next

def List_find (fuel : Nat) (head : H) (item : X) : Option (Option X) :=
  m.scan (fun aux => aux = item) fuel (m.head head).first

/-! ## Well-formed lists -/

/-- The items of `xs` are linked in this order, between `prev` and `next`. -/
def Segment (item : X → ListItem X) (prev : Option X) : List X → Option X → Prop
  | [], _ => True
  | x :: xs, next => item x = ⟨prev, xs.head?.or next⟩ ∧ Segment item (some x) xs next

/-- `xs` is what the list of `head` holds, from first to last. -/
structure Holds (head : H) (xs : List X) : Prop where
  first : (m.head head).first = xs.head?
  last : (m.head head).last = xs.getLast?
  size : (m.head head).size = xs.length
  links : Segment m.item none xs none

variable {m}

theorem segment_append {item : X → ListItem X} {prev next : Option X} {xs ys : List X} :
    Segment item prev (xs ++ ys) next ↔
      Segment item prev xs (ys.head?.or next) ∧ Segment item (xs.getLast?.or prev) ys next := by
  induction xs generalizing prev with
  | nil => simp [Segment]
  | cons x xs ih =>
    simp only [List.cons_append, Segment, ih, and_assoc]
    cases xs with
    | nil => simp
    | cons y ys' => simp [List.getLast?_cons]

theorem Segment.congr {item item' : X → ListItem X} {prev next : Option X} {xs : List X}
    (segment : Segment item prev xs next) (same : ∀ x ∈ xs, item' x = item x) :
    Segment item' prev xs next := by
  induction xs generalizing prev with
  | nil => trivial
  | cons x xs ih =>
    exact ⟨(same x (by simp)).trans segment.1,
      ih segment.2 fun y member => same y (List.mem_cons_of_mem x member)⟩

theorem Segment.item_eq {item : X → ListItem X} {prev next : Option X} {xs ys : List X} {x : X}
    (segment : Segment item prev (xs ++ x :: ys) next) :
    item x = ⟨xs.getLast?.or prev, ys.head?.or next⟩ :=
  (segment_append.mp segment).2.1

/-- A list is not disturbed by what happens to other items and other heads. -/
theorem Holds.congr {m m' : Links H X} {head : H} {xs : List X} (holds : m.Holds head xs)
    (heads : m'.head head = m.head head) (items : ∀ x ∈ xs, m'.item x = m.item x) :
    m'.Holds head xs where
  first := heads ▸ holds.first
  last := heads ▸ holds.last
  size := heads ▸ holds.size
  links := holds.links.congr items

theorem item_insert {head : H} {prev next : Option X} {x : X} (clean : m.item x = ⟨none, none⟩)
    (found : (match prev with | some prev => (m.item prev).next | none => (m.head head).first) = next)
    (prevOld : prev ≠ some x) (nextOld : next ≠ some x)
    (apart : ∀ p, prev = some p → next ≠ some p) (y : X) :
    (m.List_insert head prev x).2.item y =
      if y = x then ⟨prev, next⟩
      else if prev = some y then ⟨(m.item y).prev, some x⟩
      else if next = some y then ⟨some x, (m.item y).next⟩
      else m.item y := by
  cases prev with
  | none =>
    cases next with
    | none => simp [List_insert, clean, found]; grind
    | some n => simp [List_insert, clean, found]; grind
  | some p =>
    cases next with
    | none => simp [List_insert, clean, found]; grind
    | some n => simp [List_insert, clean, found]; grind

theorem head_insert {head : H} {prev next : Option X} {x : X} (clean : m.item x = ⟨none, none⟩)
    (found : (match prev with | some prev => (m.item prev).next | none => (m.head head).first) = next)
    (h : H) :
    (m.List_insert head prev x).2.head h =
      if h = head then
        ⟨if prev = none then some x else (m.head h).first,
          if next = none then some x else (m.head h).last, (m.head h).size + 1⟩
      else m.head h := by
  cases prev with
  | none =>
    cases next with
    | none => simp [List_insert, clean, found]; grind
    | some n => simp [List_insert, clean, found]; grind
  | some p =>
    cases next with
    | none => simp [List_insert, clean, found]; grind
    | some n => simp [List_insert, clean, found]; grind

theorem item_detach {head : H} {prev next : Option X} {x : X} (at_x : m.item x = ⟨prev, next⟩)
    (prevOld : prev ≠ some x) (nextOld : next ≠ some x)
    (apart : ∀ p, prev = some p → next ≠ some p) (y : X) :
    (m.List_detach head x).item y =
      if y = x then ⟨none, none⟩
      else if prev = some y then ⟨(m.item y).prev, next⟩
      else if next = some y then ⟨prev, (m.item y).next⟩
      else m.item y := by
  cases prev with
  | none =>
    cases next with
    | none => simp [List_detach, at_x, apply_ite Links.item, apply_ite Links.head,
      ite_apply]; grind
    | some n => simp [List_detach, at_x, apply_ite Links.item, apply_ite Links.head,
      ite_apply]; grind
  | some p =>
    cases next with
    | none => simp [List_detach, at_x, apply_ite Links.item, apply_ite Links.head,
      ite_apply]; grind
    | some n => simp [List_detach, at_x, apply_ite Links.item, apply_ite Links.head,
      ite_apply]; grind

theorem head_detach {head : H} {x : X} (h : H) :
    (m.List_detach head x).head h =
      if h = head then
        ⟨if (m.head h).first = some x then (m.item x).next else (m.head h).first,
          if (m.head h).last = some x then (m.item x).prev else (m.head h).last, (m.head h).size - 1⟩
      else m.head h := by
  cases prev : (m.item x).prev with
  | none =>
    cases next : (m.item x).next with
    | none => simp [List_detach, prev, next, apply_ite Links.head, ite_apply]; grind
    | some n => simp [List_detach, prev, next, apply_ite Links.head, ite_apply]; grind
  | some p =>
    cases next : (m.item x).next with
    | none => simp [List_detach, prev, next, apply_ite Links.head, ite_apply]; grind
    | some n => simp [List_detach, prev, next, apply_ite Links.head, ite_apply]; grind

theorem segment_snoc {item : X → ListItem X} {prev next : Option X} {xs : List X} {p : X} :
    Segment item prev (xs ++ [p]) next ↔
      Segment item prev xs (some p) ∧ item p = ⟨xs.getLast?.or prev, next⟩ := by
  simp [segment_append, Segment]

theorem neighbours_apart {xs ys : List X} (nodup : (xs ++ ys).Nodup) (p : X)
    (last : xs.getLast? = some p) : ys.head? ≠ some p := fun first =>
  (List.nodup_append.mp nodup).2.2 p (List.mem_of_getLast? last) p
    (List.mem_of_mem_head? first) rfl

theorem Holds.prev_next {head : H} {xs ys : List X} (holds : m.Holds head (xs ++ ys)) :
    (match xs.getLast? with | some prev => (m.item prev).next | none => (m.head head).first) =
      ys.head? := by
  rcases List.eq_nil_or_concat xs with rfl | ⟨xs, p, rfl⟩
  · simpa using holds.first
  · have links := holds.links
    rw [List.concat_eq_append, List.append_assoc, List.singleton_append] at links
    simp [links.item_eq]

theorem Holds.item_insert {head : H} {xs ys : List X} {x : X} (holds : m.Holds head (xs ++ ys))
    (nodup : (xs ++ ys).Nodup) (fresh : x ∉ xs ++ ys) (clean : m.item x = ⟨none, none⟩) (y : X) :
    (m.List_insert head xs.getLast? x).2.item y =
      if y = x then ⟨xs.getLast?, ys.head?⟩
      else if xs.getLast? = some y then ⟨(m.item y).prev, some x⟩
      else if ys.head? = some y then ⟨some x, (m.item y).next⟩
      else m.item y := by
  simp only [List.mem_append, not_or] at fresh
  exact Links.item_insert clean holds.prev_next
    (fun last => fresh.1 (List.mem_of_getLast? last))
    (fun first => fresh.2 (List.mem_of_mem_head? first)) (neighbours_apart nodup) y

theorem Holds.item_insert_of_notMem {head : H} {xs ys : List X} {x y : X}
    (holds : m.Holds head (xs ++ ys)) (nodup : (xs ++ ys).Nodup) (fresh : x ∉ xs ++ ys)
    (clean : m.item x = ⟨none, none⟩) (new : y ≠ x) (out : y ∉ xs ++ ys) :
    (m.List_insert head xs.getLast? x).2.item y = m.item y := by
  simp only [List.mem_append, not_or] at out
  have noLast : xs.getLast? ≠ some y := fun last => out.1 (List.mem_of_getLast? last)
  have noFirst : ys.head? ≠ some y := fun first => out.2 (List.mem_of_mem_head? first)
  rw [holds.item_insert nodup fresh clean, if_neg new, if_neg noLast, if_neg noFirst]

theorem Holds.insert {head : H} {xs ys : List X} {x : X} (holds : m.Holds head (xs ++ ys))
    (nodup : (xs ++ ys).Nodup) (fresh : x ∉ xs ++ ys) (clean : m.item x = ⟨none, none⟩) :
    (m.List_insert head xs.getLast? x).2.Holds head (xs ++ x :: ys) := by
  have items := holds.item_insert nodup fresh clean
  simp only [List.mem_append, not_or] at fresh
  have heads := head_insert clean holds.prev_next head
  obtain ⟨before, behind⟩ := segment_append.mp holds.links
  rw [if_pos rfl] at heads
  refine ⟨?_, ?_, ?_, ?_⟩
  · rw [heads, holds.first]
    cases xs <;> simp
  · rw [heads, holds.last]
    cases ys <;> simp [List.getLast?_cons]
  · simp only [heads, holds.size, List.length_append, List.length_cons]
    omega
  · rw [segment_append]
    refine ⟨?_, ?_, ?_⟩
    -- the links in front of the item, its own two, and those behind it
    · rcases List.eq_nil_or_concat xs with rfl | ⟨xs, p, rfl⟩
      · trivial
      · rw [List.concat_eq_append] at *
        rw [segment_snoc] at before ⊢
        refine ⟨before.1.congr fun y member => ?_, ?_⟩
        · have new : y ≠ x := fun same => fresh.1 (by simp [← same, member])
          -- only the last item in front of it gets a new link
          have inner : y ≠ p := fun same =>
            (List.nodup_append.mp (List.nodup_append.mp nodup).1).2.2 y member p (by simp) same
          have outer : ys.head? ≠ some y := fun first =>
            (List.nodup_append.mp nodup).2.2 y (by simp [member]) y
              (List.mem_of_mem_head? first) rfl
          rw [items]
          simp [new, Ne.symm inner, outer]
        · have new : p ≠ x := fun same => fresh.1 (by simp [← same])
          rw [items]
          simp [new, before.2]
    · simp [items]
    · cases ys with
      | nil => trivial
      | cons n ys =>
        have new : n ≠ x := fun same => fresh.2 (by simp [← same])
        have outer : xs.getLast? ≠ some n := fun last => neighbours_apart nodup n last rfl
        refine ⟨by simp [items, new, outer, behind.1], behind.2.congr fun y member => ?_⟩
        have newer : y ≠ x := fun same => fresh.2 (by simp [← same, member])
        have inner : n ≠ y := fun same =>
          (List.nodup_cons.mp (List.nodup_append.mp nodup).2.1).1 (same ▸ member)
        have other : xs.getLast? ≠ some y := fun last =>
          (List.nodup_append.mp nodup).2.2 y (List.mem_of_getLast? last) y (by simp [member]) rfl
        simp [items, newer, other, inner]

theorem Holds.item_detach {head : H} {xs ys : List X} {x : X} (holds : m.Holds head (xs ++ x :: ys))
    (nodup : (xs ++ x :: ys).Nodup) (y : X) :
    (m.List_detach head x).item y =
      if y = x then ⟨none, none⟩
      else if xs.getLast? = some y then ⟨(m.item y).prev, ys.head?⟩
      else if ys.head? = some y then ⟨xs.getLast?, (m.item y).next⟩
      else m.item y := by
  have split := List.nodup_append.mp nodup
  have at_x : m.item x = ⟨xs.getLast?, ys.head?⟩ := by simpa using holds.links.item_eq
  have notPrev : xs.getLast? ≠ some x := fun last =>
    split.2.2 x (List.mem_of_getLast? last) x (by simp) rfl
  have notNext : ys.head? ≠ some x := fun first =>
    (List.nodup_cons.mp split.2.1).1 (List.mem_of_mem_head? first)
  exact Links.item_detach at_x notPrev notNext (neighbours_apart
    (nodup.sublist (List.Sublist.append_left (List.sublist_cons_self x ys) xs))) y

theorem Holds.item_detach_of_notMem {head : H} {xs ys : List X} {x y : X}
    (holds : m.Holds head (xs ++ x :: ys)) (nodup : (xs ++ x :: ys).Nodup)
    (out : y ∉ xs ++ x :: ys) : (m.List_detach head x).item y = m.item y := by
  simp only [List.mem_append, List.mem_cons, not_or] at out
  have noLast : xs.getLast? ≠ some y := fun last => out.1 (List.mem_of_getLast? last)
  have noFirst : ys.head? ≠ some y := fun first => out.2.2 (List.mem_of_mem_head? first)
  rw [holds.item_detach nodup, if_neg out.2.1, if_neg noLast, if_neg noFirst]

theorem Holds.detach {head : H} {xs ys : List X} {x : X} (holds : m.Holds head (xs ++ x :: ys))
    (nodup : (xs ++ x :: ys).Nodup) : (m.List_detach head x).Holds head (xs ++ ys) := by
  have split := List.nodup_append.mp nodup
  have fresh := List.nodup_cons.mp split.2.1
  have at_x : m.item x = ⟨xs.getLast?, ys.head?⟩ := by simpa using holds.links.item_eq
  -- the neighbours of the item are linked to each other, and nobody else is touched
  have pure : (xs ++ ys).Nodup :=
    nodup.sublist (List.Sublist.append_left (List.sublist_cons_self x ys) xs)
  have items := holds.item_detach nodup
  have heads := @head_detach _ _ _ _ m head x head
  rw [if_pos rfl] at heads
  obtain ⟨before, -, behind⟩ := segment_append.mp holds.links
  refine ⟨?_, ?_, ?_, ?_⟩
  · rw [heads, holds.first, at_x]
    cases xs with
    | nil => simp
    | cons y xs =>
      have : y ≠ x := fun same => split.2.2 y (by simp) x (by simp) same
      simp [this]
  · rw [heads, holds.last, at_x]
    cases ys with
    | nil => simp
    | cons n ys =>
      have : (n :: ys).getLast? ≠ some x := fun last => fresh.1 (List.mem_of_getLast? last)
      rw [List.getLast?_append, List.getLast?_append, List.getLast?_cons_cons]
      cases last : (n :: ys).getLast? with
      | none => simp at last
      | some z =>
        have : z ≠ x := fun same => this (same ▸ last)
        simp [this]
  · simp only [heads, holds.size, List.length_append, List.length_cons]
    omega
  · rw [segment_append]
    constructor
    · rcases List.eq_nil_or_concat xs with rfl | ⟨xs, p, rfl⟩
      · trivial
      · rw [List.concat_eq_append] at *
        rw [segment_snoc] at before ⊢
        refine ⟨before.1.congr fun y member => ?_, ?_⟩
        · have new : y ≠ x := fun same => split.2.2 y (by simp [member]) x (by simp) same
          have inner : y ≠ p := fun same =>
            (List.nodup_append.mp split.1).2.2 y member p (by simp) same
          have outer : ys.head? ≠ some y := fun first =>
            split.2.2 y (by simp [member]) y (by simp [List.mem_of_mem_head? first]) rfl
          simp [items, new, Ne.symm inner, outer]
        · have new : p ≠ x := fun same => split.2.2 p (by simp) x (by simp) same
          simp [items, new, before.2]
    · cases ys with
      | nil => trivial
      | cons n ys =>
        have new : n ≠ x := fun same => fresh.1 (by simp [← same])
        have outer : xs.getLast? ≠ some n := fun last => neighbours_apart pure n last rfl
        refine ⟨by simp [items, new, outer, behind.1], behind.2.congr fun y member => ?_⟩
        have newer : y ≠ x := fun same => fresh.1 (by simp [← same, member])
        have inner : n ≠ y := fun same => (List.nodup_cons.mp fresh.2).1 (same ▸ member)
        have other : xs.getLast? ≠ some y := fun last =>
          split.2.2 y (List.mem_of_getLast? last) y (by simp [member]) rfl
        simp [items, newer, other, inner]

end Links

end DisastrOS
