import DisastrOS.LinkedList

/-! `List_insert` and `List_detach` on a heap of many lists, as operations on sequences. -/

set_option autoImplicit false
set_option linter.unusedSectionVars false

namespace DisastrOS

open Refinement

namespace Links
variable {H X : Type} [DecidableEq H] [DecidableEq X]

/-- Every head has a well-formed list, and no item is in two of them. -/
structure Contains (m : Links H X) (seq : H → List X) : Prop where
  holds : ∀ h, m.Holds h (seq h)
  nodup : ∀ h, (seq h).Nodup
  disjoint : ∀ {h h' x}, x ∈ seq h → x ∈ seq h' → h = h'

structure Inserts (m : Links H X) (seq : H → List X) (h : H) (prev : Option X) (x : X) : Prop where
  returns : (m.List_insert h prev x).1 = some x
  contains : (m.List_insert h prev x).2.Contains
    (Function.update seq h (insertItem prev x (seq h)))
  size : ((m.List_insert h prev x).2.head h).size = (m.head h).size + 1
  heads : ∀ h', h' ≠ h → (m.List_insert h prev x).2.head h' = m.head h'
  items : ∀ y, y ≠ x → y ∉ seq h → (m.List_insert h prev x).2.item y = m.item y
  restores : (m.List_insert h prev x).2.List_detach h x = m

structure Detaches (m : Links H X) (seq : H → List X) (h : H) (x : X) : Prop where
  contains : (m.List_detach h x).Contains (Function.update seq h ((seq h).erase x))
  size : ((m.List_detach h x).head h).size = (m.head h).size - 1
  clean : (m.List_detach h x).item x = ⟨none, none⟩
  heads : ∀ h', h' ≠ h → (m.List_detach h x).head h' = m.head h'
  items : ∀ y, y ∉ seq h → (m.List_detach h x).item y = m.item y

section
variable {m m' : Links H X} {seq : H → List X} {h : H} {x : X}

theorem insertItem_split {prev : Option X} {xs : List X} (nodup : xs.Nodup)
    (member : ∀ p, prev = some p → p ∈ xs) :
    ∃ ys zs, xs = ys ++ zs ∧ ys.getLast? = prev ∧ insertItem prev x xs = ys ++ x :: zs := by
  cases prev with
  | none => exact ⟨[], xs, rfl, rfl, rfl⟩
  | some p =>
    obtain ⟨ys, zs, rfl⟩ := List.append_of_mem (member p rfl)
    have fresh : p ∉ ys := fun before => (List.nodup_append.mp nodup).2.2 p before p (by simp) rfl
    exact ⟨ys ++ [p], zs, by simp, by simp, by simp [insertItem, insertAfter_append fresh]⟩

theorem Contains.update (contains : m.Contains seq) {xs : List X} (holds : m'.Holds h xs)
    (nodup : xs.Nodup) (members : ∀ y ∈ xs, y ∈ seq h ∨ ∀ h', y ∉ seq h')
    (heads : ∀ h', h' ≠ h → m'.head h' = m.head h')
    (items : ∀ h', h' ≠ h → ∀ y ∈ seq h', m'.item y = m.item y) :
    m'.Contains (Function.update seq h xs) := by
  -- what is new in the list was in no other one
  have apart {h' : H} {y : X} (other : h' ≠ h) (there : y ∈ seq h') : y ∉ xs := fun here => by
    rcases members y here with before | nowhere
    · exact other (contains.disjoint there before)
    · exact nowhere h' there
  constructor
  · intro h'
    by_cases same : h' = h
    · subst same
      simpa using holds
    · rw [Function.update_of_ne same]
      exact (contains.holds h').congr (heads h' same) (items h' same)
  · intro h'
    by_cases same : h' = h
    · subst same
      simpa using nodup
    · rw [Function.update_of_ne same]
      exact contains.nodup h'
  · intro h₁ h₂ y first second
    by_cases one : h₁ = h
    · by_cases two : h₂ = h
      · rw [one, two]
      · subst one
        simp only [Function.update_self, Function.update_of_ne two] at first second
        exact absurd first (apart two second)
    · by_cases two : h₂ = h
      · subst two
        simp only [Function.update_self, Function.update_of_ne one] at first second
        exact absurd second (apart one first)
      · simp only [Function.update_of_ne one, Function.update_of_ne two] at first second
        exact contains.disjoint first second

theorem Contains.detaches (contains : m.Contains seq) (member : x ∈ seq h) : m.Detaches seq h x := by
  obtain ⟨xs, ys, split⟩ := List.append_of_mem member
  have holds := contains.holds h
  have nodup := contains.nodup h
  rw [split] at holds nodup
  have before : x ∉ xs := fun there => (List.nodup_append.mp nodup).2.2 x there x (by simp) rfl
  have erased : (seq h).erase x = xs ++ ys := by
    rw [split, List.erase_append_right _ before, List.erase_cons_head]
  have others {y : X} (out : y ∉ seq h) : (m.List_detach h x).item y = m.item y :=
    holds.item_detach_of_notMem nodup (split ▸ out)
  have heads {h' : H} (other : h' ≠ h) : (m.List_detach h x).head h' = m.head h' := by
    rw [head_detach, if_neg other]
  refine ⟨contains.update ?_ ?_ (fun y here => .inl (List.mem_of_mem_erase here)) (fun _ => heads)
    fun h' other y there => others fun here => other (contains.disjoint there here), ?_, ?_,
    fun _ => heads, fun _ => others⟩
  · rw [erased]
    exact holds.detach nodup
  · exact (contains.nodup h).erase x
  · rw [head_detach, if_pos rfl]
  · rw [holds.item_detach nodup, if_pos rfl]

theorem eq_of {m m' : Links H X} (items : ∀ x, m'.item x = m.item x) (heads : ∀ h, m'.head h = m.head h) :
    m' = m := by
  cases m
  cases m'
  rw [Links.mk.injEq]
  exact ⟨funext items, funext heads⟩

theorem Holds.neighbours {xs ys : List X} (holds : m.Holds h (xs ++ ys)) :
    (∀ p, xs.getLast? = some p → (m.item p).next = ys.head?) ∧
      ∀ n, ys.head? = some n → (m.item n).prev = xs.getLast? := by
  refine ⟨fun p last => ?_, fun n first => ?_⟩
  · simpa [last] using holds.prev_next
  · cases ys with
    | nil => cases first
    | cons y ys =>
      obtain rfl : y = n := by simpa using first
      simp [holds.links.item_eq]

theorem Holds.restores {xs ys : List X} (holds : m.Holds h (xs ++ ys)) (nodup : (xs ++ ys).Nodup)
    (fresh : x ∉ xs ++ ys) (clean : m.item x = ⟨none, none⟩) :
    (m.List_insert h xs.getLast? x).2.List_detach h x = m := by
  have inserted := holds.insert nodup fresh clean
  have items := holds.item_insert nodup fresh clean
  have heads (h' : H) := head_insert clean holds.prev_next h'
  have more : (xs ++ x :: ys).Nodup := List.nodup_middle.mpr (List.nodup_cons.mpr ⟨fresh, nodup⟩)
  obtain ⟨before, behind⟩ := holds.neighbours
  refine eq_of (fun y => ?_) fun h' => ?_
  · rw [inserted.item_detach more]
    by_cases same : y = x
    · rw [if_pos same, same, clean]
    rw [if_neg same, items, if_neg same]
    by_cases last : xs.getLast? = some y
    · rw [if_pos last, if_pos last, ← before y last]
    rw [if_neg last, if_neg last]
    by_cases first : ys.head? = some y
    · rw [if_pos first, if_pos first, ← behind y first]
    · rw [if_neg first, if_neg first]
  · rw [head_detach, heads]
    by_cases same : h' = h
    · subst same
      have link : (m.List_insert h' xs.getLast? x).2.item x = ⟨xs.getLast?, ys.head?⟩ := by
        rw [items, if_pos rfl]
      have first := holds.first
      have last := holds.last
      have noFirst : (m.head h').first ≠ some x := fun there =>
        fresh (List.mem_of_mem_head? (first.symm.trans there))
      have noLast : (m.head h').last ≠ some x := fun there =>
        fresh (List.mem_of_getLast? (last.symm.trans there))
      rw [if_pos rfl, if_pos rfl, link]
      -- the item is the first of its list only where nothing stood before it
      have front : (if (if xs.getLast? = none then some x else (m.head h').first) = some x then ys.head?
          else if xs.getLast? = none then some x else (m.head h').first) = (m.head h').first := by
        by_cases empty : xs = []
        · simp [empty, first]
        · simp [empty, noFirst]
      have back : (if (if ys.head? = none then some x else (m.head h').last) = some x then xs.getLast?
          else if ys.head? = none then some x else (m.head h').last) = (m.head h').last := by
        by_cases empty : ys = []
        · simp [empty, last]
        · simp [empty, noLast]
      simp only [front, back, Int.add_sub_cancel]
    · rw [if_neg same, if_neg same]

theorem Contains.inserts (contains : m.Contains seq) {prev : Option X}
    (member : ∀ p, prev = some p → p ∈ seq h) (clean : m.item x = ⟨none, none⟩)
    (nowhere : ∀ h', x ∉ seq h') : m.Inserts seq h prev x := by
  obtain ⟨xs, ys, split, rfl, inserted⟩ := insertItem_split (x := x) (contains.nodup h) member
  have holds := contains.holds h
  have nodup := contains.nodup h
  have fresh := nowhere h
  rw [split] at holds nodup fresh
  have others {y : X} (new : y ≠ x) (out : y ∉ seq h) :
      (m.List_insert h xs.getLast? x).2.item y = m.item y :=
    holds.item_insert_of_notMem nodup fresh clean new (split ▸ out)
  have heads {h' : H} (other : h' ≠ h) : (m.List_insert h xs.getLast? x).2.head h' = m.head h' := by
    rw [head_insert clean holds.prev_next, if_neg other]
  refine ⟨by simp [List_insert, clean], contains.update ?_ ?_ (fun y here => ?_) (fun _ => heads)
    fun h' other y there => others ?_ fun here => other (contains.disjoint there here), ?_,
    fun _ => heads, fun _ => others, holds.restores nodup fresh clean⟩
  · rw [inserted]
    exact holds.insert nodup fresh clean
  · rw [inserted]
    exact List.nodup_middle.mpr (List.nodup_cons.mpr ⟨fresh, nodup⟩)
  · rw [inserted, List.mem_append, List.mem_cons] at here
    rw [split, List.mem_append]
    rcases here with there | rfl | there
    · exact .inl (.inl there)
    · exact .inr nowhere
    · exact .inl (.inr there)
  · rintro rfl
    exact nowhere h' there
  · rw [head_insert clean holds.prev_next, if_pos rfl]

/-- The two operations do on a heap of lists what they should do on sequences. -/
theorem lists_refine_sequences (contains : m.Contains seq) (h : H) :
    (∀ prev x, (∀ p, prev = some p → p ∈ seq h) → m.item x = ⟨none, none⟩ → (∀ h', x ∉ seq h') →
      m.Inserts seq h prev x) ∧
    ∀ x ∈ seq h, m.Detaches seq h x :=
  ⟨fun _ _ member clean nowhere => contains.inserts member clean nowhere, fun _ => contains.detaches⟩

/-- Two lists, of two items and of none, and an item that is in neither. -/
def two_lists : Links Bool (Fin 3) where
  item x := if x = 0 then ⟨none, some 1⟩ else if x = 1 then ⟨some 0, none⟩ else ⟨none, none⟩
  head h := if h then ⟨some 0, some 1, 2⟩ else ⟨none, none, 0⟩

theorem two_lists_contain : two_lists.Contains fun h => if h then [0, 1] else [] := by
  refine ⟨fun h => ?_, fun h => ?_, fun {h h' x} there there' => ?_⟩
  · cases h <;> refine ⟨by rfl, by rfl, by rfl, ?_⟩
    · trivial
    · exact ⟨rfl, rfl, trivial⟩
  · cases h <;> decide
  · cases h <;> cases h' <;> simp_all

theorem lists_refine_sequences_two :
    two_lists.Inserts (fun h => if h then [0, 1] else []) true (some 0) 2 ∧
      two_lists.Detaches (fun h => if h then [0, 1] else []) true 1 := by
  have both := lists_refine_sequences two_lists_contain true
  exact ⟨both.1 (some 0) 2 (by simp) (by rfl) (by simp), both.2 1 (by simp)⟩

end

end Links

end DisastrOS
