import DisastrOS.ListOperations
import DisastrOS.Objects

/-! When `List_insert` refuses an item that is linked already, and what it does otherwise.

The guard looks at the neighbours of the item. An item that is alone in its list
has none, and looks like one that is in no list.
-/

set_option autoImplicit false
set_option linter.unusedSectionVars false

namespace DisastrOS

open Refinement
open Relation (ReflTransGen)

namespace Links
variable {H X : Type} [DecidableEq H] [DecidableEq X]

/-- The item comes up when the list of the head is followed from its first item. -/
def Reaches (m : Links H X) (h : H) (x : X) : Prop :=
  ∃ first, (m.head h).first = some first ∧ ReflTransGen (fun a b => (m.item a).next = some b) first x

/-- The item is the first and the last of a list. -/
def Alone (m : Links H X) (x : X) : Prop := ∃ h, (m.head h).first = some x ∧ (m.head h).last = some x

/-- No item is in two lists, and every scan of a list comes to an end. -/
structure Traversable (m : Links H X) : Prop where
  apart : ∀ h h' x, m.Reaches h x → m.Reaches h' x → h = h'
  ends : ∀ h (test : X → Bool), ∃ fuel found, m.scan test fuel (m.head h).first = some found

/-- Calls of `List_insert`, each after an item of the list or at its front. None is for an item
that is alone in a list. -/
inductive Insertions (m : Links H X) : Links H X → Prop where
  | start : Insertions m m
  | insert {m' : Links H X} {h : H} {prev : Option X} {x : X} : Insertions m m' →
      (∀ p, prev = some p → m'.Reaches h p) → ¬ m'.Alone x → Insertions m (m'.List_insert h prev x).2

section
variable {m m' : Links H X} {seq : H → List X} {h h' : H} {prev : Option X} {x : X}

theorem Segment.reaches {item : X → ListItem X} {prev next : Option X} {xs : List X} {y : X}
    (segment : Segment item prev (y :: xs) next) (member : x ∈ y :: xs) :
    ReflTransGen (fun a b => (item a).next = some b) y x := by
  induction xs generalizing prev y with
  | nil =>
    rw [List.mem_singleton.mp member]
  | cons z xs ih =>
    obtain ⟨here, rest⟩ := segment
    rcases List.mem_cons.mp member with rfl | later
    · exact .refl
    · refine .head ?_ (ih rest later)
      rw [here]
      rfl

theorem Contains.reaches_iff (contains : m.Contains seq) : m.Reaches h x ↔ x ∈ seq h := by
  have holds := contains.holds h
  constructor
  · rintro ⟨y, first, steps⟩
    induction steps with
    | refl => exact List.mem_of_mem_head? (holds.first.symm.trans first)
    | tail _ next there =>
      obtain ⟨xs, ys, split⟩ := List.append_of_mem there
      have links := holds.links
      rw [split] at links
      simp only [links.item_eq, Option.or_none] at next
      rw [split]
      exact List.mem_append_right _ (List.mem_cons_of_mem _ (List.mem_of_mem_head? next))
  · intro member
    cases elements : seq h with
    | nil =>
      rw [elements] at member
      cases member
    | cons y xs =>
      rw [elements] at holds member
      exact ⟨y, holds.first, holds.links.reaches member⟩

theorem Contains.alone_iff (contains : m.Contains seq) : m.Alone x ↔ ∃ h, seq h = [x] := by
  apply exists_congr
  intro h
  rw [(contains.holds h).first, (contains.holds h).last]
  constructor
  · rintro ⟨first, last⟩
    obtain ⟨xs, split⟩ := List.head?_eq_some_iff.mp first
    have nodup := contains.nodup h
    rw [split] at last nodup ⊢
    cases xs with
    | nil => rfl
    | cons y ys =>
      rw [List.getLast?_cons_cons] at last
      exact absurd (List.mem_of_getLast? last) (List.nodup_cons.mp nodup).1
  · intro alone
    rw [alone]
    exact ⟨rfl, rfl⟩

theorem Segment.scan {test : X → Bool} {prev : Option X} {xs : List X} (segment : Segment m.item prev xs none) :
    m.scan test (xs.length + 1) xs.head? = some (xs.find? test) := by
  induction xs generalizing prev with
  | nil => rfl
  | cons x xs ih =>
    obtain ⟨here, rest⟩ := segment
    have onward := ih rest
    rw [List.head?_cons, List.length_cons, Links.scan, here, Option.or_none, onward, List.find?_cons]
    cases test x <;> rfl

theorem Contains.traversable (contains : m.Contains seq) : m.Traversable := by
  constructor
  · intro h h' x here there
    exact contains.disjoint (contains.reaches_iff.mp here) (contains.reaches_iff.mp there)
  · intro h test
    refine ⟨(seq h).length + 1, (seq h).find? test, ?_⟩
    rw [(contains.holds h).first]
    exact (contains.holds h).links.scan

/-- The guard misses an item exactly when it is alone in its list. -/
theorem Contains.refuses_iff (contains : m.Contains seq) (member : x ∈ seq h') :
    m.List_insert h prev x = (none, m) ↔ 2 ≤ (seq h').length := by
  obtain ⟨xs, ys, split⟩ := List.append_of_mem member
  have links := (contains.holds h').links
  rw [split] at links
  have at_x : m.item x = ⟨xs.getLast?, ys.head?⟩ := by simpa using links.item_eq
  rw [split, List.length_append, List.length_cons]
  by_cases alone : xs = [] ∧ ys = []
  · obtain ⟨rfl, rfl⟩ := alone
    refine iff_of_false (fun refused => ?_) (by simp)
    have returned := congrArg Prod.fst refused
    simp [List_insert, at_x] at returned
  · have neighbour : (m.item x).next.isSome || (m.item x).prev.isSome := by
      rw [at_x]
      cases xs <;> cases ys <;> simp_all
    have longer : 0 < xs.length + ys.length := by
      cases xs <;> cases ys <;> simp_all
    refine iff_of_true ?_ (by omega)
    unfold List_insert
    exact if_pos neighbour

theorem Contains.insert (contains : m.Contains seq) (member : ∀ p, prev = some p → p ∈ seq h) (other : ¬ m.Alone x) :
    ∃ seq', (m.List_insert h prev x).2.Contains seq' := by
  by_cases linked : ∃ h', x ∈ seq h'
  · obtain ⟨h', there⟩ := linked
    have more : 2 ≤ (seq h').length := by
      by_contra few
      have one : (seq h').length = 1 := by
        have some_item := List.length_pos_of_mem there
        omega
      obtain ⟨y, only⟩ := List.length_eq_one_iff.mp one
      rw [only, List.mem_singleton] at there
      exact other (contains.alone_iff.mpr ⟨h', there ▸ only⟩)
    rw [(contains.refuses_iff there).mpr more]
    exact ⟨seq, contains⟩
  · by_cases clean : m.item x = ⟨none, none⟩
    · exact ⟨_, (contains.inserts member clean fun h' there => linked ⟨h', there⟩).contains⟩
    · have neighbour : (m.item x).next.isSome || (m.item x).prev.isSome := by
        by_contra none_left
        refine clean ?_
        cases at_x : m.item x with
        | mk before after => cases before <;> cases after <;> simp_all
      unfold List_insert
      rw [if_pos neighbour]
      exact ⟨seq, contains⟩

theorem Insertions.contains (insertions : m.Insertions m') (contains : m.Contains seq) : ∃ seq', m'.Contains seq' := by
  induction insertions with
  | start => exact ⟨seq, contains⟩
  | insert _ member other ih =>
    obtain ⟨seq', contains'⟩ := ih
    exact contains'.insert (fun p same => contains'.reaches_iff.mp (member p same)) other

theorem scan_cycle {test : X → Bool} (missed : test x = false) (cycle : (m.item x).next = some x) (fuel : Nat) :
    m.scan test fuel (some x) = none := by
  induction fuel with
  | zero => rfl
  | succ fuel ih =>
    unfold scan
    rw [missed, cycle]
    exact ih

theorem insert_cycle (first : (m.head h).first = some x) (clean : m.item x = ⟨none, none⟩)
    (member : ∀ p, prev = some p → p = x) : ((m.List_insert h prev x).2.item x).next = some x ∧
      ((m.List_insert h prev x).2.head h).first = some x := by
  cases prev with
  | none => simp [List_insert, clean, first]
  | some p =>
    obtain rfl := member p rfl
    simp [List_insert, clean, first]

theorem Contains.insert_alone (contains : m.Contains seq) (member : ∀ p, prev = some p → p ∈ seq h) (alone : m.Alone x) :
    ¬ (m.List_insert h prev x).2.Traversable := by
  rintro ⟨apart, ends⟩
  obtain ⟨h', only⟩ := contains.alone_iff.mp alone
  have there : x ∈ seq h' := by simp [only]
  have clean : m.item x = ⟨none, none⟩ := by
    have links := (contains.holds h').links
    rw [only] at links
    exact links.1
  have first : (m.head h').first = some x := by rw [(contains.holds h').first, only, List.head?_cons]
  by_cases same : h = h'
  · subst same
    have own (p : X) (is : prev = some p) : p = x := by simpa [only] using member p is
    obtain ⟨cycle, first'⟩ := insert_cycle first clean own
    obtain ⟨fuel, found, ending⟩ := ends h fun _ => false
    rw [first', scan_cycle rfl cycle] at ending
    cases ending
  · -- the item is added to the list of `h`, and the list of `h'` still begins with it
    have fresh : x ∉ seq h := fun here => same (contains.disjoint here there)
    obtain ⟨xs, ys, split, rfl, -⟩ := insertItem_split (x := x) (contains.nodup h) member
    have holds := contains.holds h
    have nodup := contains.nodup h
    rw [split] at holds nodup fresh
    have added := holds.insert nodup fresh clean
    have begins : ((m.List_insert h xs.getLast? x).2.head h').first = some x := by
      rw [head_insert clean holds.prev_next, if_neg (Ne.symm same), first]
    have here : (m.List_insert h xs.getLast? x).2.Reaches h x := by
      obtain ⟨z, zs, whole⟩ := List.exists_cons_of_ne_nil (List.append_ne_nil_of_right_ne_nil xs (List.cons_ne_nil x ys))
      rw [whole] at added
      exact ⟨z, added.first, added.links.reaches (by simp [← whole])⟩
    exact same (apart h h' x here ⟨x, begins, .refl⟩)

/-- An item that is linked is refused exactly when its list has another item. Calls for an item
alone in its list apart, no run of calls puts an item in two lists or a cycle in one; every call for
such an item does. -/
theorem double_insertion_refused (contains : m.Contains seq) :
    (∀ h h' prev x, x ∈ seq h' → (m.List_insert h prev x = (none, m) ↔ 2 ≤ (seq h').length)) ∧
    (∀ m', m.Insertions m' → m'.Traversable) ∧
    ∀ h prev x, (∀ p, prev = some p → p ∈ seq h) → m.Alone x → ¬ (m.List_insert h prev x).2.Traversable := by
  refine ⟨fun h h' prev x there => contains.refuses_iff there, fun m' insertions => ?_,
    fun h prev x member alone => contains.insert_alone member alone⟩
  obtain ⟨seq', contains'⟩ := insertions.contains contains
  exact contains'.traversable

theorem double_insertion_refused_two : two_lists.List_insert false none 0 = (none, two_lists) ∧
    (two_lists.List_insert true (some 1) 2).2.Traversable := by
  obtain ⟨refuses, runs, -⟩ := double_insertion_refused two_lists_contain
  refine ⟨(refuses false true none 0 (by simp)).mpr (by simp), runs _ (.insert .start ?_ ?_)⟩
  · intro p same
    cases same
    exact two_lists_contain.reaches_iff.mpr (by simp)
  · rintro ⟨h, first, -⟩
    cases h <;> cases first

def one_item : Links Unit (Fin 2) where
  item _ := ⟨none, none⟩
  head _ := ⟨some 0, some 0, 1⟩

/-- The item is inserted again after itself, and a search for another item does not end. -/
theorem only_item_inserted_again :
    (¬ ∀ (m : Links Unit (Fin 2)) (seq : Unit → List (Fin 2)), m.Contains seq → ∀ h h' prev x,
      (∀ p, prev = some p → p ∈ seq h) → x ∈ seq h' → m.List_insert h prev x = (none, m)) ∧
    ∀ fuel, (one_item.List_insert () (some 0) 0).2.List_find fuel () 1 = none := by
  have contains : one_item.Contains fun _ => [0] :=
    ⟨fun _ => ⟨rfl, rfl, rfl, rfl, trivial⟩, fun _ => by simp, fun _ _ => rfl⟩
  constructor
  · intro every
    have refused := congrArg Prod.fst (every one_item _ contains () () (some 0) 0 (by simp) (by simp))
    cases refused
  · intro fuel
    have begins : ((one_item.List_insert () (some 0) 0).2.head ()).first = some 0 := by decide
    have cycle : ((one_item.List_insert () (some 0) 0).2.item 0).next = some 0 := by decide
    unfold List_find
    rw [begins]
    exact scan_cycle rfl cycle fuel

end

end Links

def search_round (test : Store → Addr → Bool) : Pointer → Code (Pointer ⊕ Pointer)
  | none => return .inr none
  | some item => do
    if test (← get id) item then return .inr (some item)
    else return .inl (← next item)

theorem List_search_eq (head : Head) (test : Store → Addr → Bool) :
    List_search head test = (do
      let aux ← first head
      .iterate (search_round test) aux) := by
  unfold List_search
  congr

theorem search_round_run (test : Store → Addr → Bool) (fuel : Nat) (m : Kernel) (item : Addr) :
    (search_round test (some item)).run heap fuel m =
      if test m.store item then .done (.inr (some item)) m else .done (.inl (m.data.links.item item).next) m := by
  unfold search_round
  rw [Program.run_bind]
  change (if test m.store item then _ else _ : Code (Pointer ⊕ Pointer)).run heap fuel m = _
  split <;> rfl

/-- A search of the kernel, by id or otherwise, is the scan of the links of its list. -/
theorem List_search_run (head : Head) (test : Store → Addr → Bool) (fuel : Nat) (m : Kernel) :
    (List_search head test).run heap fuel m =
      match Links.scan m.data.links (test m.store) fuel (m.data.links.head head).first with
      | some found => .done found m
      | none => .exhausted := by
  have loop (n : Nat) (aux : Pointer) :
      rounds (fun aux state => (search_round test aux).run heap fuel state) n aux m =
        match Links.scan m.data.links (test m.store) n aux with
        | some found => .done found m
        | none => .exhausted := by
    induction n generalizing aux with
    | zero => rfl
    | succ n ih =>
      cases aux with
      | none => rfl
      | some item =>
        unfold Links.scan rounds
        rw [search_round_run]
        cases test m.store item with
        | true => rfl
        | false => exact ih _
  rw [List_search_eq, Program.run_bind]
  change (rounds (fun aux state => (search_round test aux).run heap fuel state) fuel
    (m.data.links.head head).first m).bind _ = _
  rw [loop]
  cases Links.scan m.data.links (test m.store) fuel (m.data.links.head head).first <;> rfl

theorem Kernel.searches_end (m : Kernel) (traversable : m.data.links.Traversable) (head : Head)
    (test : Store → Addr → Bool) : ∃ fuel found, (List_search head test).run heap fuel m = .done found m := by
  obtain ⟨fuel, found, ends⟩ := traversable.2 head (test m.store)
  refine ⟨fuel, found, ?_⟩
  rw [List_search_run, ends]

end DisastrOS
