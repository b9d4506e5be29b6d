import Mathlib.Data.Finset.Card
import Mathlib.Data.List.Nodup
import Mathlib.Data.List.TakeWhile
import Mathlib.Logic.Function.Basic

/-! Blocks that are pooled and linked.

An arena is the abstract view of a heap of fixed blocks. Each pool keeps a
stack of free blocks; each head names a sequence of blocks of its kind; a block
is in at most one sequence. `Shape` is the data and its operations, `Sound` are
these facts, and an `Arena` is a sound shape: an operation on it is given the
facts that keep it sound.
-/

set_option autoImplicit false
set_option linter.unusedSectionVars false

namespace DisastrOS.Refinement

/-- Where a block stands: in no list, in the list of `head`, or left behind in
a list whose head was overwritten. -/
inductive Place (H : Type) where
  | unlinked
  | linked (head : H)
  | lost
  deriving DecidableEq

structure Layout (H P X : Type) where
  kind : H → P
  poolOf : X → P
  blocks : Finset X

section Sequences
variable {X : Type} [DecidableEq X]

/-- The element that follows `x`. -/
def after (x : X) : List X → Option X
  | [] => none
  | y :: ys => if y = x then ys.head? else after x ys

def insertAfter (prev x : X) : List X → List X
  | [] => []
  | y :: ys => if y = prev then y :: x :: ys else y :: insertAfter prev x ys

def insertItem (prev : Option X) (x : X) (xs : List X) : List X :=
  match prev with
  | none => x :: xs
  | some prev => insertAfter prev x xs

theorem after_append {x : X} {xs ys : List X} (fresh : x ∉ xs) :
    after x (xs ++ x :: ys) = ys.head? := by
  induction xs with
  | nil => simp [after]
  | cons y xs ih =>
    simp only [List.mem_cons, not_or] at fresh
    simp [after, Ne.symm fresh.1, ih fresh.2]

theorem insertAfter_append {prev x : X} {xs ys : List X} (fresh : prev ∉ xs) :
    insertAfter prev x (xs ++ prev :: ys) = xs ++ prev :: x :: ys := by
  induction xs with
  | nil => simp [insertAfter]
  | cons y xs ih =>
    simp only [List.mem_cons, not_or] at fresh
    simp [insertAfter, Ne.symm fresh.1, ih fresh.2]

theorem mem_insertAfter {prev x y : X} {xs : List X} (member : prev ∈ xs) :
    y ∈ insertAfter prev x xs ↔ y = x ∨ y ∈ xs := by
  induction xs with
  | nil => cases member
  | cons z xs ih =>
    by_cases same : z = prev
    · simp [insertAfter, same]; tauto
    · have later : prev ∈ xs := by simpa [Ne.symm same] using member
      simp [insertAfter, same, ih later]; tauto

theorem nodup_insertAfter {prev x : X} {xs : List X} (member : prev ∈ xs) (nodup : xs.Nodup)
    (fresh : x ∉ xs) : (insertAfter prev x xs).Nodup := by
  induction xs with
  | nil => cases member
  | cons z xs ih =>
    simp only [List.nodup_cons, List.mem_cons, not_or] at nodup fresh
    by_cases same : z = prev
    · simp [insertAfter, same] at *
      exact ⟨⟨fun h => fresh.1 h.symm, nodup.1⟩, fresh.2, nodup.2⟩
    · have later : prev ∈ xs := by simpa [Ne.symm same] using member
      simp only [insertAfter, same, if_false, List.nodup_cons, mem_insertAfter later, not_or]
      exact ⟨⟨fun h => fresh.1 h.symm, nodup.1⟩, ih later nodup.2 fresh.2⟩

theorem insertItem_prefix {x : X} {xs ys : List X} (nodup : xs.Nodup) :
    insertItem xs.getLast? x (xs ++ ys) = xs ++ x :: ys := by
  rcases List.eq_nil_or_concat xs with rfl | ⟨init, y, rfl⟩
  · rfl
  · rw [List.concat_eq_append] at nodup ⊢
    have fresh : y ∉ init := fun member =>
      (List.nodup_append.mp nodup).2.2 y member y (List.mem_singleton_self y) rfl
    simp [insertItem, insertAfter_append fresh]

theorem insertItem_last {x : X} {xs : List X} (nodup : xs.Nodup) :
    insertItem xs.getLast? x xs = xs ++ [x] := by
  have whole : insertItem xs.getLast? x (xs ++ []) = xs ++ [x] := insertItem_prefix nodup
  rwa [List.append_nil] at whole

theorem insertItem_takeWhile {x : X} {xs : List X} (p : X → Bool) (nodup : xs.Nodup) :
    insertItem (xs.takeWhile p).getLast? x xs = xs.takeWhile p ++ x :: xs.dropWhile p := by
  have split : xs.takeWhile p ++ xs.dropWhile p = xs := List.takeWhile_append_dropWhile
  have nodup' : (xs.takeWhile p).Nodup := nodup.sublist (List.takeWhile_sublist p)
  calc insertItem (xs.takeWhile p).getLast? x xs
      = insertItem (xs.takeWhile p).getLast? x (xs.takeWhile p ++ xs.dropWhile p) := by rw [split]
    _ = xs.takeWhile p ++ x :: xs.dropWhile p := insertItem_prefix nodup'

theorem lt_of_mem_dropWhile {f : X → Int} {bound : Int} {xs : List X}
    (sorted : xs.Pairwise fun x y => f x ≤ f y) {y : X}
    (member : y ∈ xs.dropWhile fun x => f x ≤ bound) : bound < f y := by
  induction xs with
  | nil => simp at member
  | cons x xs ih =>
    rw [List.pairwise_cons] at sorted
    by_cases below : f x ≤ bound
    · exact ih sorted.2 (by simpa [List.dropWhile_cons, below] using member)
    · simp only [List.dropWhile_cons, below, decide_false, Bool.false_eq_true, if_false,
        List.mem_cons] at member
      rcases member with rfl | member
      · omega
      · have := sorted.1 y member
        omega

theorem sorted_insertItem {f g : X → Int} {bound : Int} {x : X} {xs : List X} (nodup : xs.Nodup)
    (sorted : xs.Pairwise fun y z => f y ≤ f z) (same : ∀ y ∈ xs, g y = f y) (at_x : g x = bound) :
    (insertItem (xs.takeWhile fun y => f y ≤ bound).getLast? x xs).Pairwise fun y z => g y ≤ g z := by
  have kept {ys : List X} (part : ys.Sublist xs) : ys.Pairwise fun y z => g y ≤ g z := by
    apply (sorted.sublist part).imp_of_mem
    intro y z here there
    rw [same y (part.subset here), same z (part.subset there)]
    exact id
  have early {y : X} (member : y ∈ xs.takeWhile fun y => f y ≤ bound) : g y ≤ g x := by
    rw [same y ((List.takeWhile_sublist _).subset member), at_x]
    simpa using List.mem_takeWhile_imp member
  have late {y : X} (member : y ∈ xs.dropWhile fun y => f y ≤ bound) : g x ≤ g y := by
    rw [same y ((List.dropWhile_sublist _).subset member), at_x]
    exact (lt_of_mem_dropWhile sorted member).le
  rw [insertItem_takeWhile _ nodup, List.pairwise_append, List.pairwise_cons]
  refine ⟨kept (List.takeWhile_sublist _), ⟨fun y member => late member, kept (List.dropWhile_sublist _)⟩, ?_⟩
  intro y here z there
  rcases List.mem_cons.mp there with rfl | member
  · exact early here
  · exact (early here).trans (late member)

end Sequences

/-- The sequences, where each block stands, and the stacks of free blocks. -/
@[ext] structure Shape (H P X : Type) where
  seq : H → List X
  place : X → Place H
  free : P → List X

namespace Shape
variable {H P X : Type} [DecidableEq H] [DecidableEq P] [DecidableEq X]

def insert (s : Shape H P X) (h : H) (prev : Option X) (x : X) : Shape H P X where
  seq := Function.update s.seq h (insertItem prev x (s.seq h))
  place := Function.update s.place x (.linked h)
  free := s.free

def append (s : Shape H P X) (h : H) (x : X) : Shape H P X where
  seq := Function.update s.seq h (s.seq h ++ [x])
  place := Function.update s.place x (.linked h)
  free := s.free

def detach (s : Shape H P X) (h : H) (x : X) : Shape H P X where
  seq := Function.update s.seq h ((s.seq h).erase x)
  place := Function.update s.place x .unlinked
  free := s.free

def reset (s : Shape H P X) (h : H) : Shape H P X where
  seq := Function.update s.seq h []
  place x := if s.place x = .linked h then .lost else s.place x
  free := s.free

def alloc (s : Shape H P X) (p : P) : Shape H P X where
  seq := s.seq
  place := s.place
  free := Function.update s.free p (s.free p).tail

def release (s : Shape H P X) (p : P) (x : X) : Shape H P X where
  seq := s.seq
  place := s.place
  free := Function.update s.free p (x :: s.free p)

/-! ### What each operation leaves -/

section Effects
variable {s : Shape H P X} {h : H} {prev : Option X} {x y : X} {p : P}

@[simp] theorem seq_insert :
    (s.insert h prev x).seq = Function.update s.seq h (insertItem prev x (s.seq h)) := rfl
@[simp] theorem place_insert :
    (s.insert h prev x).place = Function.update s.place x (.linked h) := rfl
@[simp] theorem free_insert : (s.insert h prev x).free = s.free := rfl

@[simp] theorem seq_append :
    (s.append h x).seq = Function.update s.seq h (s.seq h ++ [x]) := rfl
@[simp] theorem place_append :
    (s.append h x).place = Function.update s.place x (.linked h) := rfl
@[simp] theorem free_append : (s.append h x).free = s.free := rfl

@[simp] theorem seq_detach :
    (s.detach h x).seq = Function.update s.seq h ((s.seq h).erase x) := rfl
@[simp] theorem place_detach : (s.detach h x).place = Function.update s.place x .unlinked := rfl
@[simp] theorem free_detach : (s.detach h x).free = s.free := rfl

@[simp] theorem seq_reset : (s.reset h).seq = Function.update s.seq h [] := rfl
theorem place_reset :
    (s.reset h).place y = if s.place y = .linked h then .lost else s.place y := rfl
@[simp] theorem free_reset : (s.reset h).free = s.free := rfl
@[simp] theorem place_reset_unlinked :
    (s.reset h).place y = .unlinked ↔ s.place y = .unlinked := by
  rw [place_reset]
  split <;> simp [*]
@[simp] theorem place_reset_linked {h' : H} :
    (s.reset h).place y = .linked h' ↔ h' ≠ h ∧ s.place y = .linked h' := by
  by_cases here : s.place y = .linked h
  · simp only [place_reset, here, if_true, reduceCtorEq, Place.linked.injEq, false_iff, not_and]
    exact fun other same => other same.symm
  · rw [place_reset, if_neg here]
    exact ⟨fun there => ⟨fun same => here (same ▸ there), there⟩, And.right⟩

@[simp] theorem seq_alloc : (s.alloc p).seq = s.seq := rfl
@[simp] theorem place_alloc : (s.alloc p).place = s.place := rfl
@[simp] theorem free_alloc :
    (s.alloc p).free = Function.update s.free p (s.free p).tail := rfl

@[simp] theorem seq_release : (s.release p x).seq = s.seq := rfl
@[simp] theorem place_release : (s.release p x).place = s.place := rfl
@[simp] theorem free_release :
    (s.release p x).free = Function.update s.free p (x :: s.free p) := rfl

end Effects

end Shape

/-- A block is in the sequence of a head exactly when it stands there, and the
free blocks stand in no list. -/
structure Shape.Sound {H P X : Type} (L : Layout H P X) (s : Shape H P X) : Prop where
  nodup : ∀ h, (s.seq h).Nodup
  mem_seq : ∀ {h x}, x ∈ s.seq h ↔ s.place x = .linked h
  kinded : ∀ {h x}, s.place x = .linked h → x ∈ L.blocks ∧ L.poolOf x = L.kind h
  free_nodup : ∀ p, (s.free p).Nodup
  free_clean : ∀ {p x}, x ∈ s.free p → x ∈ L.blocks ∧ L.poolOf x = p ∧ s.place x = .unlinked

def Shape.Live {H P X : Type} (L : Layout H P X) (s : Shape H P X) (x : X) : Prop :=
  x ∈ L.blocks ∧ x ∉ s.free (L.poolOf x)

namespace Shape
variable {H P X : Type} {L : Layout H P X} {s : Shape H P X} [DecidableEq H] [DecidableEq P]
  [DecidableEq X] {h : H} {prev : Option X} {x y : X} {p : P}

@[simp] theorem live_insert : (s.insert h prev x).Live L y ↔ s.Live L y := Iff.rfl
@[simp] theorem live_append : (s.append h x).Live L y ↔ s.Live L y := Iff.rfl
@[simp] theorem live_detach : (s.detach h x).Live L y ↔ s.Live L y := Iff.rfl
@[simp] theorem live_reset : (s.reset h).Live L y ↔ s.Live L y := Iff.rfl

theorem live_release (pool : L.poolOf x = p) :
    (s.release p x).Live L y ↔ y ≠ x ∧ s.Live L y := by
  by_cases same : y = x
  · subst same
    simp [Live, pool]
  · by_cases here : L.poolOf y = p
    · simp [Live, here, same]
    · simp [Live, here, same]

theorem live_release_of_ne (other : L.poolOf y ≠ p) : (s.release p x).Live L y ↔ s.Live L y := by
  simp [Live, other]

theorem live_alloc_of_ne (other : L.poolOf y ≠ p) : (s.alloc p).Live L y ↔ s.Live L y := by
  simp [Live, other]

end Shape

namespace Shape.Sound
variable {H P X : Type} {L : Layout H P X} {s : Shape H P X}

theorem live_of_linked (sound : s.Sound L) {h : H} {x : X} (linked : s.place x = .linked h) :
    s.Live L x := by
  refine ⟨(sound.kinded linked).1, fun member => ?_⟩
  have clean := (sound.free_clean member).2.2
  rw [linked] at clean
  cases clean

theorem not_live_top (sound : s.Sound L) {p : P} {x : X} (top : (s.free p).head? = some x) :
    ¬ s.Live L x := by
  have member := List.mem_of_mem_head? top
  have pool := (sound.free_clean member).2.1
  exact fun live => live.2 (pool ▸ member)

theorem length_seq_le (sound : s.Sound L) (h : H) : (s.seq h).length ≤ L.blocks.card := by
  classical
  rw [← List.toFinset_card_of_nodup (sound.nodup h)]
  apply Finset.card_le_card
  intro x member
  exact (sound.kinded (sound.mem_seq.mp (List.mem_toFinset.mp member))).1

theorem place_last (sound : s.Sound L) {h : H} {x : X} (last : (s.seq h).getLast? = some x) :
    s.place x = .linked h :=
  sound.mem_seq.mp (List.mem_of_getLast? last)

theorem place_first (sound : s.Sound L) {h : H} {x : X} (first : (s.seq h).head? = some x) :
    s.place x = .linked h :=
  sound.mem_seq.mp (List.mem_of_mem_head? first)

end Shape.Sound

namespace Shape

/-- What `insert` asks of its caller. -/
structure CanInsert {H P X : Type} (L : Layout H P X) (s : Shape H P X) (h : H) (prev : Option X) (x : X) :
    Prop where
  live : s.Live L x
  kind : L.poolOf x = L.kind h
  unlinked : s.place x = .unlinked
  prev : ∀ y, prev = some y → s.place y = .linked h

/-- What `release` asks of its caller. -/
structure CanRelease {H P X : Type} (L : Layout H P X) (s : Shape H P X) (p : P) (x : X) : Prop where
  live : s.Live L x
  pool : L.poolOf x = p
  unlinked : s.place x = .unlinked

namespace Sound
variable {H P X : Type} {L : Layout H P X} {s : Shape H P X} [DecidableEq H] [DecidableEq P]
  [DecidableEq X]

theorem mem_insertItem (sound : s.Sound L) {h : H} {prev : Option X} {x y : X}
    (ok : s.CanInsert L h prev x) : y ∈ insertItem prev x (s.seq h) ↔ y = x ∨ y ∈ s.seq h := by
  cases prev with
  | none => simp [insertItem]
  | some prev => exact mem_insertAfter (sound.mem_seq.mpr (ok.prev prev rfl))

theorem insert (sound : s.Sound L) {h : H} {prev : Option X} {x : X}
    (ok : s.CanInsert L h prev x) : (s.insert h prev x).Sound L where
  nodup h' := by
    by_cases same : h' = h
    · subst same
      have fresh : x ∉ s.seq h' := by rw [sound.mem_seq, ok.unlinked]; nofun
      cases prev with
      | none => simpa [insertItem] using ⟨fresh, sound.nodup h'⟩
      | some prev =>
        simpa [insertItem] using
          nodup_insertAfter (sound.mem_seq.mpr (ok.prev prev rfl)) (sound.nodup h') fresh
    · simpa [same] using sound.nodup h'
  mem_seq {h' y} := by
    have fresh := ok.unlinked
    by_cases same : h' = h
    · subst same
      rw [seq_insert, Function.update_self, sound.mem_insertItem ok, sound.mem_seq]
      by_cases new : y = x
      · simp [new]
      · simp [new]
    · rw [seq_insert, Function.update_of_ne same, sound.mem_seq]
      by_cases new : y = x
      · subst new
        simp [fresh, Ne.symm same]
      · simp [new]
  kinded {h' y} linked := by
    by_cases new : y = x
    · subst new
      simp only [place_insert, Function.update_self, Place.linked.injEq] at linked
      exact linked ▸ ⟨ok.live.1, ok.kind⟩
    · exact sound.kinded (by simpa [new] using linked)
  free_nodup := sound.free_nodup
  free_clean {p y} member := by
    have clean := sound.free_clean member
    have old : y ≠ x := by
      rintro rfl
      exact ok.live.2 (clean.2.1 ▸ member)
    simpa [old] using clean

theorem detach (sound : s.Sound L) {h : H} {x : X} (linked : s.place x = .linked h) :
    (s.detach h x).Sound L where
  nodup h' := by
    by_cases same : h' = h
    · subst same
      simpa using (sound.nodup h').erase x
    · simpa [same] using sound.nodup h'
  mem_seq {h' y} := by
    by_cases same : h' = h
    · subst same
      rw [seq_detach, Function.update_self, (sound.nodup h').mem_erase_iff, sound.mem_seq]
      by_cases gone : y = x
      · simp [gone]
      · simp [gone]
    · rw [seq_detach, Function.update_of_ne same, sound.mem_seq]
      by_cases gone : y = x
      · subst gone
        simp [linked, Ne.symm same]
      · simp [gone]
  kinded {h' y} linked' := by
    by_cases gone : y = x
    · simp [gone] at linked'
    · exact sound.kinded (by simpa [gone] using linked')
  free_nodup := sound.free_nodup
  free_clean {p y} member := by
    have clean := sound.free_clean member
    by_cases gone : y = x
    · exact ⟨clean.1, clean.2.1, by simp [gone]⟩
    · simpa [gone] using clean

theorem reset (sound : s.Sound L) (h : H) : (s.reset h).Sound L where
  nodup h' := by
    by_cases same : h' = h
    · simp [same]
    · simpa [same] using sound.nodup h'
  mem_seq {h' y} := by
    by_cases same : h' = h
    · subst same
      simp only [seq_reset, place_reset, Function.update_self, List.not_mem_nil, false_iff]
      split <;> simp_all
    · rw [seq_reset, place_reset, Function.update_of_ne same, sound.mem_seq]
      split
      · rename_i held
        simp [held, Ne.symm same]
      · rfl
  kinded {h' y} linked := by
    rw [place_reset] at linked
    split at linked
    · cases linked
    · exact sound.kinded linked
  free_nodup := sound.free_nodup
  free_clean {p y} member := by
    have clean := sound.free_clean member
    simpa [clean.2.2] using clean

theorem alloc (sound : s.Sound L) (p : P) : (s.alloc p).Sound L where
  nodup := sound.nodup
  mem_seq := sound.mem_seq
  kinded := sound.kinded
  free_nodup q := by
    by_cases same : q = p
    · subst same
      simpa using (sound.free_nodup q).tail
    · simpa [same] using sound.free_nodup q
  free_clean {q y} member := by
    by_cases same : q = p
    · subst same
      exact sound.free_clean (List.mem_of_mem_tail (by simpa using member))
    · exact sound.free_clean (by simpa [same] using member)

theorem release (sound : s.Sound L) {p : P} {x : X} (ok : s.CanRelease L p x) :
    (s.release p x).Sound L where
  nodup := sound.nodup
  mem_seq := sound.mem_seq
  kinded := sound.kinded
  free_nodup q := by
    by_cases same : q = p
    · subst same
      have fresh : x ∉ s.free q := by simpa only [ok.pool] using ok.live.2
      simpa using ⟨fresh, sound.free_nodup q⟩
    · simpa [same] using sound.free_nodup q
  free_clean {q y} member := by
    by_cases same : q = p
    · subst same
      simp only [free_release, Function.update_self, List.mem_cons] at member
      rcases member with rfl | member
      · exact ⟨ok.live.1, ok.pool, ok.unlinked⟩
      · exact sound.free_clean member
    · exact sound.free_clean (by simpa [same] using member)

theorem live_alloc (sound : s.Sound L) {p : P} {x y : X} (top : (s.free p).head? = some x) :
    (s.alloc p).Live L y ↔ y = x ∨ s.Live L y := by
  obtain ⟨xs, stack⟩ : ∃ xs, s.free p = x :: xs := by
    cases free : s.free p with
    | nil => simp [free] at top
    | cons z xs => exact ⟨xs, by simpa [free] using top⟩
  have clean := sound.free_clean (p := p) (x := x) (by simp [stack])
  have fresh : x ∉ xs := (List.nodup_cons.mp (stack ▸ sound.free_nodup p)).1
  by_cases here : L.poolOf y = p
  · by_cases same : y = x
    · subst same
      simp [Live, here, stack, fresh, clean.1]
    · simp [Live, here, stack, same]
  · have other : y ≠ x := by
      rintro rfl
      exact here clean.2.1
    simp [live_alloc_of_ne here, other]

theorem insert_last (sound : s.Sound L) {h : H} {x : X} :
    s.insert h (s.seq h).getLast? x = s.append h x := by
  ext1
  · rw [seq_insert, seq_append, insertItem_last (sound.nodup h)]
  · rfl
  · rfl

theorem canInsert_last (sound : s.Sound L) {h : H} {x : X} (live : s.Live L x)
    (kind : L.poolOf x = L.kind h) (unlinked : s.place x = .unlinked) :
    s.CanInsert L h (s.seq h).getLast? x :=
  ⟨live, kind, unlinked, fun _ last => sound.place_last last⟩

end Sound

end Shape

structure Arena {H P X : Type} (L : Layout H P X) extends Shape H P X where
  sound : toShape.Sound L

namespace Arena
variable {H P X : Type} {L : Layout H P X}

theorem eq_of_shape {a b : Arena L} (same : a.toShape = b.toShape) : a = b := by
  cases a
  cases b
  cases same
  rfl

variable [DecidableEq H] [DecidableEq P] [DecidableEq X] (a : Arena L)

def insert (h : H) (prev : Option X) (x : X) (ok : a.CanInsert L h prev x) : Arena L :=
  ⟨a.toShape.insert h prev x, a.sound.insert ok⟩

def append (h : H) (x : X) (live : a.Live L x) (kind : L.poolOf x = L.kind h)
    (unlinked : a.place x = .unlinked) : Arena L :=
  ⟨a.toShape.append h x,
    a.sound.insert_last ▸ a.sound.insert (a.sound.canInsert_last live kind unlinked)⟩

def detach (h : H) (x : X) (linked : a.place x = .linked h) : Arena L :=
  ⟨a.toShape.detach h x, a.sound.detach linked⟩

def reset (h : H) : Arena L := ⟨a.toShape.reset h, a.sound.reset h⟩

def alloc (p : P) : Arena L := ⟨a.toShape.alloc p, a.sound.alloc p⟩

def release (p : P) (x : X) (ok : a.CanRelease L p x) : Arena L :=
  ⟨a.toShape.release p x, a.sound.release ok⟩

variable {a} {h : H} {prev : Option X} {x : X} {p : P}

@[simp] theorem toShape_insert (ok : a.CanInsert L h prev x) :
    (a.insert h prev x ok).toShape = a.toShape.insert h prev x := rfl
@[simp] theorem toShape_append (live : a.Live L x) (kind : L.poolOf x = L.kind h)
    (unlinked : a.place x = .unlinked) :
    (a.append h x live kind unlinked).toShape = a.toShape.append h x := rfl
@[simp] theorem toShape_detach (linked : a.place x = .linked h) :
    (a.detach h x linked).toShape = a.toShape.detach h x := rfl
@[simp] theorem toShape_reset : (a.reset h).toShape = a.toShape.reset h := rfl
@[simp] theorem toShape_alloc : (a.alloc p).toShape = a.toShape.alloc p := rfl
@[simp] theorem toShape_release (ok : a.CanRelease L p x) :
    (a.release p x ok).toShape = a.toShape.release p x := rfl

end Arena

end DisastrOS.Refinement
