import DisastrOS.Coherence

/-! Weakest preconditions of the primitives on scenes.

The rules compute what a piece of code needs of a scene. A scene that is sound
at the start stays so, and every rule hands that on.
-/

set_option autoImplicit false

namespace DisastrOS

open Refinement

/-- On a sound scene `code` ends with this fuel in a scene in `Q`, or abnormally as `E` allows. -/
def Scene.wp {α : Type} (c : Config) (fuel : Nat) (code : Code α) (Q : α → Scene → Prop)
    (E : Option Stop → Prop) (k : Scene) : Prop :=
  ∀ sound : k.Sound c,
    Refinement.wp (arena c) fuel code (fun value v => Q value (View.scene v)) E
      (⟨k.store, ⟨k.toShape, sound⟩⟩ : View c)

namespace Scene

/-! ### Soundness, operation by operation -/

section Sound
variable {c : Config} {k : Scene} {h : Head} {prev q : Pointer} {x : Addr} {p : Pool}
  {f : Store → Store} {g : PCB → PCB} {value : Int}

@[simp] theorem sound_update : (k.update f).Sound c ↔ k.Sound c := Iff.rfl
@[simp] theorem sound_setPCB : (k.setPCB x g).Sound c ↔ k.Sound c := Iff.rfl
@[simp] theorem sound_run : (k.run q).Sound c ↔ k.Sound c := Iff.rfl
@[simp] theorem sound_answer : (k.answer x value).Sound c ↔ k.Sound c := Iff.rfl
@[simp] theorem sound_report {result : Int} : (k.report result value).Sound c ↔ k.Sound c := by
  simp only [Scene.Sound, toShape_report]

theorem Sound.append (sound : k.Sound c) (live : k.Live c x) (kind : x.pool = h.kind)
    (unlinked : k.place x = .unlinked) : (k.append h x).Sound c := by
  have same : k.toShape.insert h (k.seq h).getLast? x = k.toShape.append h x := sound.insert_last
  rw [Scene.Sound, toShape_append, ← same]
  exact Shape.Sound.insert sound (sound.canInsert_last live kind unlinked)

theorem Sound.insert (sound : k.Sound c) (live : k.Live c x) (kind : x.pool = h.kind)
    (unlinked : k.place x = .unlinked) (after : ∀ y, prev = some y → k.place y = .linked h) :
    (k.insert h prev x).Sound c :=
  Shape.Sound.insert sound ⟨live, kind, unlinked, after⟩

theorem Sound.detach (sound : k.Sound c) (linked : k.place x = .linked h) :
    (k.detach h x).Sound c := Shape.Sound.detach sound linked

@[simp] theorem Sound.reset (sound : k.Sound c) : (k.reset h).Sound c := Shape.Sound.reset sound h

@[simp] theorem Sound.alloc (sound : k.Sound c) : (k.alloc p).Sound c := Shape.Sound.alloc sound p

theorem Sound.release (sound : k.Sound c) (live : k.Live c x) (pool : x.pool = p)
    (unlinked : k.place x = .unlinked) : (k.release p x).Sound c :=
  Shape.Sound.release sound ⟨live, pool, unlinked⟩

section Live
variable {y : Addr}

@[simp] theorem live_update : (k.update f).Live c y ↔ k.Live c y := Iff.rfl
@[simp] theorem live_setPCB : (k.setPCB x g).Live c y ↔ k.Live c y := Iff.rfl
@[simp] theorem live_run : (k.run q).Live c y ↔ k.Live c y := Iff.rfl
@[simp] theorem live_answer : (k.answer x value).Live c y ↔ k.Live c y := Iff.rfl
@[simp] theorem live_append : (k.append h x).Live c y ↔ k.Live c y := Iff.rfl
@[simp] theorem live_insert : (k.insert h prev x).Live c y ↔ k.Live c y := Iff.rfl
@[simp] theorem live_detach : (k.detach h x).Live c y ↔ k.Live c y := Iff.rfl
@[simp] theorem live_reset : (k.reset h).Live c y ↔ k.Live c y := Iff.rfl

@[simp] theorem live_report {result : Int} : (k.report result value).Live c y ↔ k.Live c y := by
  simp only [Scene.Live, toShape_report]

theorem live_release (pool : x.pool = p) : (k.release p x).Live c y ↔ y ≠ x ∧ k.Live c y :=
  Shape.live_release (L := layout c) pool

theorem live_release_of_ne (other : y.pool ≠ p) : (k.release p x).Live c y ↔ k.Live c y :=
  Shape.live_release_of_ne (L := layout c) other

theorem live_alloc_of_ne (other : y.pool ≠ p) : (k.alloc p).Live c y ↔ k.Live c y :=
  Shape.live_alloc_of_ne (L := layout c) other

end Live

theorem live_alloc (sound : k.Sound c) {y : Addr} (top : (k.free p).head? = some x) :
    (k.alloc p).Live c y ↔ y = x ∨ k.Live c y := Shape.Sound.live_alloc sound top

theorem alloc_empty (empty : k.free p = []) : k.alloc p = k := by
  have same : Function.update k.free p (k.free p).tail = k.free := by
    rw [empty, List.tail_nil, ← empty, Function.update_eq_self]
  simp only [Scene.alloc, Shape.alloc, same]

end Sound

/-! ### Structure -/

section Rules
variable {c : Config} {fuel : Nat} {k : Scene} {α β : Type} {Q : β → Scene → Prop}
  {E : Option Stop → Prop}

@[simp] theorem sound_wp {code : Code β} :
    (k.Sound c → k.wp c fuel code Q E) ↔ k.wp c fuel code Q E :=
  ⟨fun holds sound => holds sound sound, fun holds _ => holds⟩

@[simp] theorem wp_pure (value : β) :
    k.wp c fuel (pure value) Q E ↔ (k.Sound c → Q value k) := Iff.rfl

@[simp] theorem wp_fail (stop : Stop) :
    k.wp c fuel (.fail stop : Code β) Q E ↔ (k.Sound c → E (some stop)) := Iff.rfl

@[simp] theorem wp_bind (code : Code α) (f : α → Code β) :
    k.wp c fuel (code >>= f) Q E ↔ k.wp c fuel code (fun value k' => k'.wp c fuel (f value) Q E) E := by
  apply forall_congr'
  intro sound
  rw [Refinement.wp_bind]
  have same : (fun value (v : View c) =>
      Refinement.wp (arena c) fuel (f value) (fun value v => Q value (View.scene v)) E v) =
      fun value (v : View c) => (View.scene v).wp c fuel (f value) Q E := by
    funext value v
    exact propext ⟨fun holds _ => holds, fun holds => holds (Arena.sound v.data)⟩
  rw [← same]

@[simp] theorem wp_ite {t : Prop} [Decidable t] (p q : Code β) :
    k.wp c fuel (if t then p else q) Q E ↔
      if t then k.wp c fuel p Q E else k.wp c fuel q Q E := by
  split <;> rfl

theorem wp_mono {code : Code β} {Q' : β → Scene → Prop} {E' : Option Stop → Prop}
    (holds : k.wp c fuel code Q E) (post : ∀ value k', k'.Sound c → Q value k' → Q' value k')
    (fault : ∀ stop, E stop → E' stop) : k.wp c fuel code Q' E' := fun sound =>
  Refinement.wp_mono (holds sound) (fun value v => post value (View.scene v) (Arena.sound v.data)) fault

@[simp] theorem wp_get (field : Store → β) :
    k.wp c fuel (get field) Q E ↔ (k.Sound c → Q (field k.store) k) := Iff.rfl

@[simp] theorem wp_modify {Q : Unit → Scene → Prop} (f : Store → Store) :
    k.wp c fuel (modify f) Q E ↔ (k.Sound c → Q () (k.update f)) := Iff.rfl

@[simp] theorem wp_setPCB {Q : Unit → Scene → Prop} (p : Addr) (f : PCB → PCB) :
    k.wp c fuel (DisastrOS.setPCB p f) Q E ↔ (k.Sound c → Q () (k.setPCB p f)) := Iff.rfl

@[simp] theorem wp_deref_some {Q : Addr → Scene → Prop} (object : Pool) (x : Addr) :
    k.wp c fuel (deref object (some x)) Q E ↔ (k.Sound c → Q x k) := Iff.rfl

@[simp] theorem wp_deref_none {Q : Addr → Scene → Prop} (object : Pool) :
    k.wp c fuel (deref object none) Q E ↔ (k.Sound c → E (some (.null object))) := Iff.rfl

theorem wp_iterate {body : α → Code (α ⊕ β)} (I : Nat → α → Scene → Prop)
    (round : ∀ n value k, I n value k →
      k.wp c fuel (body value) (fun answer next => match answer with
        | .inl again => ∃ m < n, I m again next
        | .inr result => Q result next) E)
    {n : Nat} (enough : n < fuel) (start : α) (init : I n start k) :
    k.wp c fuel (.iterate body start) Q E := fun sound => by
  refine Refinement.wp_iterate (fun n value v => I n value (View.scene v))
    (fun n value v holds => ?_) enough start init
  exact Refinement.wp_mono (round n value (View.scene v) holds (Arena.sound v.data))
    (fun answer next after => by cases answer <;> exact after) fun _ => id

theorem wp_iterate_forever {body : α → Code (α ⊕ β)} (I : α → Scene → Prop)
    (round : ∀ value k, I value k →
      k.wp c fuel (body value) (fun answer next => match answer with
        | .inl again => I again next
        | .inr _ => False) E)
    (never : E none) (start : α) (init : I start k) :
    k.wp c fuel (.iterate body start) Q E := fun sound => by
  refine Refinement.wp_iterate_forever (fun value v => I value (View.scene v))
    (fun value v holds => ?_) never start init
  exact Refinement.wp_mono (round value (View.scene v) holds (Arena.sound v.data))
    (fun answer next after => by cases answer <;> exact after) fun _ => id

end Rules

/-! ### Lists and pools -/

section Primitives
variable {c : Config} {fuel : Nat} {k : Scene} {h : Head} {x : Addr} {p : Pool}
  {E : Option Stop → Prop}

@[simp] theorem wp_first {Q : Pointer → Scene → Prop} :
    k.wp c fuel (first h) Q E ↔ (k.Sound c → Q (k.seq h).head? k) := Iff.rfl

@[simp] theorem wp_last {Q : Pointer → Scene → Prop} :
    k.wp c fuel (last h) Q E ↔ (k.Sound c → Q (k.seq h).getLast? k) := Iff.rfl

@[simp] theorem wp_size {Q : Int → Scene → Prop} :
    k.wp c fuel (size h) Q E ↔ (k.Sound c → Q (k.seq h).length k) := Iff.rfl

@[simp] theorem wp_init {Q : Unit → Scene → Prop} :
    k.wp c fuel (List_init h) Q E ↔ (k.Sound c → Q () (k.reset h)) := Iff.rfl

@[simp] theorem wp_getBlock {Q : Pointer → Scene → Prop} :
    k.wp c fuel (getBlock p) Q E ↔ (k.Sound c → Q (k.free p).head? (k.alloc p)) := Iff.rfl

theorem wp_next {Q : Pointer → Scene → Prop} (linked : k.place x = .linked h) :
    k.wp c fuel (next x) Q E ↔ (k.Sound c → Q (after x (k.seq h)) k) := by
  apply forall_congr'
  intro sound
  simp only [next, Refinement.wp_perform, arena, sequences, linked]
  constructor
  · rintro ⟨value, data, same, holds⟩
    cases same
    exact holds
  · intro holds
    exact ⟨_, _, rfl, holds⟩

@[simp] theorem wp_clear {Q : Unit → Scene → Prop} :
    k.wp c fuel (clear x) Q E ↔ (k.Sound c → k.place x = .unlinked ∧ Q () k) := by
  apply forall_congr'
  intro sound
  simp only [clear, Refinement.wp_perform, arena, sequences]
  by_cases unlinked : k.place x = .unlinked
  · simp only [unlinked, if_true, true_and]
    constructor
    · rintro ⟨value, data, same, holds⟩
      cases same
      exact holds
    · intro holds
      exact ⟨_, _, rfl, holds⟩
  · simp [unlinked]

@[simp] theorem wp_insert {Q : Pointer → Scene → Prop} {prev : Pointer} :
    k.wp c fuel (List_insert h prev (some x)) Q E ↔
      (k.Sound c → k.CanInsert (layout c) h prev x ∧ Q (some x) (k.insert h prev x)) := by
  apply forall_congr'
  intro sound
  simp only [List_insert, Refinement.wp_perform, arena, sequences]
  by_cases ok : k.CanInsert (layout c) h prev x
  · simp only [ok, dif_pos, true_and]
    constructor
    · rintro ⟨value, data, same, holds⟩
      cases same
      exact holds
    · intro holds
      exact ⟨_, _, rfl, holds⟩
  · simp [ok]

@[simp] theorem wp_insert_none {Q : Pointer → Scene → Prop} {prev : Pointer} :
    k.wp c fuel (List_insert h prev none) Q E ↔ (k.Sound c → E (some .insertNull)) := Iff.rfl

@[simp] theorem wp_detach {Q : Addr → Scene → Prop} :
    k.wp c fuel (List_detach h (some x)) Q E ↔
      (k.Sound c → k.place x = .linked h ∧ Q x (k.detach h x)) := by
  apply forall_congr'
  intro sound
  simp only [List_detach, Refinement.wp_bind, Refinement.wp_perform, arena, sequences,
    Refinement.wp_pure]
  by_cases linked : k.place x = .linked h
  · simp only [linked, dif_pos, true_and]
    constructor
    · rintro ⟨value, data, same, holds⟩
      cases same
      exact holds
    · intro holds
      exact ⟨_, _, rfl, holds⟩
  · simp [linked]

@[simp] theorem wp_detach_none {Q : Addr → Scene → Prop} :
    k.wp c fuel (List_detach h none) Q E ↔ (k.Sound c → E (some .detachNull)) := Iff.rfl

@[simp] theorem wp_append {Q : Unit → Scene → Prop} :
    k.wp c fuel (List_append h (some x)) Q E ↔
      (k.Sound c → (k.Live c x ∧ x.pool = h.kind ∧ k.place x = .unlinked) ∧ Q () (k.append h x)) := by
  simp only [List_append, wp_bind, wp_last, wp_insert, wp_pure]
  apply forall_congr'
  intro sound
  simp only [sound, true_implies]
  have same : k.insert h (k.seq h).getLast? x = k.append h x := by
    simp only [Scene.insert, Scene.append, Shape.Sound.insert_last sound]
  rw [same]
  constructor
  · rintro ⟨ok, holds⟩
    have ready : k.Live c x ∧ x.pool = h.kind ∧ k.place x = .unlinked :=
      ⟨ok.live, ok.kind, ok.unlinked⟩
    exact ⟨ready, holds (sound.append ready.1 ready.2.1 ready.2.2)⟩
  · rintro ⟨⟨live, kind, unlinked⟩, holds⟩
    exact ⟨sound.canInsert_last live kind unlinked, fun _ => holds⟩

@[simp] theorem wp_append_none {Q : Unit → Scene → Prop} :
    k.wp c fuel (List_append h none) Q E ↔ (k.Sound c → E (some .insertNull)) := by
  simp only [List_append, wp_bind, wp_last, wp_insert_none]
  tauto

@[simp] theorem wp_releaseBlock {Q : PoolAllocatorResult → Scene → Prop} :
    k.wp c fuel (releaseBlock p x) Q E ↔
      (k.Sound c → (k.Live c x ∧ x.pool = p ∧ k.place x = .unlinked) ∧
        Q .Success (k.release p x)) := by
  apply forall_congr'
  intro sound
  simp only [releaseBlock, Refinement.wp_perform, arena, sequences]
  constructor
  · rintro ⟨value, data, same, holds⟩
    split at same
    · rename_i ok
      cases same
      exact ⟨⟨ok.live, ok.pool, ok.unlinked⟩, holds⟩
    · cases same
  · rintro ⟨⟨live, pool, unlinked⟩, holds⟩
    have ok : Shape.CanRelease (layout c) k.toShape p x := ⟨live, pool, unlinked⟩
    rw [dif_pos ok]
    exact ⟨_, _, rfl, holds⟩

/-- A scan of a list sees its elements in order and goes on past those in `skip`.
The loop carries `value`, of the elements seen and those to come. -/
theorem wp_scan {α β : Type} {body : α → Code (α ⊕ β)} {Q : β → Scene → Prop} (skip : Addr → Prop)
    (enough : (blocks c).card < fuel) (value : List Addr → List Addr → α)
    (stop : ∀ seen, seen = k.seq h → (∀ y ∈ seen, skip y) →
      k.wp c fuel (body (value seen [])) (fun answer next => match answer with
        | .inl _ => False
        | .inr result => Q result next) E)
    (visit : ∀ seen x rest, seen ++ x :: rest = k.seq h → (∀ y ∈ seen, skip y) →
      k.wp c fuel (body (value seen (x :: rest))) (fun answer next => match answer with
        | .inl again => skip x ∧ again = value (seen ++ [x]) rest ∧ next = k
        | .inr result => Q result next) E) :
    k.wp c fuel (.iterate body (value [] (k.seq h))) Q E := by
  intro sound
  -- the invariant: what has been seen was passed over, and so many items are left
  refine wp_iterate (k := k) (fun n a k' => k' = k ∧ ∃ seen rest, seen ++ rest = k.seq h ∧
    (∀ y ∈ seen, skip y) ∧ rest.length = n ∧ a = value seen rest) ?_
    (lt_of_le_of_lt (sound.length_seq_le h) enough) _
    ⟨rfl, [], k.seq h, rfl, by simp, rfl, rfl⟩ sound
  rintro n a k' ⟨rfl, seen, rest, split, skipped, rfl, rfl⟩
  cases rest with
  | nil =>
    have whole : seen = k'.seq h := by simpa using split
    refine wp_mono (stop seen whole skipped) (fun answer next _ holds => ?_) fun _ => id
    cases answer with
    | inl again => exact holds.elim
    | inr result => exact holds
  | cons x rest =>
    refine wp_mono (visit seen x rest split skipped) (fun answer next _ holds => ?_) fun _ => id
    cases answer with
    | inl again =>
      obtain ⟨passed, rfl, rfl⟩ := holds
      refine ⟨rest.length, by simp, rfl, seen ++ [x], rest, by simp [← split], fun y member => ?_,
        rfl, rfl⟩
      rcases List.mem_append.mp member with old | new
      · exact skipped y old
      · exact List.mem_singleton.mp new ▸ passed
    | inr result => exact holds

theorem after_seen (sound : k.Sound c) {seen rest : List Addr} (split : seen ++ x :: rest = k.seq h) :
    after x (k.seq h) = rest.head? := by
  have nodup := sound.nodup h
  rw [← split] at nodup ⊢
  exact after_append fun member => (List.nodup_append.mp nodup).2.2 x member x (by simp) rfl

theorem linked_seen (sound : k.Sound c) {seen rest : List Addr} (split : seen ++ x :: rest = k.seq h) :
    k.place x = .linked h :=
  sound.mem_seq.mp (by simp [← split])

theorem wp_search {Q : Pointer → Scene → Prop} {test : Store → Addr → Bool}
    (enough : (blocks c).card < fuel) (holds : k.Sound c → Q ((k.seq h).find? (test k.store)) k) :
    k.wp c fuel (List_search h test) Q E := by
  simp only [List_search, wp_bind, wp_first, sound_wp]
  refine wp_scan (fun x => test k.store x = false) enough (fun _ rest => rest.head?)
    (fun seen whole skipped => ?_) fun seen x rest split skipped => ?_
  · have none_found : (k.seq h).find? (test k.store) = none := by
      rw [← whole, List.find?_eq_none]
      exact fun y member => by simp [skipped y member]
    simpa [none_found] using holds
  · have past : seen.find? (test k.store) = none := by
      rw [List.find?_eq_none]
      exact fun y member => by simp [skipped y member]
    simp only [List.head?_cons, wp_bind, wp_get, wp_ite, wp_pure]
    split
    · rename_i found
      have here : (k.seq h).find? (test k.store) = some x := by
        have now : test k.store x = true := found
        simp [← split, past, now]
      simpa [here] using holds
    · rename_i passed
      have next_test : test k.store x = false := by simpa using passed
      intro sound
      rw [wp_next (linked_seen sound split)]
      simp [after_seen sound split, next_test]

end Primitives

end Scene

end DisastrOS
