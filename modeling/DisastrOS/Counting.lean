import DisastrOS.Chains

/-! The counter of a queue counts its messages between two events.

`read` and `write` change the list before the loop that wakes the waiting
processes and the counter after it; all other moves leave both alone.
-/

set_option autoImplicit false

namespace DisastrOS

open Refinement
open Relation (ReflTransGen)

def Tag.quiet : Tag → Prop
  | .taken _ _ | .posted _ _ | .counted _ => False
  | _ => True

section
variable {c : Config} {k k' : Scene}

theorem Counted.congr (counted : Counted c k) (mq : k'.store.mq = k.store.mq)
    (messages : ∀ q, k'.seq (.messages q) = k.seq (.messages q)) : Counted c k' := by
  intro q
  rw [mq, messages]
  exact counted q

theorem Move.counted {tag : Tag} {P P' : Phase} (move : Move c tag P P') (quiet : tag.quiet)
    (counted : Counted c P.scene) : Counted c P'.scene := by
  cases move with
  | take linked => exact quiet.elim
  | post write_buffer block fits => exact quiet.elim
  | finishRead r buf_des unwaited unread => exact quiet.elim
  | finishWrite r length unwaited unread => exact quiet.elim
  | @newQueue k ru go q id absent top =>
    intro u
    by_cases same : u = q
    · simp [Scene.newQueue, same]
    · simpa [Scene.newQueue, same] using counted u
  | destroyResource linked unused => exact counted.congr rfl fun u => by simp [Scene.destroy]
  | destroyQueue linked unused => exact counted.congr rfl fun u => by simp [Scene.destroy]
  | user memory => exact counted.congr rfl fun u => rfl
  | enqueue which ptr calls found reads writes =>
    refine counted.congr rfl fun u => ?_
    cases which <;> simp [Scene.enqueue, Scene.block]
  | _ =>
    refine counted.congr ?_ fun u => ?_
    · simp [Scene.enter, Scene.tick, Scene.block, Scene.startTimer, Scene.dispatch,
        Scene.wakeSleeper, Scene.rotate, Scene.newChild, Scene.reap, Scene.reparent, Scene.bury,
        Scene.resumeParent, Scene.dropDescriptor, Scene.vanish, Scene.restart, Scene.newResource,
        Scene.openDescriptor, Scene.wakeWaiter, Scene.wakeWriter]
    · simp [Scene.enter, Scene.tick, Scene.block, Scene.startTimer, Scene.dispatch,
        Scene.wakeSleeper, Scene.rotate, Scene.newChild, Scene.reap, Scene.reparent, Scene.bury,
        Scene.resumeParent, Scene.dropDescriptor, Scene.vanish, Scene.restart, Scene.newResource,
        Scene.openDescriptor, Scene.wakeWaiter, Scene.wakeWriter]

theorem Chain.counted {A : Scene → Tag → Prop} {P P' : Phase} (chain : Chain c A P P')
    (quiet : ∀ {j tag}, A j tag → tag.quiet) (inv : P.Coherent c) (counted : Counted c P.scene) :
    Counted c P'.scene :=
  (chain.keeps (J := fun P => Counted c P.scene) inv
    (fun ok _ move counted => move.counted (quiet ok) counted) counted).2

theorem Suspend.counted {r : Addr} {waiting : Addr → Head} {num : Int} {mq : Pointer}
    (which : WaitsIn waiting num) (counted : Counted c k)
    (suspends : Suspend r mq waiting k (.done () k')) : Counted c k' := by
  cases suspends with
  | suspended ptr found ready =>
    refine counted.congr rfl fun u => ?_
    cases which <;> simp [Scene.dispatch, Scene.enqueue, Scene.block]

theorem Read.counted {r : Addr} (inv : Coherent c (some r) none k) (counted : Counted c k)
    (reads : Read r k (.done () k')) : Counted c k' := by
  cases reads with
  | waits empty suspends => exact suspends.counted .read counted
  | short found first long => exact counted.congr rfl fun u => rfl
  | @takes q m j found first fits wakes user =>
    have linked := inv.sound.first first
    have taken := inv.moved (.take linked)
    obtain ⟨-, frame, -⟩ := WakeWriterRound.chain (A := fun _ _ => True) (fun _ => trivial) taken wakes.1
    intro u
    have shorter := List.length_erase_of_mem (inv.sound.mem_seq.mpr linked)
    have nonempty := List.length_pos_of_mem (inv.sound.mem_seq.mpr linked)
    have count := counted u
    have mq : j.store.mq = k.store.mq := frame.mq (by simp)
    have messages : j.seq (.messages u) = (k.detach (.messages q) m).seq (.messages u) :=
      frame.seq (by simp [Head.kind])
    by_cases same : u = q
    · subst same
      simp [Scene.finishRead, mq, messages, shorter]
      omega
    · simpa [Scene.finishRead, mq, messages, same] using count

theorem Write.counted {r : Addr} (inv : Coherent c (some r) none k) (counted : Counted c k)
    (writes : Write c r k (.done () k')) : Counted c k' := by
  cases writes with
  | tooLong long => exact counted.congr rfl fun u => rfl
  | unknown fits absent => exact counted.congr rfl fun u => rfl
  | waits fits found full suspends => exact suspends.counted .write counted
  | @writes q m j fits found room block user wakes =>
    have posted := inv.moved (.post (q := q) (k.arg r 1) block fits)
    obtain ⟨-, frame, -⟩ := WakeReaderRound.chain (A := fun _ _ => True) (fun _ _ => trivial) posted wakes.1
    intro u
    have count := counted u
    have mq : j.store.mq = k.store.mq := frame.mq (by simp)
    have messages : j.seq (.messages u) = (k.post q m (k.arg r 1) (k.intArg r 2)).seq (.messages u) :=
      frame.seq (by simp [Head.kind])
    by_cases same : u = q
    · subst same
      simp [Scene.finishWrite, mq, messages, Scene.post]
      omega
    · simpa [Scene.finishWrite, mq, messages, Scene.post, same] using count

theorem Reacts.counted {e : Event} (inv : Coherent c k.store.running none k) (counted : Counted c k)
    (reacts : Reacts c k e (.done () k')) : Counted c k' := by
  by_cases moves : ∃ j tag, Does c k e j tag ∧ ¬ tag.quiet
  · obtain ⟨j, tag, does, loud⟩ := moves
    have entered {r : Addr} {num : Int} {args : Nat → Int} (runs : k.store.running = some r) :
        Coherent c (some r) none (k.enter r num args) := inv.entered runs num args
    have still {r : Addr} {num : Int} {args : Nat → Int} : Counted c (k.enter r num args) :=
      counted.congr rfl fun _ => rfl
    cases does with
    | takes args runs found first fits =>
      exact (reacts.handler_ends rfl runs).counted (entered runs) still
    | countsDown args j runs found first fits =>
      exact (reacts.handler_ends rfl runs).counted (entered runs) still
    | posts args runs found room block =>
      exact (reacts.handler_ends rfl runs).counted (entered runs) still
    | countsUp args j runs found room block =>
      exact (reacts.handler_ends rfl runs).counted (entered runs) still
    | _ => exact absurd trivial loud
  · have quiet {j : Scene} {tag : Tag} (does : Does c k e j tag) : tag.quiet := by
      by_contra loud
      exact moves ⟨j, tag, does, loud⟩
    exact (reacts.chain inv counted).counted quiet inv counted

end

end DisastrOS
