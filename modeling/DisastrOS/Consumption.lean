import DisastrOS.Fifo
import DisastrOS.Progress

/-! The messages a kernel can ever store.

No block of a message is given back to its pool. A kernel accepts as many writes
as it has blocks, and the next one stops it, however many messages were read.
-/

set_option autoImplicit false

namespace DisastrOS

open Refinement

/-- The step is a write that finds a queue with room for it. -/
def Transition.Posts (c : Config) (t : Transition) : Prop :=
  match t.event with
  | .syscall num args =>
    num = DSOS_CALL_WRITE_MQ ∧ ∃ q ∈ t.before.queue (int32 (args 0)), WritesTo c t.before q args
  | _ => False

instance (c : Config) : DecidablePred (Transition.Posts c)
  | ⟨before, .syscall num args, _⟩ => inferInstanceAs (Decidable
      (num = DSOS_CALL_WRITE_MQ ∧ ∃ q ∈ before.queue (int32 (args 0)), WritesTo c before q args))
  | ⟨_, .user _, _⟩ | ⟨_, .tick, _⟩ | ⟨_, .proceed, _⟩ => inferInstanceAs (Decidable False)

section
variable {c : Config} {m m' : Kernel} {k k' j : Scene} {e : Event} {q r : Addr} {args : Nat → Int}

theorem Move.free_message {tag : Tag} {P P' : Phase} (move : Move c tag P P') (other : ∀ q x, tag ≠ .posted q x) :
    P'.scene.free .message = P.scene.free .message := by
  cases move with
  | post => exact absurd rfl (other _ _)
  | _ =>
    simp [Scene.tick, Scene.enter, Scene.block, Scene.startTimer, Scene.dispatch, Scene.enqueue, Scene.wakeSleeper,
      Scene.rotate, Scene.reparent, Scene.bury, Scene.destroy, Scene.newQueue, Scene.resumeParent, Head.kind,
      Scene.dropDescriptor, Scene.newResource, Scene.finishRead, Scene.finishWrite,
      Scene.openDescriptor, Scene.wakeWaiter, Scene.wakeWriter, Scene.reap, Scene.vanish, Scene.restart, Scene.newChild]

theorem WakeReaders.free_message (wakes : WakeReaders q k j) : j.free .message = k.free .message := by
  obtain ⟨rounds, -⟩ := wakes
  induction rounds with
  | refl => rfl
  | tail _ round ih =>
    cases round
    simpa [Scene.wakeWaiter] using ih

theorem Write.takes_block (found : k.queue (int32 (args 0)) = some q) (fits : int32 (args 2) ≤ c.MAX_LEN_MESSAGE)
    (room : (k.store.mq q).num_written ≠ c.MAX_NUM_MESSAGES)
    (ends : Write c r (k.enter r DSOS_CALL_WRITE_MQ args) (.done () k')) :
    (k'.free .message).length + 1 = (k.free .message).length := by
  obtain ⟨x, top⟩ := write_block found fits room ends
  rcases write_room found fits room top ends with ⟨-, same⟩ | ⟨-, j, wakes, same⟩
  · cases same
  · cases same
    obtain ⟨rest, free⟩ := List.head?_eq_some_iff.mp top
    have left : (j.finishWrite r q (int32 (args 2))).free .message = rest := by
      simp [Scene.finishWrite, wakes.free_message, Scene.post, free]
    rw [left, free, List.length_cons]

theorem Write.takes_none (refused : ¬ ∃ q, k.queue (int32 (args 0)) = some q ∧ int32 (args 2) ≤ c.MAX_LEN_MESSAGE ∧
      (k.store.mq q).num_written ≠ c.MAX_NUM_MESSAGES)
    (ends : Write c r (k.enter r DSOS_CALL_WRITE_MQ args) (.done () k')) : k'.free .message = k.free .message := by
  have size : (k.enter r DSOS_CALL_WRITE_MQ args).intArg r 2 = int32 (args 2) := intArg_enter (by decide)
  cases ends with
  | tooLong | unknown => rfl
  | waits fits found full suspends =>
    cases suspends with
    | suspended ptr mq ready => simp [Scene.dispatch, Scene.enqueue, Scene.block]
  | writes fits found room =>
    rw [queue_enter (by decide)] at found
    exact absurd ⟨_, found, size ▸ fits, room⟩ refused

theorem Shows.writesTo (shows : Shows c m k) : WritesTo c m q args ↔ k.queue (int32 (args 0)) = some q ∧
    int32 (args 2) ≤ c.MAX_LEN_MESSAGE ∧ (k.store.mq q).num_written ≠ c.MAX_NUM_MESSAGES := by
  rw [WritesTo, shows.queue, shows.store]

theorem Reacts.free_message (m' : Kernel) (shows : Shows c m k) (inv : Coherent c k.store.running none k)
    (counted : Counted c k) (reacts : Reacts c k e (.done () k')) :
    (k'.free .message).length + (if Transition.Posts c ⟨m, e, m'⟩ then 1 else 0) = (k.free .message).length := by
  by_cases writes : ∃ args, e = .syscall DSOS_CALL_WRITE_MQ args
  · obtain ⟨args, rfl⟩ := writes
    obtain ⟨r, runs⟩ := reacts.runs
    have handler : Handles c DSOS_CALL_WRITE_MQ = some (Write c) := rfl
    have ends := reacts.handler_ends handler runs
    split
    next posts =>
      obtain ⟨-, q, -, accepts⟩ := posts
      obtain ⟨found, fits, room⟩ := shows.writesTo.mp accepts
      exact Write.takes_block found fits room ends
    next idle =>
      rw [Write.takes_none ?_ ends, Nat.add_zero]
      rintro ⟨q, found, fits, room⟩
      refine idle ⟨rfl, q, ?_, shows.writesTo.mpr ⟨found, fits, room⟩⟩
      change m.queue (int32 (args 0)) = some q
      rw [shows.queue, found]
  · have other : ¬ Transition.Posts c ⟨m, e, m'⟩ := by
      intro posts
      cases e with
      | user | tick | proceed => exact posts
      | syscall num args =>
        obtain ⟨rfl, -⟩ := posts
        exact writes ⟨args, rfl⟩
    have still := ((reacts.chain inv counted).keeps (J := fun P => P.scene.free .message = k.free .message) inv
      (fun does _ move same => by
        refine (move.free_message fun q x posted => ?_).trans same
        subst posted
        exact writes does.posted) rfl).2
    rw [if_neg other, Nat.add_zero]
    exact congrArg List.length still

theorem Write.exhausted (found : k.queue (int32 (args 0)) = some q) (fits : int32 (args 2) ≤ c.MAX_LEN_MESSAGE)
    (room : (k.store.mq q).num_written ≠ c.MAX_NUM_MESSAGES) (spent : k.free .message = []) {ending : Ending}
    (ends : Write c r (k.enter r DSOS_CALL_WRITE_MQ args) ending) : ending = .fault .insertNull := by
  have size : (k.enter r DSOS_CALL_WRITE_MQ args).intArg r 2 = int32 (args 2) := intArg_enter (by decide)
  have named : (k.enter r DSOS_CALL_WRITE_MQ args).queue
      ((k.enter r DSOS_CALL_WRITE_MQ args).intArg r 0) = some q := (queue_enter (by decide)).trans found
  cases ends with
  | tooLong long =>
    rw [size] at long
    omega
  | unknown _ absent => cases named.symm.trans absent
  | waits _ same full =>
    cases named.symm.trans same
    exact absurd full room
  | noBlock => rfl
  | nullUser _ _ _ block | writes _ _ _ block =>
    have block : (k.free .message).head? = some _ := block
    simp [spent] at block

end

/-- As many blocks are gone as writes were accepted, and the kernel stops at the write after the last block. -/
structure Consumed (c : Config) (past : List Transition) (m : Kernel) : Prop where
  count : (m.data.pools .message).size + past.countP (Transition.Posts c) = c.num_items .message
  goes_on : ∀ q args, m.store.running ≠ none → WritesTo c m q args → (0 < int32 (args 2) → args 1 ≠ 0) →
    past.countP (Transition.Posts c) < c.num_items .message → ∃ m', Step c m (.syscall DSOS_CALL_WRITE_MQ args) m'
  stops : ∀ q args, m.store.running ≠ none → WritesTo c m q args →
    past.countP (Transition.Posts c) = c.num_items .message → Halts c m (.syscall DSOS_CALL_WRITE_MQ args) .insertNull

theorem History.messages_taken {c : Constants} {past : List Transition} {m : Kernel} (run : History c.toConfig past m) :
    (m.data.pools .message).size + past.countP (Transition.Posts c.toConfig) = c.num_items .message := by
  induction run with
  | start started =>
    obtain ⟨k, shows, fresh⟩ := started.shows
    have full := shows.sound.outstanding_add_free .message
    have none_out : k.outstanding c.toConfig .message = ∅ := by
      apply Finset.eq_empty_of_forall_notMem
      intro x member
      obtain ⟨alive, pool⟩ := Scene.mem_outstanding.mp member
      rw [(fresh.live x).mp alive] at pool
      cases pool
    rw [none_out, Finset.card_empty] at full
    rw [shows.size]
    simpa using full
  | @step m m' e past run step ih =>
    obtain ⟨k, shows, inv, counted⟩ := run.reachable.shows
    obtain ⟨k', shows', reacts⟩ := step.reacts shows inv
    have fewer := reacts.free_message m' shows inv counted
    rw [shows.size] at ih
    rw [shows'.size, List.countP_cons]
    simp only [decide_eq_true_eq]
    push_cast at ih ⊢
    split at fewer
    next posts =>
      rw [if_pos posts]
      omega
    next idle =>
      rw [if_neg idle]
      omega

section
variable {c : Config} {m : Kernel} {k : Scene} {q : Addr} {args : Nat → Int}

theorem Shows.write_answered (shows : Shows c m k) (inv : Coherent c k.store.running none k)
    (somebody : m.store.running ≠ none) (accepts : WritesTo c m q args) (buffer : 0 < int32 (args 2) → args 1 ≠ 0)
    (left : k.free .message ≠ []) : ∃ m', Step c m (.syscall DSOS_CALL_WRITE_MQ args) m' := by
  obtain ⟨r, runs⟩ := Option.ne_none_iff_exists'.mp somebody
  obtain ⟨found, fits, room⟩ := shows.writesTo.mp accepts
  rw [shows.store] at runs
  obtain ⟨x, rest, free⟩ := List.exists_cons_of_ne_nil left
  have top : (k.free .message).head? = some x := by rw [free, List.head?_cons]
  have null : ¬ (0 < int32 (args 2) ∧ args 1 = 0) := fun null => buffer null.1 null.2
  have handler : Handles c DSOS_CALL_WRITE_MQ = some (Write c) := rfl
  rcases shows.handled inv runs handler args with
    ⟨m', k', step, -⟩ | ⟨stop, -, stopped⟩ | ⟨k', ends, idle⟩ | loops
  · exact ⟨m', step⟩
  · rcases write_room found fits room top stopped with ⟨here, -⟩ | ⟨-, j, -, same⟩
    · exact absurd here null
    · cases same
  · rcases write_room found fits room top ends with ⟨here, -⟩ | ⟨-, j, wakes, same⟩
    · exact absurd here null
    · cases same
      have still : j.store.running = k.store.running := wakes.running
      cases (still.symm.trans idle).symm.trans runs
  · rcases write_room found fits room top loops with ⟨here, -⟩ | ⟨-, j, -, same⟩
    · exact absurd here null
    · cases same

theorem Shows.write_stops (shows : Shows c m k) (inv : Coherent c k.store.running none k)
    (somebody : m.store.running ≠ none) (accepts : WritesTo c m q args) (spent : k.free .message = []) :
    Halts c m (.syscall DSOS_CALL_WRITE_MQ args) .insertNull := by
  obtain ⟨r, runs⟩ := Option.ne_none_iff_exists'.mp somebody
  obtain ⟨found, fits, room⟩ := shows.writesTo.mp accepts
  rw [shows.store] at runs
  have handler : Handles c DSOS_CALL_WRITE_MQ = some (Write c) := rfl
  rcases shows.handled inv runs handler args with
    ⟨m', k', step, -, ends⟩ | ⟨stop, halts, stopped⟩ | ⟨k', ends, -⟩ | loops
  · cases Write.exhausted found fits room spent ends
  · cases Write.exhausted found fits room spent stopped
    exact halts
  · cases Write.exhausted found fits room spent ends
  · cases Write.exhausted found fits room spent loops

end

/-- The blocks of the messages are used up, one by each write that is accepted, over any run. -/
theorem messages_consumed (c : Constants) {past : List Transition} {m : Kernel} (run : History c.toConfig past m) :
    Consumed c.toConfig past m := by
  have count := run.messages_taken
  obtain ⟨k, shows, inv, -⟩ := run.reachable.shows
  refine ⟨count, fun q args somebody accepts buffer left => ?_, fun q args somebody accepts spent => ?_⟩
  · refine shows.write_answered inv somebody accepts buffer fun empty => ?_
    rw [shows.size, empty, List.length_nil] at count
    omega
  · refine shows.write_stops inv somebody accepts (List.eq_nil_of_length_eq_zero ?_)
    rw [shows.size] at count
    omega

/-- The first process creates a queue, writes to it and reads the message back. -/
def message_read_back : Observed always fun m => m.store.running = some (block .pcb 0) ∧
    m.list (.messages (block .message_queue 0)) = [] ∧ (m.data.pools .message).size + 1 = constants.num_items .message :=
  observe always [.syscall DSOS_CALL_OPEN_MQ (arguments [5, 1]), .syscall DSOS_CALL_WRITE_MQ (arguments [5, 100, 3]),
    .syscall DSOS_CALL_READ_MQ (arguments [5, 200, 64])] (by decide +kernel)

theorem messages_consumed_one : ∃ past m, History constants.toConfig past m ∧
    m.list (.messages (block .message_queue 0)) = [] ∧ past.countP (Transition.Posts constants.toConfig) = 1 := by
  obtain ⟨m, reached, runs, empty, left⟩ := message_read_back
  obtain ⟨past, run⟩ := reached.reachable.history
  have count := (messages_consumed constants run).count
  exact ⟨past, m, run, empty, by omega⟩

end DisastrOS
