import DisastrOS.Conservation
import DisastrOS.Delivery
import DisastrOS.Refinement.Fifo
import DisastrOS.Transfer

/-! A message queue is a first-in first-out buffer, from its creation to its destruction.

The writes of the other processes, the loops that wake them and the queues that
share the pool of messages come in between.
-/

set_option autoImplicit false

namespace DisastrOS

open Refinement
open Relation (ReflTransGen)

/-- The bytes of user memory from an address on. -/
def bytes (memory : Int → UInt8) (address : Int) (n : Nat) : List UInt8 :=
  (List.range n).map fun i : Nat => memory (address + i)

/-- The length and the bytes of a message. -/
def Store.content (s : Store) (x : Addr) : Int × List UInt8 :=
  ((s.message x).length, (List.range (s.message x).length.toNat).map (s.message x).message)

/-- The messages linked in a queue, from the first to the last. -/
def Kernel.contents (m : Kernel) (q : Addr) : List (Int × List UInt8) :=
  (m.list (.messages q)).map m.store.content

/-- A call of `read` with these arguments finds the message `x` in `q`, and reaches the copy loop. -/
def ReadsFrom (m : Kernel) (q : Addr) (args : Nat → Int) (x : Addr) : Prop :=
  m.queue (int32 (args 0)) = some q ∧ x ∈ (m.list (.messages q)).head? ∧
    (m.store.message x).length ≤ int32 (args 2)

/-- A call of `write` with these arguments finds `q` with room, and reaches `Message_alloc`. -/
def WritesTo (c : Config) (m : Kernel) (q : Addr) (args : Nat → Int) : Prop :=
  m.queue (int32 (args 0)) = some q ∧ int32 (args 2) ≤ c.MAX_LEN_MESSAGE ∧
    (m.store.mq q).num_written ≠ c.MAX_NUM_MESSAGES

instance (c : Config) (m : Kernel) (q : Addr) (args : Nat → Int) : Decidable (WritesTo c m q args) := by
  unfold WritesTo
  infer_instance

namespace Transition

/-- What the step takes out of `q`: the length that a `read` returns and the bytes in its buffer. -/
def taken (t : Transition) (q : Addr) : Option (Int × List UInt8) :=
  match t.event with
  | .syscall num args =>
    if num = DSOS_CALL_READ_MQ ∧ t.before.queue (int32 (args 0)) = some q ∧
        ∃ x ∈ (t.before.list (.messages q)).head?, (t.before.store.message x).length ≤ int32 (args 2) then
      t.before.store.running.map fun r =>
        ((t.after.store.pcb r).syscall_retvalue,
          bytes t.after.store.memory (args 1) (t.after.store.pcb r).syscall_retvalue.toNat)
    else none
  | _ => none

/-- What the step puts into `q`: the length and the bytes of the buffer that a `write` is called with. -/
def given (c : Config) (t : Transition) (q : Addr) : Option (Int × List UInt8) :=
  match t.event with
  | .syscall num args =>
    if num = DSOS_CALL_WRITE_MQ ∧ WritesTo c t.before q args then
      some (int32 (args 2), bytes t.before.store.memory (args 1) (int32 (args 2)).toNat)
    else none
  | _ => none

end Transition

/-- The steps since a call of open created `q`, as long as it exists. -/
inductive Life (c : Config) (q : Addr) : List Transition → Kernel → Prop where
  | opened {m m' : Kernel} {args : Nat → Int} : Reachable c m → q ∉ m.list .mq_list →
      Step c m (.syscall DSOS_CALL_OPEN_MQ args) m' → q ∈ m'.list .mq_list → Life c q [] m'
  | step {m m' : Kernel} {e : Event} {past : List Transition} : Life c q past m → Step c m e m' →
      q ∈ m'.list .mq_list → Life c q (past ++ [⟨m, e, m'⟩]) m'

/-- The read delivers the oldest message, byte by byte, and touches nothing else of user memory. -/
def Transition.Copies (t : Transition) (x r : Addr) (args : Nat → Int) : Prop :=
  t.before.store.running = some r ∧
    (t.after.store.pcb r).syscall_retvalue = (t.before.store.message x).length ∧
    ∀ address, t.after.store.memory address =
      if args 1 ≤ address ∧ address < args 1 + (t.before.store.message x).length then
        (t.before.store.message x).message (address - args 1).toNat
      else t.before.store.memory address

/-- The queue `q` has been first in, first out. -/
structure FirstInFirstOut (c : Config) (q : Addr) (past : List Transition) (m : Kernel) : Prop where
  order : past.filterMap (·.taken q) ++ m.contents q = past.filterMap (·.given c q)
  copies : ∀ t ∈ past, ∀ args x, t.event = .syscall DSOS_CALL_READ_MQ args → ReadsFrom t.before q args x →
    ∃ r, t.Copies x r args
  others : ∀ t ∈ past, t.taken q = none → t.given c q = none → t.after.contents q = t.before.contents q

section
variable {c : Config} {m m' : Kernel} {k k' : Scene} {tag : Tag} {P P' : Phase} {q r : Addr} {e : Event} {args : Nat → Int}

/-- The list of `q` and its messages are `xs`, with their data as in the store `s`. -/
structure Scene.Keeps (k : Scene) (q : Addr) (xs : List Addr) (s : Store) : Prop where
  seq : k.seq (.messages q) = xs
  data : ∀ x ∈ xs, k.store.message x = s.message x

theorem Scene.Keeps.contents {xs : List Addr} (keeps : k'.Keeps q xs k.store) (before : k.seq (.messages q) = xs) :
    (k'.seq (.messages q)).map k'.store.content = (k.seq (.messages q)).map k.store.content := by
  rw [keeps.seq, before]
  apply List.map_congr_left
  intro x there
  rw [Store.content, Store.content, keeps.data x there]

/-- Only a step that takes from `q` or posts to it touches its messages. -/
theorem Move.keeps (move : Move c tag P P') (inv : P.Coherent c) (listed : P.scene.place q = .linked .mq_list)
    (untaken : ∀ x, tag ≠ .taken q x) (unposted : ∀ x, tag ≠ .posted q x) {xs : List Addr} {s : Store}
    (keeps : P.scene.Keeps q xs s) : P'.scene.Keeps q xs s := by
  obtain ⟨seq, data⟩ := keeps
  have fresh {y : Addr} {o : Pool} (top : (P.scene.free o).head? = some y) : ∀ x ∈ xs, x ≠ y :=
    fun x there => inv.sound.ne_top top (inv.sound.mem_seq.mp (seq ▸ there))
  cases move with
  | enqueue which ptr calls found reads writes =>
    cases which
    · exact ⟨by simpa [Scene.enqueue, Scene.block] using seq, by simpa [Scene.enqueue, Scene.block] using data⟩
    · exact ⟨by simpa [Scene.enqueue, Scene.block] using seq, by simpa [Scene.enqueue, Scene.block] using data⟩
  | @newQueue k ru go q' id absent top =>
    -- a new queue clears the lists of its own block only
    have other : q ≠ q' := inv.sound.ne_top top listed
    exact ⟨by simpa [Scene.newQueue, other] using seq, by simpa [Scene.newQueue] using data⟩
  | @take k ru go q' x there =>
    have other : q ≠ q' := by
      rintro rfl
      exact untaken x rfl
    exact ⟨by simpa [other] using seq, by simpa using data⟩
  | @post k ru go q' x length write_buffer block fits =>
    have other : q ≠ q' := by
      rintro rfl
      exact unposted x rfl
    refine ⟨by simpa [Scene.post, other] using seq, fun y there => ?_⟩
    simpa [Scene.post, fresh block y there] using data y there
  | _ =>
    refine ⟨?_, ?_⟩
    · simpa [Scene.tick, Scene.enter, Scene.block, Scene.startTimer, Scene.dispatch, Scene.wakeSleeper,
        Scene.rotate, Scene.reparent, Scene.bury, Scene.destroy, Scene.resumeParent,
        Scene.dropDescriptor, Scene.newResource, Scene.finishRead, Scene.finishWrite,
        Scene.openDescriptor, Scene.wakeWaiter, Scene.wakeWriter, Scene.reap, Scene.vanish, Scene.restart, Scene.newChild] using seq
    · simpa [Scene.tick, Scene.enter, Scene.block, Scene.startTimer, Scene.dispatch, Scene.wakeSleeper,
        Scene.rotate, Scene.reparent, Scene.bury, Scene.destroy, Scene.resumeParent,
        Scene.dropDescriptor, Scene.newResource, Scene.finishRead, Scene.finishWrite,
        Scene.openDescriptor, Scene.wakeWaiter, Scene.wakeWriter, Scene.reap, Scene.vanish, Scene.restart, Scene.newChild] using data

theorem Does.destroyed {j : Scene} (does : Does c k e j (.destroyed q)) :
    ∃ args, e = .syscall DSOS_CALL_DESTROY_MQ args := by
  cases does with
  | destroys args => exact ⟨args, rfl⟩

theorem Does.takes_from {j : Scene} {x : Addr} (shows : Shows c m k) (does : Does c k e j (.taken q x)) :
    ∃ args, e = .syscall DSOS_CALL_READ_MQ args ∧ ReadsFrom m q args x := by
  cases does with
  | takes args runs found first fits =>
    refine ⟨args, rfl, ?_, ?_, ?_⟩
    · rwa [shows.queue]
    · rwa [shows.list]
    · rwa [shows.store]

theorem Does.posts_to {j : Scene} {x : Addr} (shows : Shows c m k) (does : Does c k e j (.posted q x)) :
    ∃ args, e = .syscall DSOS_CALL_WRITE_MQ args ∧ m.queue (int32 (args 0)) = some q ∧
      (m.store.mq q).num_written ≠ c.MAX_NUM_MESSAGES := by
  cases does with
  | posts args runs found room block =>
    refine ⟨args, rfl, ?_, ?_⟩
    · rwa [shows.queue]
    · rwa [shows.store]

theorem Reacts.keeps (shows : Shows c m k) (inv : Coherent c k.store.running none k) (counted : Counted c k)
    (listed : k.place q = .linked .mq_list) (reacts : Reacts c k e (.done () k'))
    (unread : ∀ args x, e = .syscall DSOS_CALL_READ_MQ args → ¬ ReadsFrom m q args x)
    (unwritten : ∀ args, e = .syscall DSOS_CALL_WRITE_MQ args → ¬ WritesTo c m q args) :
    k'.Keeps q (k.seq (.messages q)) k.store := by
  have start : k.Keeps q (k.seq (.messages q)) k.store := ⟨rfl, fun _ _ => rfl⟩
  -- the one call that may take `q` out of its list leaves the messages where they are
  by_cases destroys : ∃ args, e = .syscall DSOS_CALL_DESTROY_MQ args
  · obtain ⟨args, rfl⟩ := destroys
    obtain ⟨r, runs⟩ := reacts.runs
    have handler : Handles c DSOS_CALL_DESTROY_MQ = some DestroyMessageQueue := rfl
    cases reacts.handler_ends handler runs with
    | unknown absent => exact ⟨by simp [Scene.enter], by simp [Scene.enter]⟩
    | used found open_ => exact ⟨by simp [Scene.enter], by simp [Scene.enter]⟩
    | destroyed found closed => exact ⟨by simp [Scene.destroy, Scene.enter], by simp [Scene.destroy, Scene.enter]⟩
  -- the moves of a `write` do not say that the length fits, so one that does not is looked at first
  by_cases long : ∃ args, e = .syscall DSOS_CALL_WRITE_MQ args ∧ c.MAX_LEN_MESSAGE < int32 (args 2)
  · obtain ⟨args, rfl, long⟩ := long
    obtain ⟨r, runs⟩ := reacts.runs
    have size : (k.enter r DSOS_CALL_WRITE_MQ args).intArg r 2 = int32 (args 2) := intArg_enter (by decide)
    have handler : Handles c DSOS_CALL_WRITE_MQ = some (Write c) := rfl
    cases reacts.handler_ends handler runs with
    | tooLong long => exact ⟨by simp [Scene.enter], by simp [Scene.enter]⟩
    | unknown fits => omega
    | waits fits => omega
    | writes fits => omega
  refine ((reacts.chain inv counted).keeps
    (J := fun P => P.scene.place q = .linked .mq_list ∧ P.scene.Keeps q (k.seq (.messages q)) k.store) inv
    (fun does inv' move holds => ?_) ⟨listed, start⟩).2.2
  refine ⟨move.queue_stays inv' ?_ holds.1, move.keeps inv' holds.1 (fun x => ?_) (fun x => ?_) holds.2⟩
  · rintro rfl
    exact destroys does.destroyed
  · rintro rfl
    obtain ⟨args, call, reads⟩ := does.takes_from shows
    exact unread args x call reads
  · rintro rfl
    obtain ⟨args, call, found, room⟩ := does.posts_to shows
    exact unwritten args call ⟨found, not_lt.mp fun more => long ⟨args, call, more⟩, room⟩

theorem Reacts.reads {x : Addr} (shows : Shows c m k) (shows' : Shows c m' k') (inv : Coherent c k.store.running none k)
    (reads : ReadsFrom m q args x) (reacts : Reacts c k (.syscall DSOS_CALL_READ_MQ args) (.done () k')) :
    (∃ r, Transition.Copies ⟨m, .syscall DSOS_CALL_READ_MQ args, m'⟩ x r args) ∧
      m.contents q = m.store.content x :: m'.contents q := by
  obtain ⟨found, first, fits⟩ := reads
  obtain ⟨r, runs⟩ := reacts.runs
  rw [shows.queue] at found
  rw [shows.list] at first
  rw [shows.store] at fits
  have handler : Handles c DSOS_CALL_READ_MQ = some Read := rfl
  rcases read_message found first (reacts.handler_ends handler runs) with ⟨long, -⟩ | ⟨-, ⟨-, same⟩ | ⟨user, j, wakes, same⟩⟩
  · omega
  · cases same
  · cases same
    have took := shows.took inv runs first wakes shows'
    rw [← shows.store] at runs
    refine ⟨⟨r, runs, took.value, took.copied⟩, ?_⟩
    have same (y : Addr) : m'.store.content y = m.store.content y := by
      rw [Store.content, Store.content, took.message]
    rw [Kernel.contents, Kernel.contents, took.left, List.map_cons, funext same]

theorem Reacts.writes (shows : Shows c m k) (shows' : Shows c m' k') (inv : Coherent c k.store.running none k)
    (writes : WritesTo c m q args) (reacts : Reacts c k (.syscall DSOS_CALL_WRITE_MQ args) (.done () k')) :
    m'.contents q = m.contents q ++ [(int32 (args 2), bytes m.store.memory (args 1) (int32 (args 2)).toNat)] := by
  obtain ⟨found, fits, room⟩ := writes
  obtain ⟨r, runs⟩ := reacts.runs
  rw [shows.queue] at found
  rw [shows.store] at room
  have handler : Handles c DSOS_CALL_WRITE_MQ = some (Write c) := rfl
  have ends : Write c r (k.enter r DSOS_CALL_WRITE_MQ args) (.done () k') := reacts.handler_ends handler runs
  obtain ⟨x, top⟩ := write_block found fits room ends
  rcases write_room found fits room top ends with ⟨-, same⟩ | ⟨user, j, wakes, same⟩
  · cases same
  · cases same
    have wrote := shows.wrote inv runs top fits wakes shows'
    have kept : ∀ y ∈ m.list (.messages q), m'.store.content y = m.store.content y := by
      intro y there
      -- the block of the new message was free, so it is none of those in the queue
      have old : y ≠ x := inv.sound.ne_top top (shows.mem_list.mp there)
      rw [Store.content, Store.content, wrote.kept y old]
    have added : m'.store.content x =
        (int32 (args 2), bytes m.store.memory (args 1) (int32 (args 2)).toNat) := by
      rw [Store.content, wrote.length, bytes]
      congr 1
      apply List.map_congr_left
      intro i upTo
      have small := List.mem_range.mp upTo
      exact wrote.copied i (by omega)
    rw [Kernel.contents, Kernel.contents, wrote.grown, List.map_append, List.map_congr_left kept, List.map_singleton,
      added]

theorem Reacts.opened (shows : Shows c m k) (shows' : Shows c m' k') (absent : q ∉ m.list .mq_list)
    (present : q ∈ m'.list .mq_list) (reacts : Reacts c k (.syscall DSOS_CALL_OPEN_MQ args) (.done () k')) :
    m'.contents q = [] := by
  obtain ⟨r, runs⟩ := reacts.runs
  rw [shows.list] at absent
  rw [shows'.list] at present
  have handler : Handles c DSOS_CALL_OPEN_MQ = some OpenMessageQueue := rfl
  rw [Kernel.contents, shows'.list, List.map_eq_nil_iff]
  cases reacts.handler_ends handler runs with
  | taken create found => exact absurd present absent
  | @creates q' ending create unused top opens =>
    cases opens with
    | refused full =>
      have new : q ∈ k.seq .mq_list ++ [q'] := by simpa [Scene.newQueue, Scene.enter] using present
      obtain rfl := List.mem_singleton.mp ((List.mem_append.mp new).resolve_left absent)
      simp [Scene.newQueue]
    | opened des unspent ptr =>
      have new : q ∈ k.seq .mq_list ++ [q'] := by
        simpa [Scene.openDescriptor, Scene.newQueue, Scene.enter] using present
      obtain rfl := List.mem_singleton.mp ((List.mem_append.mp new).resolve_left absent)
      simp [Scene.openDescriptor, Scene.newQueue]
  | unknown old unused => exact absurd present absent
  | shared exclusive found used => exact absurd present absent
  | opens old found free opens =>
    cases opens with
    | refused full => exact absurd present absent
    | opened des unspent ptr =>
      exact absurd (show q ∈ k.seq .mq_list by simpa [Scene.openDescriptor, Scene.enter] using present) absent

end

namespace Transition
variable {c : Config} {t : Transition} {q x r : Addr} {args : Nat → Int}

theorem taken_none (unread : ∀ args x, t.event = .syscall DSOS_CALL_READ_MQ args → ¬ ReadsFrom t.before q args x) :
    t.taken q = none := by
  unfold taken
  split
  · next num args call =>
    apply if_neg
    intro reads
    obtain ⟨rfl, found, x, first, fits⟩ := reads
    exact unread args x call ⟨found, first, fits⟩
  · rfl

theorem given_none (unwritten : ∀ args, t.event = .syscall DSOS_CALL_WRITE_MQ args → ¬ WritesTo c t.before q args) :
    t.given c q = none := by
  unfold given
  split
  · next num args call =>
    apply if_neg
    intro writes
    obtain ⟨rfl, writes⟩ := writes
    exact unwritten args call writes
  · rfl

theorem Copies.taken (copies : t.Copies x r args) (call : t.event = .syscall DSOS_CALL_READ_MQ args)
    (reads : ReadsFrom t.before q args x) : t.taken q = some (t.before.store.content x) := by
  obtain ⟨before, e, after⟩ := t
  cases call
  obtain ⟨runs, length, copied⟩ := copies
  obtain ⟨found, first, fits⟩ := reads
  have buffer : bytes after.store.memory (args 1) (before.store.message x).length.toNat =
      (List.range (before.store.message x).length.toNat).map (before.store.message x).message := by
    apply List.map_congr_left
    intro i upTo
    have inside : args 1 ≤ args 1 + i ∧ args 1 + i < args 1 + (before.store.message x).length := by
      have := List.mem_range.mp upTo
      omega
    rw [copied, if_pos inside, show (args 1 + i - args 1).toNat = i by omega]
  refine (if_pos ⟨rfl, found, x, first, fits⟩).trans ?_
  rw [runs, Option.map_some, length, buffer, Store.content]

theorem given_some (call : t.event = .syscall DSOS_CALL_WRITE_MQ args) (writes : WritesTo c t.before q args) :
    t.given c q = some (int32 (args 2), bytes t.before.store.memory (args 1) (int32 (args 2)).toNat) := by
  obtain ⟨before, e, after⟩ := t
  cases call
  exact if_pos ⟨rfl, writes⟩

end Transition

section
variable {c : Config} {m m' : Kernel} {q : Addr} {e : Event} {past : List Transition}

/-- Every step passes messages through the queue as a buffer does. -/
theorem Step.passes {k : Scene} (shows : Shows c m k) (inv : Coherent c k.store.running none k) (counted : Counted c k)
    (listed : k.place q = .linked .mq_list) (step : Step c m e m') :
    Passes (m.contents q) ((⟨m, e, m'⟩ : Transition).given c q) ((⟨m, e, m'⟩ : Transition).taken q) (m'.contents q) ∧
      ∀ args x, e = .syscall DSOS_CALL_READ_MQ args → ReadsFrom m q args x →
        ∃ r, (⟨m, e, m'⟩ : Transition).Copies x r args := by
  obtain ⟨k', shows', reacts⟩ := step.reacts shows inv
  by_cases reads : ∃ args x, e = .syscall DSOS_CALL_READ_MQ args ∧ ReadsFrom m q args x
  · obtain ⟨args, x, rfl, reads⟩ := reads
    obtain ⟨⟨r, copies⟩, removed⟩ := reacts.reads shows shows' inv reads
    have given := Transition.given_none (c := c) (q := q)
      (t := ⟨m, .syscall DSOS_CALL_READ_MQ args, m'⟩) fun args' call => nomatch call
    rw [given, copies.taken rfl reads, passes_taken]
    refine ⟨removed, fun args' x' call reads' => ?_⟩
    cases call
    cases Option.mem_unique reads.2.1 reads'.2.1
    exact ⟨r, copies⟩
  have unread (args : Nat → Int) (x : Addr) (call : e = .syscall DSOS_CALL_READ_MQ args) : ¬ ReadsFrom m q args x :=
    fun reads' => reads ⟨args, x, call, reads'⟩
  refine ⟨?_, fun args x call reads' => absurd reads' (unread args x call)⟩
  rw [Transition.taken_none unread]
  by_cases writes : ∃ args, e = .syscall DSOS_CALL_WRITE_MQ args ∧ WritesTo c m q args
  · obtain ⟨args, rfl, writes⟩ := writes
    rw [Transition.given_some rfl writes, passes_given]
    exact (reacts.writes shows shows' inv writes).symm
  · have unwritten (args : Nat → Int) (call : e = .syscall DSOS_CALL_WRITE_MQ args) : ¬ WritesTo c m q args :=
      fun writes' => writes ⟨args, call, writes'⟩
    rw [Transition.given_none unwritten, passes_none, Kernel.contents, Kernel.contents, shows.list, shows.store,
      shows'.list, shows'.store]
    exact ((reacts.keeps shows inv counted listed unread unwritten).contents rfl).symm

end

section
variable {c : Constants} {m : Kernel} {q : Addr} {past : List Transition}

theorem Life.reachable (life : Life c.toConfig q past m) : Reachable c.toConfig m ∧ q ∈ m.list .mq_list := by
  induction life with
  | opened reach absent step present => exact ⟨.step reach step, present⟩
  | step life step present ih => exact ⟨.step ih.1 step, present⟩

theorem Life.shows (life : Life c.toConfig q past m) : ∃ k, Shows c.toConfig m k ∧
    Coherent c.toConfig k.store.running none k ∧ Counted c.toConfig k ∧ k.place q = .linked .mq_list := by
  obtain ⟨reach, present⟩ := life.reachable
  obtain ⟨k, shows, inv, counted⟩ := reach.shows
  rw [shows.list] at present
  exact ⟨k, shows, inv, counted, inv.sound.mem_seq.mp present⟩

/-- What each step gives to the queue and takes from it. -/
def passed (c : Config) (q : Addr) (past : List Transition) :
    List (Option (Int × List UInt8) × Option (Int × List UInt8)) :=
  past.map fun t => (t.given c q, t.taken q)

theorem Life.passing (life : Life c.toConfig q past m) : Passing [] (passed c.toConfig q past) (m.contents q) := by
  induction life with
  | opened reach absent step present =>
    obtain ⟨k, shows, inv, -⟩ := reach.shows
    obtain ⟨k', shows', reacts⟩ := step.reacts shows inv
    rw [reacts.opened shows shows' absent present]
    exact .start
  | step life step present ih =>
    obtain ⟨k, shows, inv, counted, listed⟩ := life.shows
    rw [passed, List.map_append]
    exact .step ih (step.passes shows inv counted listed).1

theorem Life.order (life : Life c.toConfig q past m) :
    past.filterMap (·.taken q) ++ m.contents q = past.filterMap (·.given c.toConfig q) := by
  have conserved := life.passing.conserves
  rw [passed, List.filterMap_map, List.filterMap_map, List.nil_append] at conserved
  exact conserved.symm

end

/-- Every queue is first in, first out from its creation to its destruction, over every run. -/
theorem first_in_first_out (c : Constants) {q : Addr} {past : List Transition} {m : Kernel}
    (life : Life c.toConfig q past m) : FirstInFirstOut c.toConfig q past m := by
  refine ⟨life.order, ?_, ?_⟩
  · induction life with
    | opened => simp
    | step life step present ih =>
      obtain ⟨k, shows, inv, counted, listed⟩ := life.shows
      intro t there args x call reads
      rcases List.mem_append.mp there with earlier | last
      · exact ih t earlier args x call reads
      · obtain rfl := List.mem_singleton.mp last
        exact (step.passes shows inv counted listed).2 args x call reads
  · induction life with
    | opened => simp
    | step life step present ih =>
      obtain ⟨k, shows, inv, counted, listed⟩ := life.shows
      intro t there untaken ungiven
      rcases List.mem_append.mp there with earlier | last
      · exact ih t earlier untaken ungiven
      · obtain rfl := List.mem_singleton.mp last
        have passes := (step.passes shows inv counted listed).1
        rw [untaken, ungiven, passes_none] at passes
        exact passes.symm

/-- Three calls on a queue: messages of three bytes and of two bytes are written, and one is read. -/
def three_calls : Observed always fun m => block .message_queue 0 ∉ m.list .mq_list ∧
    ((trial_from constants.toConfig always [.syscall DSOS_CALL_OPEN_MQ (arguments [5, 1])] m).any fun m₁ =>
      block .message_queue 0 ∈ m₁.list .mq_list ∧
      ((trial_from constants.toConfig always [.syscall DSOS_CALL_WRITE_MQ (arguments [5, 100, 3])] m₁).any fun m₂ =>
        block .message_queue 0 ∈ m₂.list .mq_list ∧
        ((trial_from constants.toConfig always [.syscall DSOS_CALL_WRITE_MQ (arguments [5, 200, 2])] m₂).any fun m₃ =>
          block .message_queue 0 ∈ m₃.list .mq_list ∧
          ((trial_from constants.toConfig always [.syscall DSOS_CALL_READ_MQ (arguments [5, 300, 64])] m₃).any fun m₄ =>
            block .message_queue 0 ∈ m₄.list .mq_list ∧
              m₄.contents (block .message_queue 0) = [(2, [0, 0])]) = true) = true) = true) = true :=
  observe always [] (by decide +kernel)

theorem first_in_first_out_three : ∃ past m, past.length = 3 ∧
    Life constants.toConfig (block .message_queue 0) past m ∧ m.contents (block .message_queue 0) = [(2, [0, 0])] ∧
    FirstInFirstOut constants.toConfig (block .message_queue 0) past m := by
  obtain ⟨m, reach, absent, calls⟩ := three_calls
  obtain ⟨m₁, opens, present₁, calls⟩ := trial_step calls
  obtain ⟨m₂, writes, present₂, calls⟩ := trial_step calls
  obtain ⟨m₃, writes', present₃, calls⟩ := trial_step calls
  obtain ⟨m₄, reads, present₄, left⟩ := trial_step calls
  have life : Life constants.toConfig (block .message_queue 0) _ m₄ :=
    .step (.step (.step (.opened reach.reachable absent opens present₁) writes present₂) writes' present₃) reads present₄
  exact ⟨_, m₄, rfl, life, left, first_in_first_out constants life⟩

end DisastrOS
