import DisastrOS.Completion
import DisastrOS.Footprints
import DisastrOS.Refinement.Channel

/-! A message queue is a bounded channel, from its creation to its destruction.

The blocks, the wrappers and the scheduler are behind it: a user of the queue sees
the messages and who waits, and these change as those of a channel do.
-/

set_option autoImplicit false

namespace DisastrOS

open Refinement

/-- What a queue is to those who use it. -/
def Kernel.channel (m : Kernel) (q : Addr) : Channel (Int × List UInt8) Addr where
  items := m.contents q
  receivers := m.waiters (.waiting_to_read q)
  senders := m.waiters (.waiting_to_write q)

/-- What the step does to the channel of `q`. -/
def Transition.act (c : Config) (t : Transition) (q : Addr) : Option (Channel.Act (Int × List UInt8) Addr) :=
  match t.event with
  | .syscall num args =>
    if num = DSOS_CALL_READ_MQ ∧ t.before.queue (int32 (args 0)) = some q then
      if t.before.list (.messages q) = [] then t.before.store.running.map .awaitItem
      else (t.taken q).map .receive
    else if num = DSOS_CALL_WRITE_MQ ∧ t.before.queue (int32 (args 0)) = some q ∧
        int32 (args 2) ≤ c.MAX_LEN_MESSAGE then
      if (t.before.store.mq q).num_written = c.MAX_NUM_MESSAGES then t.before.store.running.map .awaitRoom
      else (t.given c q).map .send
    else none
  | _ => none

/-- The queue `q` has been a channel that holds `MAX_NUM_MESSAGES` messages. -/
structure IsChannel (c : Config) (q : Addr) (past : List Transition) (m : Kernel) : Prop where
  follows : ∀ t ∈ past, (t.before.channel q).Follows c.MAX_NUM_MESSAGES (t.act c q) (t.after.channel q)
  runs : Channel.Runs c.MAX_NUM_MESSAGES (past.filterMap (·.act c q)) (m.channel q)
  readers : m.waiters (.waiting_to_read q) =
    ((past.filterMap (·.act c q)).rtakeWhile fun a => a.sent.isNone).filterMap (·.receiver)
  writers : m.waiters (.waiting_to_write q) =
    ((past.filterMap (·.act c q)).rtakeWhile fun a => a.received.isNone).filterMap (·.sender)

section
variable {c : Config} {m m' : Kernel} {k k' : Scene} {h : Head} {waiting : Addr → Head} {num : Int} {q r : Addr} {e : Event}
  {args : Nat → Int}

theorem Kernel.waiters_same (same : m'.list h = m.list h)
    (names : ∀ w ∈ m.list h, m'.store.pcb_ptr w = m.store.pcb_ptr w) : m'.waiters h = m.waiters h := by
  rw [Kernel.waiters, Kernel.waiters, same]
  exact List.filterMap_congr names

theorem Transition.act_none (unread : ¬ (num = DSOS_CALL_READ_MQ ∧ m.queue (int32 (args 0)) = some q))
    (unwritten : ¬ (num = DSOS_CALL_WRITE_MQ ∧ m.queue (int32 (args 0)) = some q ∧ int32 (args 2) ≤ c.MAX_LEN_MESSAGE)) :
    (⟨m, .syscall num args, m'⟩ : Transition).act c q = none := by
  unfold Transition.act
  dsimp only
  rw [if_neg unread, if_neg unwritten]

theorem Reacts.waits_elsewhere (shows : Shows c m k) (shows' : Shows c m' k') (inv : Coherent c k.store.running none k)
    (listed : k.place q = .linked .mq_list) (which : WaitsIn waiting num) (reacts : Reacts c k e (.done () k'))
    (other : ∀ n args, e = .syscall n args → n ∈ [DSOS_CALL_READ_MQ, DSOS_CALL_WRITE_MQ] →
      m.queue (int32 (args 0)) ≠ some q) : m'.waiters (waiting q) = m.waiters (waiting q) := by
  -- who waits for this queue is woken by its reads and writes alone
  have quiet : (⟨m, e, m'⟩ : Transition).WakesNobody c q := fun args =>
    ⟨fun x call reads => absurd reads.1 (other _ _ call (by simp)),
      fun call writes => absurd writes.1 (other _ _ call (by simp))⟩
  have lasts := reacts.lasts shows inv listed which quiet
  apply Kernel.waiters_same
  · rw [shows'.list, shows.list]
    cases reacts with
    | user memory => rfl
    | outOfRange running range => rfl
    | unknown running range absent => rfl
    | @handled n args r _ H running handler ends logged =>
      have stays := handler_stays shows shows' inv running handler ends
      have same : m'.list (waiting q) = m.list (waiting q) := by
        refine stays.lists _ (fun here => ?_) fun o owner => ?_
        · cases which with
          | read | write => exact other n args rfl here.1 here.2
        · have mine : o = q := by cases which <;> cases owner <;> rfl
          rw [mine, shows.allocated]
          exact inv.sound.live listed
      rwa [shows'.list, shows.list] at same
    | @tick r _ running schedules =>
      refine schedules.within.lists _ fun here => ?_
      rcases here with here | here | here <;> cases which <;> cases here
    | proceeds leaves =>
      cases leaves with
      | resumes running set => rfl
      | restarts idle pcb unspent => cases which <;> simp [Scene.restart]
  · intro w there
    rw [shows'.store, shows.store]
    rw [shows.list] at there
    exact (lasts w there).2

theorem Reacts.elsewhere (shows : Shows c m k) (shows' : Shows c m' k') (inv : Coherent c k.store.running none k)
    (counted : Counted c k) (listed : k.place q = .linked .mq_list) (reacts : Reacts c k e (.done () k'))
    (other : ∀ n args, e = .syscall n args → n ∈ [DSOS_CALL_READ_MQ, DSOS_CALL_WRITE_MQ] →
      m.queue (int32 (args 0)) ≠ some q) : m'.channel q = m.channel q := by
  have messages : m'.contents q = m.contents q := by
    rw [Kernel.contents, Kernel.contents, shows.list, shows.store, shows'.list, shows'.store]
    exact (reacts.keeps shows inv counted listed (fun args x call reads => other _ _ call (by simp) reads.1)
      fun args call writes => other _ _ call (by simp) writes.1).contents rfl
  rw [Kernel.channel, Kernel.channel, messages, reacts.waits_elsewhere shows shows' inv listed .read other,
    reacts.waits_elsewhere shows shows' inv listed .write other]

theorem Shows.same_channel {value : Int} (shows : Shows c m k) (shows' : Shows c m' ((k.enter r num args).answer r value)) :
    m'.channel q = m.channel q := by
  have waiters (h : Head) : m'.waiters h = m.waiters h := by
    apply Kernel.waiters_same
    · rw [shows'.list, shows.list]
      rfl
    · intro w there
      rw [shows'.store, shows.store]
      rfl
  have contents : m'.contents q = m.contents q := by
    rw [Kernel.contents, Kernel.contents, shows.list, shows.store, shows'.list, shows'.store]
    rfl
  rw [Kernel.channel, Kernel.channel, waiters, waiters, contents]

theorem Suspend.joins {n : Int} (shows : Shows c m k) (shows' : Shows c m' k') (inv : Coherent c k.store.running none k)
    (which : WaitsIn waiting num) (ends : Suspend r (some q) waiting (k.enter r n args) (.done () k')) :
    m'.contents q = m.contents q ∧ m'.waiters (waiting q) = m.waiters (waiting q) ++ [r] ∧
      ∀ waiting' num', WaitsIn waiting' num' → waiting' q ≠ waiting q → m'.waiters (waiting' q) = m.waiters (waiting' q) := by
  cases ends with
  | @suspended w _ n ptr found ready =>
    cases found
    have fresh {h : Head} {w' : Addr} (there : w' ∈ k.seq h) : w' ≠ w := inv.sound.ne_top ptr (inv.sound.mem_seq.mp there)
    have names {h : Head} {w' : Addr} (there : w' ∈ m.list h) : m'.store.pcb_ptr w' = m.store.pcb_ptr w' := by
      rw [shows.list] at there
      rw [shows'.store, shows.store]
      simp [Scene.enqueue, Scene.block, Scene.dispatch, Scene.enter, fresh there]
    refine ⟨?_, ?_, fun waiting' num' which' other => ?_⟩
    · rw [Kernel.contents, Kernel.contents, shows.list, shows.store, shows'.list, shows'.store]
      cases which <;> rfl
    · have linked : m'.list (waiting q) = m.list (waiting q) ++ [w] := by
        rw [shows'.list, shows.list]
        cases which <;> simp [Scene.enqueue, Scene.block, Scene.dispatch, Scene.enter]
      have owner : m'.store.pcb_ptr w = some r := by
        rw [shows'.store]
        simp [Scene.enqueue, Scene.block, Scene.dispatch]
      rw [Kernel.waiters, Kernel.waiters, linked, List.filterMap_append, List.filterMap_congr fun w' => names]
      simp [owner]
    · apply Kernel.waiters_same
      · rw [shows'.list, shows.list]
        cases which <;> cases which' <;> simp_all [Scene.enqueue, Scene.block, Scene.dispatch, Scene.enter]
      · exact fun w' => names

theorem Reacts.read_follows (shows : Shows c m k) (shows' : Shows c m' k') (inv : Coherent c k.store.running none k)
    (found : m.queue (int32 (args 0)) = some q) (reacts : Reacts c k (.syscall DSOS_CALL_READ_MQ args) (.done () k')) :
    (m.channel q).Follows c.MAX_NUM_MESSAGES ((⟨m, .syscall DSOS_CALL_READ_MQ args, m'⟩ : Transition).act c q)
      (m'.channel q) := by
  obtain ⟨r, runs⟩ := reacts.runs
  have named : (k.enter r DSOS_CALL_READ_MQ args).queue
      ((k.enter r DSOS_CALL_READ_MQ args).intArg r 0) = some q :=
    (queue_enter (by decide)).trans (shows.queue _ ▸ found)
  have size : (k.enter r DSOS_CALL_READ_MQ args).intArg r 2 = int32 (args 2) := intArg_enter (by decide)
  have buffer : (k.enter r DSOS_CALL_READ_MQ args).arg r 1 = args 1 := arg_enter (by decide)
  have act : (⟨m, .syscall DSOS_CALL_READ_MQ args, m'⟩ : Transition).act c q =
      if m.list (.messages q) = [] then m.store.running.map .awaitItem
      else ((⟨m, .syscall DSOS_CALL_READ_MQ args, m'⟩ : Transition).taken q).map .receive := if_pos ⟨rfl, found⟩
  have handler : Handles c DSOS_CALL_READ_MQ = some Read := rfl
  have some_first {x : Addr} (first : (k.seq (.messages q)).head? = some x) : m.list (.messages q) ≠ [] := by
    rw [shows.list]
    exact List.ne_nil_of_mem (List.mem_of_mem_head? first)
  rw [act]
  cases reacts.handler_ends handler runs with
  | waits empty suspends =>
    have none_left : m.list (.messages q) = [] := by
      rw [shows.list]
      exact empty q named
    rw [named] at suspends
    obtain ⟨contents, readers, others⟩ := suspends.joins shows shows' inv .read
    rw [if_pos none_left, shows.store, runs]
    refine ⟨?_, ?_⟩
    · simp [Channel.Allows, Kernel.channel, Kernel.contents, none_left]
    · rw [Kernel.channel, contents, readers, others _ _ .write (by simp)]
      rfl
  | short found' first long =>
    cases named.symm.trans found'
    rw [if_neg (some_first first), Transition.taken_none]
    · exact shows.same_channel shows'
    · intro args' x call reads
      cases call
      have same := reads.2.1
      rw [shows.list] at same
      cases Option.mem_unique same first
      rw [size] at long
      have fits := reads.2.2
      rw [shows.store] at fits
      exact absurd long (not_lt.mpr fits)
  | @takes q' x j found' first fits wakes user =>
    cases named.symm.trans found'
    rw [size] at fits
    have reads : ReadsFrom m q args x := ⟨found, shows.list _ ▸ first, shows.store ▸ fits⟩
    rw [buffer] at shows'
    have took := shows.took inv runs first wakes shows'
    have copies : (⟨m, .syscall DSOS_CALL_READ_MQ args, m'⟩ : Transition).Copies x r args :=
      ⟨shows.store ▸ runs, took.value, took.copied⟩
    -- the message that was taken is the first of the contents
    have rest : m.contents q = m.store.content x :: m'.contents q := by
      have same (y : Addr) : m'.store.content y = m.store.content y := by
        rw [Store.content, Store.content, took.message]
      rw [Kernel.contents, Kernel.contents, took.left, List.map_cons, funext same]
    rw [if_neg (some_first first), copies.taken rfl reads]
    refine ⟨?_, ?_⟩
    · simp [Channel.Allows, Kernel.channel, rest]
    -- only the writers are woken by a read
    · have readers : m'.waiters (.waiting_to_read q) = m.waiters (.waiting_to_read q) := by
        apply Kernel.waiters_same (took.others _ (by simp) (by simp) (by simp) (by simp))
        intro w there
        have woken := wakes.woken ((inv.entered runs DSOS_CALL_READ_MQ args).moved (.take (inv.sound.first first)))
        rw [shows'.store, shows.store]
        simp [Scene.finishRead, woken.names, Scene.enter]
      have writers : m'.waiters (.waiting_to_write q) = [] := by
        rw [Kernel.waiters, took.woken.gone]
        rfl
      rw [Kernel.channel, readers, writers]
      simp [Channel.act, Kernel.channel, rest]

theorem Reacts.write_follows (shows : Shows c m k) (shows' : Shows c m' k') (inv : Coherent c k.store.running none k)
    (counted : Counted c k) (found : m.queue (int32 (args 0)) = some q)
    (reacts : Reacts c k (.syscall DSOS_CALL_WRITE_MQ args) (.done () k')) :
    (m.channel q).Follows c.MAX_NUM_MESSAGES ((⟨m, .syscall DSOS_CALL_WRITE_MQ args, m'⟩ : Transition).act c q)
      (m'.channel q) := by
  obtain ⟨r, runs⟩ := reacts.runs
  have named : (k.enter r DSOS_CALL_WRITE_MQ args).queue
      ((k.enter r DSOS_CALL_WRITE_MQ args).intArg r 0) = some q :=
    (queue_enter (by decide)).trans (shows.queue _ ▸ found)
  have size : (k.enter r DSOS_CALL_WRITE_MQ args).intArg r 2 = int32 (args 2) := intArg_enter (by decide)
  have buffer : (k.enter r DSOS_CALL_WRITE_MQ args).arg r 1 = args 1 := arg_enter (by decide)
  have unread : ¬ (DSOS_CALL_WRITE_MQ = DSOS_CALL_READ_MQ ∧ m.queue (int32 (args 0)) = some q) := fun both => by cases both.1
  have length : (m.contents q).length = (k.seq (.messages q)).length := by
    rw [Kernel.contents, List.length_map, shows.list]
  -- the counter of the queue is the length of its list
  have count := counted q
  have handler : Handles c DSOS_CALL_WRITE_MQ = some (Write c) := rfl
  by_cases short : int32 (args 2) ≤ c.MAX_LEN_MESSAGE
  · have act : (⟨m, .syscall DSOS_CALL_WRITE_MQ args, m'⟩ : Transition).act c q =
        if (m.store.mq q).num_written = c.MAX_NUM_MESSAGES then m.store.running.map .awaitRoom
        else ((⟨m, .syscall DSOS_CALL_WRITE_MQ args, m'⟩ : Transition).given c q).map .send := by
      unfold Transition.act
      dsimp only
      rw [if_neg unread, if_pos ⟨rfl, found, short⟩]
    rw [act, shows.store]
    cases reacts.handler_ends handler runs with
    | tooLong long =>
      rw [size] at long
      exact absurd short (not_le.mpr long)
    | unknown _ absent => cases named.symm.trans absent
    | waits fits found' full suspends =>
      cases named.symm.trans found'
      have full : (k.store.mq q).num_written = c.MAX_NUM_MESSAGES := full
      obtain ⟨contents, writers, others⟩ := suspends.joins shows shows' inv .write
      rw [if_pos full, runs]
      refine ⟨?_, ?_⟩
      · change (m.contents q).length = c.MAX_NUM_MESSAGES
        omega
      · rw [Kernel.channel, contents, writers, others _ _ .read (by simp)]
        rfl
    | @writes q' x j fits found' room block user wakes =>
      cases named.symm.trans found'
      have room : (k.store.mq q).num_written ≠ c.MAX_NUM_MESSAGES := room
      have block : (k.free .message).head? = some x := block
      have writes : WritesTo c m q args := ⟨found, short, shows.store ▸ room⟩
      have appended := reacts.writes shows shows' inv writes
      rw [size, buffer] at wakes
      rw [size] at shows'
      have wrote := shows.wrote inv runs block short wakes shows'
      rw [if_neg room, Transition.given_some rfl writes]
      refine ⟨?_, ?_⟩
      · change (m.contents q).length < c.MAX_NUM_MESSAGES
        omega
      · have readers : m'.waiters (.waiting_to_read q) = [] := by
          rw [Kernel.waiters, wrote.woken.gone]
          rfl
        -- only the readers are woken by a write
        have writers : m'.waiters (.waiting_to_write q) = m.waiters (.waiting_to_write q) := by
          apply Kernel.waiters_same (wrote.others _ (by simp) (by simp) (by simp) (by simp))
          intro w there
          have woken := wakes.woken ((inv.entered runs DSOS_CALL_WRITE_MQ args).moved (.post (args 1) block short))
          rw [shows'.store, shows.store]
          simp [Scene.finishWrite, woken.names, Scene.post, Scene.enter]
        rw [Kernel.channel, readers, writers, appended]
        rfl
  · rw [Transition.act_none unread fun writes => short writes.2.2]
    cases reacts.handler_ends handler runs with
    | tooLong long => exact shows.same_channel shows'
    | unknown fits | waits fits | writes fits =>
      rw [size] at fits
      exact absurd fits short

theorem Step.follows (shows : Shows c m k) (inv : Coherent c k.store.running none k) (counted : Counted c k)
    (listed : k.place q = .linked .mq_list) (step : Step c m e m') :
    (m.channel q).Follows c.MAX_NUM_MESSAGES ((⟨m, e, m'⟩ : Transition).act c q) (m'.channel q) := by
  obtain ⟨k', shows', reacts⟩ := step.reacts shows inv
  by_cases uses : ∃ args, m.queue (int32 (args 0)) = some q ∧
      (e = .syscall DSOS_CALL_READ_MQ args ∨ e = .syscall DSOS_CALL_WRITE_MQ args)
  · obtain ⟨args, found, rfl | rfl⟩ := uses
    · exact reacts.read_follows shows shows' inv found
    · exact reacts.write_follows shows shows' inv counted found
  · have other (n : Int) (args : Nat → Int) (call : e = .syscall n args)
        (names : n ∈ [DSOS_CALL_READ_MQ, DSOS_CALL_WRITE_MQ]) : m.queue (int32 (args 0)) ≠ some q := by
      intro found
      simp only [List.mem_cons, List.not_mem_nil, or_false] at names
      rcases names with rfl | rfl
      · exact uses ⟨args, found, .inl call⟩
      · exact uses ⟨args, found, .inr call⟩
    have idle : (⟨m, e, m'⟩ : Transition).act c q = none := by
      cases e with
      | user memory => rfl
      | tick => rfl
      | proceed => rfl
      | syscall n args =>
        apply Transition.act_none
        · exact fun reads => other n args rfl (by simp [reads.1]) reads.2
        · exact fun writes => other n args rfl (by simp [writes.1]) writes.2.1
    rw [idle]
    exact reacts.elsewhere shows shows' inv counted listed other

theorem Reacts.opened_empty (shows : Shows c m k) (shows' : Shows c m' k') (absent : q ∉ m.list .mq_list)
    (present : q ∈ m'.list .mq_list) (reacts : Reacts c k (.syscall DSOS_CALL_OPEN_MQ args) (.done () k')) :
    m'.channel q = .empty := by
  obtain ⟨r, runs⟩ := reacts.runs
  have contents := reacts.opened shows shows' absent present
  rw [shows.list] at absent
  rw [shows'.list] at present
  have fresh : k'.seq (.waiting_to_read q) = [] ∧ k'.seq (.waiting_to_write q) = [] := by
    have handler : Handles c DSOS_CALL_OPEN_MQ = some OpenMessageQueue := rfl
    cases reacts.handler_ends handler runs with
    | taken | unknown | shared => exact absurd present absent
    | @creates q' ending create unused top opens =>
      cases opens with
      | refused full =>
        have new : q ∈ k.seq .mq_list ++ [q'] := by simpa [Scene.newQueue, Scene.enter] using present
        obtain rfl := List.mem_singleton.mp ((List.mem_append.mp new).resolve_left absent)
        simp [Scene.newQueue]
      | opened des unspent ptr =>
        have new : q ∈ k.seq .mq_list ++ [q'] := by
          simpa [Scene.openDescriptor, Scene.newQueue, Scene.enter] using present
        obtain rfl := List.mem_singleton.mp ((List.mem_append.mp new).resolve_left absent)
        simp [Scene.openDescriptor, Scene.newQueue]
    | opens old found free opens =>
      cases opens with
      | refused full => exact absurd present absent
      | opened des unspent ptr =>
        have same : q ∈ k.seq .mq_list := by simpa [Scene.openDescriptor, Scene.enter] using present
        exact absurd same absent
  rw [Kernel.channel, contents, Kernel.waiters, Kernel.waiters, shows'.list, shows'.list, fresh.1, fresh.2]
  rfl

end

section
variable {c : Constants} {m : Kernel} {q : Addr} {past : List Transition}

theorem Life.follows (life : Life c.toConfig q past m) : ∀ t ∈ past,
    (t.before.channel q).Follows c.MAX_NUM_MESSAGES (t.act c.toConfig q) (t.after.channel q) := by
  induction life with
  | opened => simp
  | step life step present ih =>
    intro t there
    rcases List.mem_append.mp there with earlier | last
    · exact ih t earlier
    · obtain rfl := List.mem_singleton.mp last
      obtain ⟨k, shows, inv, counted, listed⟩ := life.shows
      exact step.follows shows inv counted listed

theorem Life.runs (life : Life c.toConfig q past m) :
    Channel.Runs c.MAX_NUM_MESSAGES (past.filterMap (·.act c.toConfig q)) (m.channel q) := by
  induction life with
  | opened reach absent step present =>
    obtain ⟨k, shows, inv, -⟩ := reach.shows
    obtain ⟨k', shows', reacts⟩ := step.reacts shows inv
    rw [reacts.opened_empty shows shows' absent present]
    exact .start
  | @step m m' e past life step present ih =>
    obtain ⟨k, shows, inv, counted, listed⟩ := life.shows
    have last : [(⟨m, e, m'⟩ : Transition)].filterMap (·.act c.toConfig q) =
        ((⟨m, e, m'⟩ : Transition).act c.toConfig q).toList := by
      cases acts : (⟨m, e, m'⟩ : Transition).act c.toConfig q <;> simp [acts]
    rw [List.filterMap_append, last]
    exact ih.follows (step.follows shows inv counted listed)

end

/-- Every queue is a bounded channel from its creation to its destruction, over every run. -/
theorem queue_is_channel (c : Constants) {q : Addr} {past : List Transition} {m : Kernel}
    (life : Life c.toConfig q past m) : IsChannel c.toConfig q past m where
  follows := life.follows
  runs := life.runs
  readers := life.runs.receivers
  writers := life.runs.senders

/-- The first process creates a queue and a child, and reads. -/
def reads_before_writes : Observed always fun m => block .message_queue 0 ∉ m.list .mq_list ∧
    ((trial_from constants.toConfig always [.syscall DSOS_CALL_OPEN_MQ (arguments [5, 1])] m).any fun m₁ =>
      block .message_queue 0 ∈ m₁.list .mq_list ∧
      ((trial_from constants.toConfig always [.syscall DSOS_CALL_SPAWN (arguments [1, 2])] m₁).any fun m₂ =>
        block .message_queue 0 ∈ m₂.list .mq_list ∧
        ((trial_from constants.toConfig always [.syscall DSOS_CALL_READ_MQ (arguments [5, 300, 64])] m₂).any fun m₃ =>
          block .message_queue 0 ∈ m₃.list .mq_list ∧
            m₃.waiters (.waiting_to_read (block .message_queue 0)) = [block .pcb 0]) = true) = true) = true :=
  observe always [] (by decide +kernel)

theorem queue_is_channel_reader : ∃ past m, Life constants.toConfig (block .message_queue 0) past m ∧
    m.waiters (.waiting_to_read (block .message_queue 0)) = [block .pcb 0] ∧
    IsChannel constants.toConfig (block .message_queue 0) past m := by
  obtain ⟨m, reach, absent, calls⟩ := reads_before_writes
  obtain ⟨m₁, opens, present₁, calls⟩ := trial_step calls
  obtain ⟨m₂, spawns, present₂, calls⟩ := trial_step calls
  obtain ⟨m₃, reads, present₃, waits⟩ := trial_step calls
  have life : Life constants.toConfig (block .message_queue 0) _ m₃ :=
    .step (.step (.opened reach.reachable absent opens present₁) spawns present₂) reads present₃
  exact ⟨_, m₃, life, waits, queue_is_channel constants life⟩

end DisastrOS
