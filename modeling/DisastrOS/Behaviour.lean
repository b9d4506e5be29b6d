import DisastrOS.Progress
import DisastrOS.Refinement.Behaviour

/-! The kernel and its scenes behave alike.

A scene knows the lists and pools of a kernel as sequences of blocks, and nothing
of the links and the free lists that hold them. Since the outcomes of an event on
a scene are never two, the kernel has exactly the outcome listed for the scene.
-/

set_option autoImplicit false

namespace DisastrOS

open Refinement
open Relation (ReflTransGen)

/-! ## An event has one outcome -/

section
variable {c : Config} {k j j' : Scene} {r : Addr} {o o' : Ending}

theorem WakeRound.unique : Relator.RightUnique WakeRound := by
  rintro s s' s'' ⟨timer, due, owner⟩ second
  cases second with
  | wake timer' due' owner' =>
    cases timer.symm.trans timer'
    cases owner.symm.trans owner'
    rfl

theorem Wakes.unique (first : Wakes k j) (second : Wakes k j') : j = j' := by
  obtain ⟨⟨prev, rounds⟩, later⟩ := first
  obtain ⟨⟨prev', rounds'⟩, later'⟩ := second
  have ends {j : Scene} {prev : Pointer} (later : ∀ t, (j.seq .timer_list).head? = some t →
      j.store.disastrOS_time < (j.store.timer_item t).awakening_time) (s : Scene × Pointer) : ¬ WakeRound (j, prev) s := by
    rintro ⟨timer, due, owner⟩
    exact absurd (later _ timer) (Int.not_lt.mpr due)
  cases normal_unique WakeRound.unique rounds rounds' (ends later) (ends later')
  rfl

theorem Schedule.unique (first : Schedule r k o) (second : Schedule r k o') : o = o' := by
  cases first with
  | alone wakes idle =>
    cases second with
    | alone wakes' idle' => rw [wakes.unique wakes']
    | rotates wakes' ready =>
      rw [← wakes.unique wakes', idle] at ready
      cases ready
  | rotates wakes ready =>
    cases second with
    | alone wakes' idle' =>
      rw [wakes.unique wakes', idle'] at ready
      cases ready
    | rotates wakes' ready' =>
      cases wakes.unique wakes'
      cases ready.symm.trans ready'
      rfl

-- The outcomes of the next handlers exclude each other by what they ask of the same lists and fields.

theorem Sleep.unique (first : Sleep r k o) (second : Sleep r k o') : o = o' := by
  cases first <;> cases second <;> simp_all

theorem NewChild.unique {finish : Addr → Scene → Scene} (first : NewChild finish r k o)
    (second : NewChild finish r k o') : o = o' := by
  cases first <;> cases second <;> simp_all

theorem Wait.unique (first : Wait r k o) (second : Wait r k o') : o = o' := by
  have nobody (none_left : k.seq (.children r) = []) : k.awaited r (k.intArg r 0) = none := by
    simp [Scene.awaited, none_left]
  cases first <;> cases second <;> simp_all

theorem OpenDescriptor.unique {x : Addr} {resource mq : Pointer} (first : OpenDescriptor r x resource mq k o)
    (second : OpenDescriptor r x resource mq k o') : o = o' := by
  cases first <;> cases second <;> simp_all

theorem Close.unique {object : Pool} {which : Descriptor → Pointer} (first : Close object which r k o)
    (second : Close object which r k o') : o = o' := by
  cases first <;> cases second <;> simp_all

theorem Destroy.unique {global : Head} {find : Scene → Int → Pointer} (first : Destroy global find r k o)
    (second : Destroy global find r k o') : o = o' := by
  cases first <;> cases second <;> simp_all

theorem Suspend.unique {mq : Pointer} {waiting : Addr → Head} (first : Suspend r mq waiting k o)
    (second : Suspend r mq waiting k o') : o = o' := by
  cases first <;> cases second <;> simp_all

theorem OpenResource.unique (first : OpenResource r k o) (second : OpenResource r k o') : o = o' := by
  cases first with
  | creates create absent top opens =>
    cases second with
    | creates create' absent' top' opens' =>
      cases top.symm.trans top'
      exact opens.unique opens'
    | _ => simp_all
  | opens old found type free opens =>
    cases second with
    | opens old' found' type' free' opens' =>
      cases found.symm.trans found'
      exact opens.unique opens'
    | _ => simp_all
  | _ => cases second <;> simp_all

theorem OpenMessageQueue.unique (first : OpenMessageQueue r k o) (second : OpenMessageQueue r k o') : o = o' := by
  have modes : DSOS_EXCL ≠ DSOS_CREATE := by decide
  cases first with
  | creates create absent top opens =>
    cases second with
    | creates create' absent' top' opens' =>
      cases top.symm.trans top'
      exact opens.unique opens'
    | _ => simp_all
  | opens old found free opens =>
    cases second with
    | opens old' found' free' opens' =>
      cases found.symm.trans found'
      exact opens.unique opens'
    | _ => simp_all
  | _ => cases second <;> simp_all

theorem ReparentRound.unique {i : Addr} : Relator.RightUnique (ReparentRound r i) := by
  rintro k j j' ⟨first, child⟩ second
  cases second with
  | adopt first' child' =>
    cases first.symm.trans first'
    cases child.symm.trans child'
    rfl

theorem Reparents.unique {i : Addr} (first : Reparents r i k j) (second : Reparents r i k j') : j = j' := by
  have ends {j : Scene} (done : j.seq (.children r) = []) (u : Scene) : ¬ ReparentRound r i j u := by
    rintro ⟨top, child⟩
    rw [done] at top
    cases top
  exact normal_unique ReparentRound.unique first.1 second.1 (ends first.2) (ends second.2)

theorem DropRound.unique : Relator.RightUnique (DropRound r) := by
  rintro k j j' ⟨first, mq, ptr⟩ second
  cases second with
  | drop first' mq' ptr' =>
    cases first.symm.trans first'
    cases mq.symm.trans mq'
    cases ptr.symm.trans ptr'
    rfl

def Scene.Dropped (r : Addr) (k : Scene) : Prop :=
  ∀ d, (k.seq (.descriptors r)).head? = some d → (k.store.descriptor d).mq = none

theorem Scene.Dropped.closed (closed : k.seq (.descriptors r) = []) : k.Dropped r := by
  intro d top
  rw [closed] at top
  cases top

theorem Scene.Dropped.stuck {d : Addr} (first : (k.seq (.descriptors r)).head? = some d)
    (resource : (k.store.descriptor d).mq = none) : k.Dropped r := by
  intro d' top
  cases first.symm.trans top
  exact resource

theorem DropRound.reach_unique (first : ReflTransGen (DropRound r) k j) (second : ReflTransGen (DropRound r) k j')
    (dropped : j.Dropped r) (dropped' : j'.Dropped r) : j = j' := by
  have ends {j : Scene} (dropped : j.Dropped r) (u : Scene) : ¬ DropRound r j u := by
    rintro ⟨top, mq, ptr⟩
    cases mq.symm.trans (dropped _ top)
  exact normal_unique DropRound.unique first second (ends dropped) (ends dropped')

theorem Exit.unique (first : Exit r k o) (second : Exit r k o') : o = o' := by
  -- `init` with children ends in no other way, since it gives them to itself
  have forever {i : Addr} {j : Scene} (init : k.store.init_pcb = some r) (children : k.seq (.children r) ≠ [])
      (init' : k.store.init_pcb = some i) (reparents : Reparents r i k j) : False := by
    cases init.symm.trans init'
    exact children reparents.childless
  have same {i i' : Addr} {j j' : Scene} (init : k.store.init_pcb = some i) (reparents : Reparents r i k j)
      (init' : k.store.init_pcb = some i') (reparents' : Reparents r i' k j') : j = j' := by
    cases init.symm.trans init'
    exact reparents.unique reparents'
  cases first with
  | forever init children =>
    cases second with
    | forever => rfl
    | orphan init' reparents' | buried init' reparents' | stuck init' reparents' | stray init' reparents'
    | otherKind init' reparents' | resumes init' reparents' => exact (forever init children init' reparents').elim
  | orphan init reparents parent =>
    cases second with
    | forever init' children => exact (forever init' children init reparents).elim
    | orphan => rfl
    | buried _ _ parent' | stuck _ _ parent' | stray _ _ parent' | otherKind _ _ parent' | resumes _ _ parent' =>
      cases parent.symm.trans parent'
  | buried init reparents parent unawaited ready =>
    cases second with
    | forever init' children => exact (forever init' children init reparents).elim
    | orphan _ _ parent' => cases parent.symm.trans parent'
    | buried init' reparents' parent' unawaited' ready' =>
      cases same init reparents init' reparents'
      cases parent.symm.trans parent'
      cases ready.symm.trans ready'
      rfl
    | stuck init' reparents' parent' unawaited' idle =>
      cases same init reparents init' reparents'
      rw [idle] at ready
      cases ready
    | stray init' reparents' parent' awaited | otherKind init' reparents' parent' awaited
    | resumes init' reparents' parent' awaited =>
      cases same init reparents init' reparents'
      cases parent.symm.trans parent'
      exact absurd awaited unawaited
  | stuck init reparents parent unawaited idle =>
    cases second with
    | forever init' children => exact (forever init' children init reparents).elim
    | orphan _ _ parent' => cases parent.symm.trans parent'
    | buried init' reparents' parent' unawaited' ready =>
      cases same init reparents init' reparents'
      rw [idle] at ready
      cases ready
    | stuck | stray => rfl
    | otherKind init' reparents' parent' awaited | resumes init' reparents' parent' awaited =>
      cases same init reparents init' reparents'
      cases parent.symm.trans parent'
      exact absurd awaited unawaited
  | stray init reparents parent awaited absent =>
    cases second with
    | forever init' children => exact (forever init' children init reparents).elim
    | orphan _ _ parent' => cases parent.symm.trans parent'
    | buried init' reparents' parent' unawaited =>
      cases same init reparents init' reparents'
      cases parent.symm.trans parent'
      exact absurd awaited unawaited
    | stuck | stray => rfl
    | otherKind init' reparents' parent' awaited' entry | resumes init' reparents' parent' awaited' entry =>
      cases same init reparents init' reparents'
      cases parent.symm.trans parent'
      cases absent.symm.trans entry
  | otherKind init reparents parent awaited entry drops top resource =>
    cases second with
    | forever init' children => exact (forever init' children init reparents).elim
    | orphan _ _ parent' => cases parent.symm.trans parent'
    | buried init' reparents' parent' unawaited | stuck init' reparents' parent' unawaited =>
      cases same init reparents init' reparents'
      cases parent.symm.trans parent'
      exact absurd awaited unawaited
    | stray init' reparents' parent' awaited' absent =>
      cases same init reparents init' reparents'
      cases parent.symm.trans parent'
      cases absent.symm.trans entry
    | otherKind => rfl
    | resumes init' reparents' parent' awaited' entry' drops' closed =>
      cases same init reparents init' reparents'
      cases parent.symm.trans parent'
      cases entry.symm.trans entry'
      cases DropRound.reach_unique drops drops' (.stuck top resource) (.closed closed)
      rw [closed] at top
      cases top
  | resumes init reparents parent awaited entry drops closed =>
    cases second with
    | forever init' children => exact (forever init' children init reparents).elim
    | orphan _ _ parent' => cases parent.symm.trans parent'
    | buried init' reparents' parent' unawaited | stuck init' reparents' parent' unawaited =>
      cases same init reparents init' reparents'
      cases parent.symm.trans parent'
      exact absurd awaited unawaited
    | stray init' reparents' parent' awaited' absent =>
      cases same init reparents init' reparents'
      cases parent.symm.trans parent'
      cases absent.symm.trans entry
    | otherKind init' reparents' parent' awaited' entry' drops' top resource =>
      cases same init reparents init' reparents'
      cases parent.symm.trans parent'
      cases entry.symm.trans entry'
      cases DropRound.reach_unique drops drops' (.closed closed) (.stuck top resource)
      rw [closed] at top
      cases top
    | resumes init' reparents' parent' awaited' entry' drops' closed' =>
      cases same init reparents init' reparents'
      cases parent.symm.trans parent'
      cases entry.symm.trans entry'
      cases DropRound.reach_unique drops drops' (.closed closed) (.closed closed')
      rfl

theorem WakeWriters.unique {q : Addr} (first : WakeWriters q k j) (second : WakeWriters q k j') : j = j' := by
  have round : Relator.RightUnique (WakeWriterRound q) := by
    rintro k j j' ⟨first, writer⟩ second
    cases second with
    | wake first' writer' =>
      cases first.symm.trans first'
      cases writer.symm.trans writer'
      rfl
  have ends {j : Scene} (done : j.seq (.waiting_to_write q) = []) (u : Scene) : ¬ WakeWriterRound q j u := by
    rintro ⟨top, writer⟩
    rw [done] at top
    cases top
  exact normal_unique round first.1 second.1 (ends first.2) (ends second.2)

theorem WakeReaders.unique {q : Addr} (first : WakeReaders q k j) (second : WakeReaders q k j') : j = j' := by
  have round : Relator.RightUnique (WakeReaderRound q) := by
    rintro k j j' ⟨first, reader⟩ second
    cases second with
    | wake first' reader' =>
      cases first.symm.trans first'
      cases reader.symm.trans reader'
      rfl
  have ends {j : Scene} (done : j.seq (.waiting_to_read q) = []) (u : Scene) : ¬ WakeReaderRound q j u := by
    rintro ⟨top, reader⟩
    rw [done] at top
    cases top
  exact normal_unique round first.1 second.1 (ends first.2) (ends second.2)

theorem Read.unique (first : Read r k o) (second : Read r k o') : o = o' := by
  -- a queue that the read waits on has no first message
  have waiting {q m : Addr} (empty : ∀ q, k.queue (k.intArg r 0) = some q → k.seq (.messages q) = [])
      (found : k.queue (k.intArg r 0) = some q) (top : (k.seq (.messages q)).head? = some m) : False := by
    rw [empty q found] at top
    cases top
  have agree {q q' m m' : Addr} (found : k.queue (k.intArg r 0) = some q) (found' : k.queue (k.intArg r 0) = some q')
      (top : (k.seq (.messages q)).head? = some m) (top' : (k.seq (.messages q')).head? = some m') : q = q' ∧ m = m' := by
    cases found.symm.trans found'
    cases top.symm.trans top'
    exact ⟨rfl, rfl⟩
  cases first with
  | waits empty suspends =>
    cases second with
    | waits empty' suspends' => exact suspends.unique suspends'
    | short found' top' | nullUser found' top' | takes found' top' => exact (waiting empty found' top').elim
  | short found top long =>
    cases second with
    | waits empty suspends => exact (waiting empty found top).elim
    | short => rfl
    | nullUser found' top' fits | takes found' top' fits =>
      obtain ⟨rfl, rfl⟩ := agree found found' top top'
      omega
  | nullUser found top fits wakes null =>
    cases second with
    | waits empty suspends => exact (waiting empty found top).elim
    | short found' top' long =>
      obtain ⟨rfl, rfl⟩ := agree found found' top top'
      omega
    | nullUser => rfl
    | takes found' top' fits' wakes' user =>
      obtain ⟨rfl, rfl⟩ := agree found found' top top'
      exact absurd null user
  | takes found top fits wakes user =>
    cases second with
    | waits empty suspends => exact (waiting empty found top).elim
    | short found' top' long =>
      obtain ⟨rfl, rfl⟩ := agree found found' top top'
      omega
    | nullUser found' top' fits' wakes' null =>
      obtain ⟨rfl, rfl⟩ := agree found found' top top'
      exact absurd null user
    | takes found' top' fits' wakes' user' =>
      obtain ⟨rfl, rfl⟩ := agree found found' top top'
      rw [wakes.unique wakes']

theorem Write.unique (first : Write c r k o) (second : Write c r k o') : o = o' := by
  -- the guards of two different ends exclude each other
  cases first with
  | tooLong long =>
    cases second with
    | tooLong => rfl
    | unknown fits | waits fits | noBlock fits | nullUser fits | writes fits => omega
  | unknown fits absent =>
    cases second with
    | tooLong long => omega
    | unknown => rfl
    | waits _ found | noBlock _ found | nullUser _ found | writes _ found => cases absent.symm.trans found
  | waits fits found full suspends =>
    cases second with
    | tooLong long => omega
    | unknown _ absent => cases absent.symm.trans found
    | waits _ found' _ suspends' =>
      cases found.symm.trans found'
      exact suspends.unique suspends'
    | noBlock _ found' room | nullUser _ found' room | writes _ found' room =>
      cases found.symm.trans found'
      exact absurd full room
  | noBlock fits found room spent =>
    cases second with
    | tooLong long => omega
    | unknown _ absent => cases absent.symm.trans found
    | waits _ found' full =>
      cases found.symm.trans found'
      exact absurd full room
    | noBlock => rfl
    | nullUser _ _ _ top | writes _ _ _ top =>
      rw [spent] at top
      cases top
  | nullUser fits found room top null =>
    cases second with
    | tooLong long => omega
    | unknown _ absent => cases absent.symm.trans found
    | waits _ found' full =>
      cases found.symm.trans found'
      exact absurd full room
    | noBlock _ _ _ spent =>
      rw [spent] at top
      cases top
    | nullUser => rfl
    | writes _ _ _ _ user => exact absurd null user
  | writes fits found room top user wakes =>
    cases second with
    | tooLong long => omega
    | unknown _ absent => cases absent.symm.trans found
    | waits _ found' full =>
      cases found.symm.trans found'
      exact absurd full room
    | noBlock _ _ _ spent =>
      rw [spent] at top
      cases top
    | nullUser _ _ _ _ null => exact absurd null user
    | writes _ found' _ top' _ wakes' =>
      cases found.symm.trans found'
      cases top.symm.trans top'
      rw [wakes.unique wakes']

theorem handler_unique {num : Int} {H : Addr → Scene → Ending → Prop} (handler : Handles c num = some H)
    (first : H r k o) (second : H r k o') : o = o' := by
  cases handler_entry handler with
  | preempt => exact Schedule.unique first second
  | fork | spawn => exact NewChild.unique first second
  | wait => exact Wait.unique first second
  | exit => exact Exit.unique first second
  | sleep => exact Sleep.unique first second
  | openResource => exact OpenResource.unique first second
  | closeResource | closeMessageQueue => exact Close.unique first second
  | destroyResource | destroyMessageQueue => exact Destroy.unique first second
  | shutdown =>
    cases first
    cases second
    rfl
  | openMessageQueue => exact OpenMessageQueue.unique first second
  | write => exact Write.unique first second
  | read => exact Read.unique first second

/-- After the handler the log asks who runs. -/
def Ending.logged : Ending → Ending
  | .done () j => if j.store.log_file = true ∧ j.store.running = none then .fault (.null .pcb) else .done () j
  | o => o

theorem Reacts.of_handler {num : Int} {args : Nat → Int} {H : Addr → Scene → Ending → Prop}
    (runs : k.store.running = some r) (handler : Handles c num = some H) (reacts : Reacts c k (.syscall num args) o) :
    ∃ ending, H r (k.enter r num args) ending ∧ o = Ending.logged ending := by
  have range := handler_range handler
  cases reacts with
  | nobody idle => cases runs.symm.trans idle
  | outOfRange _ outside | outOfBounds _ outside => omega
  | unknown _ _ absent => cases absent.symm.trans handler
  | handled running same ends logged =>
    cases runs.symm.trans running
    cases handler.symm.trans same
    refine ⟨_, ends, ?_⟩
    rw [Ending.logged, if_neg fun idle => logged idle.1 idle.2]
  | unlogged running same ends logs idle =>
    cases runs.symm.trans running
    cases handler.symm.trans same
    refine ⟨_, ends, ?_⟩
    rw [Ending.logged, if_pos ⟨logs, idle⟩]
  | stopped running same ends | diverges running same ends =>
    cases runs.symm.trans running
    cases handler.symm.trans same
    exact ⟨_, ends, rfl⟩

theorem Proceeds.unique (first : Proceeds k o) (second : Proceeds k o') : o = o' := by
  cases first with
  | resumes running set | noContext running unset => cases second <;> simp_all
  | noPCB idle full | overflow idle pcb spent | restarts idle pcb unspent => cases second <;> simp_all

/-- No event has two outcomes on a scene. -/
theorem Reacts.unique {e : Event} (first : Reacts c k e o) (second : Reacts c k e o') : o = o' := by
  cases e with
  | user memory =>
    cases first
    cases second
    rfl
  | tick =>
    cases first with
    | tick running schedules =>
      cases second with
      | tick running' schedules' =>
        cases running.symm.trans running'
        exact schedules.unique schedules'
      | lateTick idle => cases running.symm.trans idle
    | lateTick idle =>
      cases second with
      | tick running => cases running.symm.trans idle
      | lateTick => rfl
  | syscall num args =>
    cases running : k.store.running with
    | none => cases first <;> cases second <;> simp_all
    | some r =>
      cases handler : Handles c num with
      | some H =>
        obtain ⟨ending, ends, rfl⟩ := first.of_handler running handler
        obtain ⟨ending', ends', rfl⟩ := second.of_handler running handler
        rw [handler_unique handler ends ends']
      | none =>
        -- what is left is told apart by the number alone
        have limit : 0 ≤ DSOS_MAX_SYSCALLS := by decide
        cases first <;> cases second <;> first | omega | simp_all
  | proceed =>
    cases first with
    | proceeds leaves =>
      cases second with
      | proceeds leaves' => exact leaves.unique leaves'

end

/-! ## Bisimulation -/

/-- The kernel as a machine, and the scenes as one. -/
def Kernel.machine (c : Config) : Machine Kernel Stop Event where
  answers := Step c
  stops := Halts c
  loops m e := ∀ fuel, (e.code c).run heap fuel m = .exhausted

def Scene.machine (c : Config) : Machine Scene Stop Event where
  answers k e k' := Reacts c k e (.done () k')
  stops k e stop := Reacts c k e (.fault stop)
  loops k e := Reacts c k e .exhausted

/-- The scene shows the kernel and is coherent. -/
structure Pictures (c : Config) (m : Kernel) (k : Scene) : Prop where
  shows : Shows c m k
  coherent : Coherent c k.store.running none k
  counted : Counted c k

section
variable {c : Config} {m : Kernel} {k k' : Scene} {e : Event}

theorem Pictures.next (pictures : Pictures c m k) {m' : Kernel} (shows : Shows c m' k')
    (reacts : Reacts c k e (.done () k')) : Pictures c m' k' :=
  ⟨shows, (reacts.chain pictures.coherent pictures.counted).coherent pictures.coherent,
    reacts.counted pictures.coherent pictures.counted⟩

theorem Pictures.outcome (pictures : Pictures c m k) (e : Event) :
    (∃ m' k', Step c m e m' ∧ Pictures c m' k' ∧ Reacts c k e (.done () k')) ∨
      (∃ stop, Halts c m e stop ∧ Reacts c k e (.fault stop)) ∨ Reacts c k e .exhausted := by
  rcases pictures.shows.outcome pictures.coherent e with ⟨m', k', step, shows, reacts⟩ | halts | loops
  · exact .inl ⟨m', k', step, pictures.next shows reacts, reacts⟩
  · exact .inr (.inl halts)
  · exact .inr (.inr loops)

theorem Pictures.loops (pictures : Pictures c m k) (loops : Reacts c k e .exhausted) (fuel : Nat) :
    (e.code c).run heap fuel m = .exhausted := by
  by_contra ended
  have ends := pictures.shows.reacts pictures.coherent rfl ended
  cases run : (e.code c).run heap fuel m with
  | done value m' =>
    rw [run] at ends
    obtain ⟨k', -, reacts⟩ := ends
    cases reacts.unique loops
  | fault stop =>
    rw [run] at ends
    cases Reacts.unique ends loops
  | undefined =>
    rw [run] at ends
    exact ends
  | exhausted => exact ended run

theorem Kernel.machine_does {o : Outcome Stop Kernel Unit} (does : (Kernel.machine c).Does m e o) :
    ∃ least, ∀ fuel, least ≤ fuel → (e.code c).run heap fuel m = o := by
  have settled {least : Nat} (run : (e.code c).run heap least m = o) (ended : o ≠ .exhausted) :
      ∃ least, ∀ fuel, least ≤ fuel → (e.code c).run heap fuel m = o := by
    refine ⟨least, fun fuel enough => ?_⟩
    have more := Program.run_extends heap enough (e.code c) m
    rw [run] at more
    exact more.resolve_left ended
  cases o with
  | done value m' =>
    obtain ⟨fuel, run⟩ := does
    exact settled run (by simp)
  | fault stop =>
    obtain ⟨fuel, run⟩ := does
    exact settled run (by simp)
  | undefined => exact does.elim
  | exhausted => exact ⟨0, fun fuel _ => does fuel⟩

theorem Kernel.machine_determined (c : Config) : (Kernel.machine c).Determined := by
  intro m e o o' first second
  obtain ⟨least, ends⟩ := machine_does first
  obtain ⟨least', ends'⟩ := machine_does second
  exact (ends _ (Nat.le_max_left least least')).symm.trans (ends' _ (Nat.le_max_right least least'))

theorem kernel_bisimulates (c : Config) : (Kernel.machine c).Bisimulates (Scene.machine c) (Pictures c) where
  forth := by
    intro m k e m' pictures step
    obtain ⟨k', shows, reacts⟩ := Step.reacts pictures.shows pictures.coherent step
    exact ⟨k', reacts, pictures.next shows reacts⟩
  back := by
    intro m k e k' pictures reacts
    rcases pictures.outcome e with ⟨m', k'', step, pictures', reacts'⟩ | ⟨stop, -, stops⟩ | loops
    · cases reacts.unique reacts'
      exact ⟨m', step, pictures'⟩
    · cases reacts.unique stops
    · cases reacts.unique loops
  stops := by
    intro m k e stop pictures
    constructor
    · exact fun halts => Halts.reacts pictures.shows pictures.coherent halts
    · intro stops
      rcases pictures.outcome e with ⟨m', k', -, -, reacts⟩ | ⟨stop', halts, stops'⟩ | loops
      · cases stops.unique reacts
      · cases stops.unique stops'
        exact halts
      · cases stops.unique loops
  loops := by
    intro m k e pictures
    constructor
    · intro looping
      rcases pictures.outcome e with ⟨m', k', ⟨fuel, run⟩, -⟩ | ⟨stop, ⟨fuel, run⟩, -⟩ | loops
      · cases (looping fuel).symm.trans run
      · cases (looping fuel).symm.trans run
      · exact loops
    · exact fun loops => pictures.loops loops

end

/-- On every list of events the kernel `m` has one outcome, and it is that of the scene `k`: the same
answers to the end, the same event that stops it with the same error, or the same one that makes it loop. -/
structure BehavesAs (c : Config) (m : Kernel) (k : Scene) : Prop where
  total : ∀ es, ∃ o, (Kernel.machine c).Unfolds m es o
  unique : ∀ es o o', (Kernel.machine c).Unfolds m es o → (Kernel.machine c).Unfolds m es o' → o = o'
  forth : ∀ es o, (Kernel.machine c).Unfolds m es o → ∃ o', (Scene.machine c).Unfolds k es o' ∧ o.Matches (Shows c) o'
  back : ∀ es o', (Scene.machine c).Unfolds k es o' → ∃ o, (Kernel.machine c).Unfolds m es o ∧ o.Matches (Shows c) o'

/-- From every reachable state on the kernel behaves as the sequences of blocks that show it. -/
theorem kernel_behaves (c : Constants) {m : Kernel} (reach : Reachable c.toConfig m) :
    ∃ k, Shows c.toConfig m k ∧ BehavesAs c.toConfig m k := by
  obtain ⟨k, shows, inv, counted⟩ := reach.shows
  have pictures : Pictures c.toConfig m k := ⟨shows, inv, counted⟩
  have similar := kernel_bisimulates c.toConfig
  refine ⟨k, shows, fun es => ?_, fun es o o' => (Kernel.machine_determined _).unfolds, fun es o unfolds => ?_,
    fun es o' unfolds => ?_⟩
  · apply Machine.unfolds_total (I := fun m => ∃ k, Pictures c.toConfig m k) ?_ ⟨k, pictures⟩
    rintro m ⟨k, pictures⟩ e
    rcases pictures.outcome e with ⟨m', k', step, pictures', -⟩ | ⟨stop, halts, -⟩ | loops
    · exact .inl ⟨m', step, k', pictures'⟩
    · exact .inr (.inl ⟨stop, halts⟩)
    · exact .inr (.inr (pictures.loops loops))
  · obtain ⟨o', unfolds', same⟩ := similar.unfolds_forth pictures unfolds
    exact ⟨o', unfolds', same.mono fun _ _ pictures => pictures.shows⟩
  · obtain ⟨o, unfolds', same⟩ := similar.unfolds_back pictures unfolds
    exact ⟨o, unfolds', same.mono fun _ _ pictures => pictures.shows⟩

/-- The child of the first process runs. -/
def child_runs : Observed always fun m => m.store.running = some (block .pcb 1) :=
  observe always [.syscall DSOS_CALL_SPAWN (arguments [1, 2]), .tick] (by decide +kernel)

theorem kernel_behaves_child : ∃ m k, Reachable constants.toConfig m ∧ Shows constants.toConfig m k ∧
    ∃ o o', (Kernel.machine constants.toConfig).Unfolds m [.tick, .syscall DSOS_CALL_EXIT (arguments [7])] o ∧
      (Scene.machine constants.toConfig).Unfolds k [.tick, .syscall DSOS_CALL_EXIT (arguments [7])] o' ∧
      o.Matches (Shows constants.toConfig) o' := by
  obtain ⟨m, reached, runs⟩ := child_runs
  obtain ⟨k, shows, behaves⟩ := kernel_behaves constants reached.reachable
  obtain ⟨o, unfolds⟩ := behaves.total [.tick, .syscall DSOS_CALL_EXIT (arguments [7])]
  obtain ⟨o', unfolds', same⟩ := behaves.forth _ o unfolds
  exact ⟨m, k, reached.reachable, shows, o, o', unfolds, unfolds', same⟩

end DisastrOS
