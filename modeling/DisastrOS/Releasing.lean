import DisastrOS.Delivery
import DisastrOS.Responses

/-! How descriptors are released, by the two close handlers and by `exit`. -/

set_option autoImplicit false

namespace DisastrOS

open Refinement
open Relation (ReflTransGen)

def Kernel.descriptor (m : Kernel) (r : Addr) (fd : Int) : Pointer :=
  (m.list (.descriptors r)).find? fun d => (m.store.descriptor d).fd = fd

/-- The parent of `r` is blocked in a `wait` that the death of `r` ends. -/
def WaitingParent (m : Kernel) (r q : Addr) : Prop :=
  (m.store.pcb r).parent = some q ∧ (m.store.pcb q).status = .Waiting ∧
    (m.store.pcb q).syscall_num = DSOS_CALL_WAIT ∧
    ((m.store.pcb q).syscall_args 0 = 0 ∨ (m.store.pcb q).syscall_args 0 = (m.store.pcb r).pid)

section
variable (c : Config) (m : Kernel) (r : Addr) (num : Int) (args : Nat → Int)

/-- The call removes `d` and its pointer, from the lists of the caller and of the object. -/
def Releases (d o : Addr) : Prop :=
  ∃ m' e, Step c m (.syscall num args) m' ∧ (m.store.descriptor d).ptr = some e ∧
    m'.store.running = some r ∧ (m'.store.pcb r).syscall_retvalue = 0 ∧
    d ∈ m.list (.descriptors r) ∧ m'.list (.descriptors r) = (m.list (.descriptors r)).erase d ∧
    e ∈ m.list (.descriptors_ptrs o) ∧ m'.list (.descriptors_ptrs o) = (m.list (.descriptors_ptrs o)).erase e ∧
    (∀ h, h ≠ .descriptors r → h ≠ .descriptors_ptrs o → m'.list h = m.list h) ∧
    ∀ x, m'.Allocated c x ↔ x ≠ d ∧ x ≠ e ∧ m.Allocated c x

/-- What a call of close should do; `which` is the object that its kind of descriptor has. -/
def ClosesSafely (which : Descriptor → Pointer) : Prop :=
  match m.descriptor r (int32 (args 0)) with
  | none => Rejects c m r num args
  | some d =>
    match which (m.store.descriptor d) with
    | none => Rejects c m r num args
    | some o => Releases c m r num args d o

/-- The call of `exit` frees the descriptors of the caller and their pointers, which
leave the lists of their objects. -/
def ReleasesAll : Prop :=
  ∃ m', Step c m (.syscall DSOS_CALL_EXIT args) m' ∧ m'.list (.descriptors r) = [] ∧
    (∀ o, m'.list (.descriptors_ptrs o) = (m.list (.descriptors_ptrs o)).filter fun x =>
      ∀ d ∈ m.list (.descriptors r), (m.store.descriptor d).ptr ≠ some x) ∧
    ∀ x, x.pool = .descriptor ∨ x.pool = .descriptor_ptr →
      (m'.Allocated c x ↔ m.Allocated c x ∧ x ∉ m.list (.descriptors r) ∧
        ∀ d ∈ m.list (.descriptors r), (m.store.descriptor d).ptr ≠ some x)

/-- What the three calls should do. -/
def ReleasesSafely : Prop :=
  (num = DSOS_CALL_CLOSE_MQ → ClosesSafely c m r num args (·.mq)) ∧
  (num = DSOS_CALL_CLOSE_RESOURCE → ClosesSafely c m r num args (·.resource)) ∧
  (num = DSOS_CALL_EXIT → ∀ q, WaitingParent m r q → ReleasesAll c m r args)

/-- The descriptors that the call meets are of the kind it expects. A parent that
waits has the caller among its children. -/
def KindsMatch : Prop :=
  (num = DSOS_CALL_CLOSE_MQ → ∀ d, m.descriptor r (int32 (args 0)) = some d → (m.store.descriptor d).mq ≠ none) ∧
  (num = DSOS_CALL_CLOSE_RESOURCE →
    ∀ d, m.descriptor r (int32 (args 0)) = some d → (m.store.descriptor d).resource ≠ none) ∧
  (num = DSOS_CALL_EXIT → ∀ q, WaitingParent m r q →
    (∀ d ∈ m.list (.descriptors r), (m.store.descriptor d).mq ≠ none) ∧
    ∃ e ∈ m.list (.children q), m.store.pcb_ptr e = some r)

end

section
variable {c : Config} {m m' : Kernel} {k k' : Scene} {r : Addr} {num : Int} {args : Nat → Int}

theorem Shows.descriptor (shows : Shows c m k) (fd : Int) : m.descriptor r fd = k.descriptor r fd := by
  simp only [Kernel.descriptor, Scene.descriptor, shows.list, shows.store]

/-! ## Close -/

theorem Shows.releases {d o e : Addr} (shows : Shows c m k) (inv : Coherent c k.store.running none k)
    (runs : k.store.running = some r) (step : Step c m (.syscall num args) m')
    (open_ : k.place d = .linked (.descriptors r))
    (of : (k.store.descriptor d).mq = some o ∨ (k.store.descriptor d).resource = some o)
    (ptr : (k.store.descriptor d).ptr = some e)
    (shows' : Shows c m' ((k.enter r num args).closeDescriptor r o d e)) : Releases c m r num args d o := by
  have linked := inv.descriptors.ptr_linked inv.sound open_ (inv.descriptors.of_open inv.sound open_ of) ptr
  have des : d.pool = .descriptor := inv.sound.kind open_
  have link : e.pool = .descriptor_ptr := inv.sound.kind linked
  refine ⟨m', e, step, ?_, ?_, ?_, shows.mem_list.mpr open_, ?_, shows.mem_list.mpr linked, ?_,
    fun h other other' => ?_, fun x => ?_⟩
  · rw [shows.store, ptr]
  · rw [shows'.store]
    exact runs
  · rw [shows'.store]
    simp [Scene.closeDescriptor]
  · rw [shows'.list, shows.list]
    simp [Scene.closeDescriptor, Scene.dropDescriptor]
  · rw [shows'.list, shows.list]
    simp [Scene.closeDescriptor, Scene.dropDescriptor]
  · rw [shows'.list, shows.list]
    simp [Scene.closeDescriptor, Scene.dropDescriptor, other, other']
  · have entered : (k.enter r num args).Live c x ↔ k.Live c x := Iff.rfl
    rw [shows'.allocated, shows.allocated]
    simp only [Scene.closeDescriptor, Scene.dropDescriptor, Scene.live_answer,
      Scene.live_release des, Scene.live_release link, Scene.live_detach, entered]

theorem Shows.closes {object : Pool} {which : Descriptor → Pointer} (shows : Shows c m k)
    (inv : Coherent c k.store.running none k) (runs : k.store.running = some r)
    (handler : Handles c num = some (Close object which)) (stored : 0 < syscall_numarg num)
    (of : ∀ {d o}, which (k.store.descriptor d) = some o →
      (k.store.descriptor d).mq = some o ∨ (k.store.descriptor d).resource = some o) :
    ClosesSafely c m r num args which ↔
      ∀ d, m.descriptor r (int32 (args 0)) = some d → which (m.store.descriptor d) ≠ none := by
  have asks : (k.enter r num args).intArg r 0 = int32 (args 0) := intArg_enter stored
  have same : (k.enter r num args).descriptor r ((k.enter r num args).intArg r 0) =
      m.descriptor r (int32 (args 0)) := by
    rw [asks, shows.descriptor]
    rfl
  constructor
  -- a descriptor of the other kind has no such object, and the code dereferences NULL
  · intro closes d found none
    simp only [ClosesSafely, found, none] at closes
    obtain ⟨value, -, m', step, -⟩ := closes
    obtain ⟨k', -, ends⟩ := step.handled shows inv runs handler
    cases ends with
    | unknown absent => cases (same.symm.trans absent).symm.trans found
    | closed found' kind ptr =>
      cases (same.symm.trans found').symm.trans found
      rw [shows.store] at none
      cases kind.symm.trans none
  · intro kinds
    rcases shows.handled inv runs handler args with ⟨m', k', step, shows', ends⟩ | ⟨stop, -, stops⟩ | ⟨k', ends, idle⟩ | loops
    · cases ends with
      | unknown absent =>
        simp only [ClosesSafely, same.symm.trans absent]
        exact shows.rejects step shows' (by decide)
      | @closed d o e found kind ptr =>
        have kind' : which (m.store.descriptor d) = some o := by
          rw [shows.store]
          exact kind
        simp only [ClosesSafely, same.symm.trans found, kind']
        have open_ := inv.sound.mem_seq.mp (List.mem_of_find?_eq_some found)
        exact shows.releases inv runs step open_ (of kind) ptr shows'
    · cases stops with
      | otherKind found other =>
        refine absurd ?_ (kinds _ (same.symm.trans found))
        rw [shows.store]
        exact other
    · have still : k.store.running = none := by cases ends <;> exact idle
      cases runs.symm.trans still
    · cases loops

/-! ## Exit -/

/-- What the loop over the descriptors has released, by induction on its rounds. -/
theorem DropRound.releases {runner gone : Pointer} (inv : Coherent c runner gone k)
    (rounds : ReflTransGen (DropRound r) k k') :
    ∃ dropped, k.seq (.descriptors r) = dropped ++ k'.seq (.descriptors r) ∧
      (∀ d ∈ dropped, (k.store.descriptor d).mq ≠ none) ∧
      (∀ h, h ≠ .descriptors r → k'.seq h = (k.seq h).filter fun x =>
        ∀ d ∈ dropped, (k.store.descriptor d).ptr ≠ some x) ∧
      ∀ x, k'.Live c x ↔ k.Live c x ∧ x ∉ dropped ∧ ∀ d ∈ dropped, (k.store.descriptor d).ptr ≠ some x := by
  -- what is dropped is a prefix of the list that the loop started with
  induction rounds with
  | refl => exact ⟨[], rfl, by simp, fun h _ => by simp, fun x => by simp⟩
  | @tail j j' rounds round ih =>
    obtain ⟨dropped, whole, queues, lists, live⟩ := ih
    obtain ⟨-, store, inv'⟩ := drops_frame inv rounds
    cases round with | @drop d q e first mq ptr =>
    obtain ⟨rest, seq⟩ := List.head?_eq_some_iff.mp first
    have open_ := inv'.sound.first first
    have linked := inv'.descriptors.ptr_linked inv'.sound open_
      (inv'.descriptors.of_open inv'.sound open_ (.inl mq)) ptr
    have des : d.pool = .descriptor := inv'.sound.kind open_
    have link : e.pool = .descriptor_ptr := inv'.sound.kind linked
    rw [store] at mq ptr
    have one_more (x : Addr) : (∀ d' ∈ dropped ++ [d], (k.store.descriptor d').ptr ≠ some x) ↔
        x ≠ e ∧ ∀ d' ∈ dropped, (k.store.descriptor d').ptr ≠ some x := by
      simp [or_imp, forall_and, ptr, eq_comm, and_comm]
    refine ⟨dropped ++ [d], ?_, ?_, fun h other => ?_, fun x => ?_⟩
    · simp [Scene.dropDescriptor, whole, seq]
    · intro d' member
      rcases List.mem_append.mp member with before | last
      · exact queues d' before
      · cases List.mem_singleton.mp last
        simp [mq]
    · -- only the list of this queue has the pointer
      by_cases here : h = .descriptors_ptrs q
      · subst here
        have nodup := inv'.sound.nodup (.descriptors_ptrs q)
        simp only [one_more, Bool.decide_and]
        rw [← List.filter_filter, ← lists _ (by simp)]
        have erased : (j.dropDescriptor r d q e).seq (.descriptors_ptrs q) =
            (j.seq (.descriptors_ptrs q)).erase e := by simp [Scene.dropDescriptor]
        rw [erased, nodup.erase_eq_filter]
        apply List.filter_congr
        intro x _
        by_cases same : x = e <;> simp [same]
      · simp only [one_more, Bool.decide_and]
        rw [← List.filter_filter, ← lists _ other]
        have kept (x : Addr) (member : x ∈ j.seq h) : x ≠ e := by
          rintro rfl
          exact here (by simpa using (inv'.sound.mem_seq.mp member).symm.trans linked)
        rw [List.filter_eq_self.mpr fun x member => decide_eq_true (kept x member)]
        simp [Scene.dropDescriptor, here, other]
    · have erased : (j.dropDescriptor r d q e).Live c x ↔ x ≠ d ∧ x ≠ e ∧ j.Live c x := by
        simp only [Scene.dropDescriptor, Scene.live_release des, Scene.live_release link, Scene.live_detach]
      rw [erased, live, one_more, List.mem_append, List.mem_singleton]
      tauto

theorem AwaitsDeath.after {touched : List Pool} {q : Addr} {pid : Int} (frame : Scene.Frame touched k k')
    (other : .pcb ∉ touched) (differs : q ≠ r) (awaits : k.AwaitsDeath q pid) :
    (k'.bury r q).AwaitsDeath q pid := by
  obtain ⟨waits, call, args⟩ := awaits
  have status : (k'.store.pcb q).status = (k.store.pcb q).status := frame.status other q
  refine ⟨?_, ?_, ?_⟩
  · simpa [Scene.bury, differs] using status.trans waits
  · simpa [Scene.bury] using (frame.call q).trans call
  · simpa [Scene.bury, frame.args q] using args

theorem Scene.Frame.mono {touched touched' : List Pool} (frame : Scene.Frame touched k k')
    (more : touched ⊆ touched') : Scene.Frame touched' k k' where
  place other := frame.place fun here => other (more here)
  seq other := frame.seq fun here => other (more here)
  free other := frame.free fun here => other (more here)
  status other := frame.status fun here => other (more here)
  pid := frame.pid
  parent := frame.parent
  timer := frame.timer
  call := frame.call
  args := frame.args
  pcb_ptr other := frame.pcb_ptr fun here => other (more here)
  timer_item other := frame.timer_item fun here => other (more here)
  descriptor other := frame.descriptor fun here => other (more here)
  descriptor_ptr other := frame.descriptor_ptr fun here => other (more here)
  mq other := frame.mq fun here => other (more here)
  message other := frame.message fun here => other (more here)
  init_pcb := frame.init_pcb
  last_pid := frame.last_pid

theorem Reparents.resumed {i q e : Addr} (inv : Coherent c (some r) none k) (init : k.store.init_pcb = some i)
    (reparents : Reparents r i k k') (parent : (k.store.pcb r).parent = some q)
    (awaited : (k'.bury r q).AwaitsDeath q (k.store.pcb r).pid)
    (entry : (k'.bury r q).entry q (k.store.pcb r).pid = some e) :
    Coherent c (some q) (some r) ((k'.bury r q).resumeParent r q e) ∧
      Scene.Frame [.pcb, .pcb_ptr] k ((k'.bury r q).resumeParent r q e) ∧
      k'.place e = .linked (.children q) ∧ k'.store.pcb_ptr e = some r := by
  obtain ⟨inv', frame⟩ := reparents.coherent inv init
  obtain ⟨-, -, zombie, entry, names, blocked, buried, resumed⟩ := reparents.resumption inv init parent awaited entry
  have kind : e.pool = .pcb_ptr := buried.sound.kind entry
  have waits : q.pool = .pcb := buried.sound.kind blocked.1
  have dead : r.pool = .pcb := buried.sound.kind zombie
  have apart : e ≠ r := by
    rintro rfl
    cases zombie.symm.trans entry
  have moved : Scene.Frame [.pcb, .pcb_ptr] k (k'.bury r q) := (frame.mono (by simp)).trans (.bury dead (by simp))
  refine ⟨resumed, moved.trans (.resumeParent waits kind (by simp) (by simp)), ?_, names⟩
  simpa [Scene.bury, apart] using entry

theorem Shows.releases_all {q e : Addr} {j j' : Scene} (shows : Shows c m k)
    (step : Step c m (.syscall DSOS_CALL_EXIT args) m')
    (resumed : Coherent c (some q) (some r) ((j.bury r q).resumeParent r q e))
    (frame : Scene.Frame [.pcb, .pcb_ptr] (k.enter r DSOS_CALL_EXIT args) ((j.bury r q).resumeParent r q e))
    (drops : ReflTransGen (DropRound r) ((j.bury r q).resumeParent r q e) j')
    (closed : j'.seq (.descriptors r) = []) (shows' : Shows c m' (j'.vanish r q)) :
    ReleasesAll c m r args := by
  obtain ⟨dropped, whole, -, lists, live⟩ := DropRound.releases resumed drops
  have same : ((j.bury r q).resumeParent r q e).store.descriptor = m.store.descriptor := by
    rw [frame.descriptor (by simp), shows.store]
    rfl
  have all : m.list (.descriptors r) = dropped := by
    rw [closed, List.append_nil, frame.seq (by simp [Head.kind])] at whole
    rw [shows.list, ← whole]
    rfl
  rw [same] at lists live
  refine ⟨m', step, ?_, fun o => ?_, fun x pool => ?_⟩
  · rw [shows'.list]
    simpa [Scene.vanish] using closed
  · have still : (j'.vanish r q).seq (.descriptors_ptrs o) = j'.seq (.descriptors_ptrs o) := by
      simp [Scene.vanish]
    rw [all, shows'.list, shows.list, still, lists _ (by simp), frame.seq (by simp [Head.kind])]
    rfl
  · have other : x.pool ≠ .pcb := by rcases pool with kind | kind <;> simp [kind]
    have still : (j'.vanish r q).Live c x ↔ j'.Live c x := by
      simp only [Scene.vanish, Scene.live_run, Scene.live_release_of_ne other, Scene.live_detach]
    have before : ((j.bury r q).resumeParent r q e).Live c x ↔ k.Live c x :=
      frame.live (by rcases pool with kind | kind <;> simp [kind])
    rw [shows'.allocated, shows.allocated, still, live, before, all]

theorem Shows.exit_releases (shows : Shows c m k) (inv : Coherent c k.store.running none k)
    (lineage : k.Lineage) (runs : k.store.running = some r) {q : Addr} (parent : WaitingParent m r q) :
    ReleasesAll c m r args ↔ (∀ d ∈ m.list (.descriptors r), (m.store.descriptor d).mq ≠ none) ∧
      ∃ e ∈ m.list (.children q), m.store.pcb_ptr e = some r := by
  obtain ⟨named, waits⟩ := parent
  rw [shows.store] at named waits
  have handler : Handles c DSOS_CALL_EXIT = some Exit := rfl
  have entered := inv.entered runs DSOS_CALL_EXIT args
  have differs : q ≠ r := by
    rintro rfl
    cases (inv.processes.not_waiting runs).symm.trans (inv.processes.waits waits.1)
  have named' : ((k.enter r DSOS_CALL_EXIT args).store.pcb r).parent = some q := by
    simpa [Scene.enter] using named
  have awaited : (k.enter r DSOS_CALL_EXIT args).AwaitsDeath q
      ((k.enter r DSOS_CALL_EXIT args).store.pcb r).pid := by
    simpa [Scene.AwaitsDeath, Scene.enter, differs] using waits
  have still {i : Addr} {j : Scene} (init : k.store.init_pcb = some i)
      (reparents : Reparents r i (k.enter r DSOS_CALL_EXIT args) j) :
      (j.bury r q).AwaitsDeath q ((k.enter r DSOS_CALL_EXIT args).store.pcb r).pid := by
    exact AwaitsDeath.after (reparents.coherent entered init).2 (by simp) differs awaited
  -- the loop over the descriptors starts with those of the call
  have same {j j' : Scene} {e : Addr} (resumed : Coherent c (some q) (some r) ((j.bury r q).resumeParent r q e))
      (frame : Scene.Frame [.pcb, .pcb_ptr] (k.enter r DSOS_CALL_EXIT args) ((j.bury r q).resumeParent r q e))
      (drops : ReflTransGen (DropRound r) ((j.bury r q).resumeParent r q e) j') :
      j'.store.descriptor = k.store.descriptor ∧
      ((j.bury r q).resumeParent r q e).seq (.descriptors r) = k.seq (.descriptors r) := by
    obtain ⟨-, store, -⟩ := drops_frame resumed drops
    exact ⟨by rw [store, frame.descriptor (by simp)]; rfl, frame.seq (by simp [Head.kind])⟩
  constructor
  · rintro ⟨m', step, -⟩
    obtain ⟨k', shows', ends⟩ := step.handled shows inv runs rfl
    cases ends with
    | buried init reparents parent unawaited ready =>
      cases named'.symm.trans parent
      exact absurd (still init reparents) unawaited
    | resumes init reparents parent awaited entry drops closed =>
      cases named'.symm.trans parent
      obtain ⟨resumed, frame, linked, names⟩ := reparents.resumed entered init named' awaited entry
      obtain ⟨there, names'⟩ := parent_before inv lineage runs init reparents linked names (by simp [named])
      obtain ⟨dropped, whole, queues, -⟩ := DropRound.releases resumed drops
      rw [(same resumed frame drops).2, closed, List.append_nil] at whole
      rw [shows.list, shows.list, shows.store, whole]
      rw [frame.descriptor (by simp)] at queues
      exact ⟨queues, _, inv.sound.mem_seq.mpr there, names'⟩
  · rintro ⟨queues, e, member, names⟩
    have there := shows.mem_list.mp member
    rw [shows.store] at names
    rcases shows.handled inv runs handler args with ⟨m', k', step, shows', ends⟩ | ⟨stop, -, stops⟩ | ⟨k', ends, idle⟩ | loops
    · cases ends with
      | buried init reparents parent unawaited ready =>
        cases named'.symm.trans parent
        exact absurd (still init reparents) unawaited
      | resumes init reparents parent awaited entry drops closed =>
        cases named'.symm.trans parent
        obtain ⟨resumed, frame, -⟩ := reparents.resumed entered init named' awaited entry
        exact shows.releases_all step resumed frame drops closed shows'
    · cases stops with
      | orphan init reparents parent => cases named'.symm.trans parent
      | stuck init reparents parent unawaited idle =>
        cases named'.symm.trans parent
        exact absurd (still init reparents) unawaited
      | stray init reparents parent awaited absent =>
        cases named'.symm.trans parent
        exact absurd absent (reparents.listed entered init differs there names)
      | otherKind init reparents parent awaited entry drops first resource =>
        cases named'.symm.trans parent
        obtain ⟨resumed, frame, -⟩ := reparents.resumed entered init named' awaited entry
        obtain ⟨dropped, whole, -⟩ := DropRound.releases resumed drops
        obtain ⟨store, seq⟩ := same resumed frame drops
        rw [store] at resource
        rw [shows.store] at queues
        refine absurd resource (queues _ ?_)
        rw [shows.list, ← seq, whole]
        exact List.mem_append_right _ (List.mem_of_mem_head? first)
    · -- no exit leaves the processor idle
      cases ends <;> cases idle
    · cases loops with
      | forever init children =>
        have init : k.store.init_pcb = some r := init
        cases named.symm.trans (inv.tree.init_parent init)

end

/-- Descriptors are released safely exactly when their kinds match. -/
theorem descriptors_released (c : Constants) {m : Kernel} (reach : Reachable c.toConfig m) {r : Addr}
    (runs : m.store.running = some r) (num : Int) (args : Nat → Int) :
    ReleasesSafely c.toConfig m r num args ↔ KindsMatch m r num args := by
  obtain ⟨k, shows, inv, -, lineage⟩ := reach.lineage
  rw [shows.store] at runs
  refine and_congr (imp_congr_right ?_) (and_congr (imp_congr_right ?_) (imp_congr_right ?_))
  · rintro rfl
    exact shows.closes inv runs rfl (by decide) fun kind => .inl kind
  · rintro rfl
    exact shows.closes inv runs rfl (by decide) fun kind => .inr kind
  · rintro rfl
    exact forall_congr' fun q => imp_congr_right fun parent => shows.exit_releases inv lineage runs parent

/-- The first process has created a queue, whose descriptor is 0. -/
def queue_open : Observed always fun m => m.store.running = some (block .pcb 0) ∧
    m.descriptor (block .pcb 0) 0 = some (block .descriptor 0) ∧
    (m.store.descriptor (block .descriptor 0)).mq = some (block .message_queue 0) :=
  observe always [.syscall DSOS_CALL_OPEN_MQ (arguments [5, 1])] (by decide +kernel)

theorem descriptors_released_queue : ∃ m, Reachable constants.toConfig m ∧
    Releases constants.toConfig m (block .pcb 0) DSOS_CALL_CLOSE_MQ (arguments [0])
      (block .descriptor 0) (block .message_queue 0) := by
  obtain ⟨m, reached, runs, found, mq⟩ := queue_open
  have fd : int32 (arguments [0] 0) = 0 := by decide
  have kinds : KindsMatch m (block .pcb 0) DSOS_CALL_CLOSE_MQ (arguments [0]) := by
    refine ⟨fun _ d named => ?_, fun call => absurd call (by decide), fun call => absurd call (by decide)⟩
    rw [fd, found] at named
    cases named
    simp [mq]
  have closes := ((descriptors_released constants reached.reachable runs _ _).mpr kinds).1 rfl
  simp only [ClosesSafely, fd, found, mq] at closes
  exact ⟨m, reached.reachable, closes⟩

/-- The first process has created a resource, whose descriptor is 0. -/
def resource_open : Observed always fun m => m.store.running = some (block .pcb 0) ∧
    m.descriptor (block .pcb 0) 0 = some (block .descriptor 0) ∧
    (m.store.descriptor (block .descriptor 0)).mq = none :=
  observe always [.syscall DSOS_CALL_OPEN_RESOURCE (arguments [5, 0, 1])] (by decide +kernel)

/-- It closes it as a queue. -/
theorem release_other_kind : ¬ ∀ m, Reachable constants.toConfig m → ∀ r, m.store.running = some r →
    ∀ (num : Int) (args : Nat → Int), ReleasesSafely constants.toConfig m r num args := by
  intro every
  obtain ⟨m, reached, runs, found, mq⟩ := resource_open
  obtain ⟨k, shows, inv, -⟩ := reached.reachable.shows
  have closes := (every m reached.reachable _ runs DSOS_CALL_CLOSE_MQ (arguments [0])).1 rfl
  have handler : Handles constants.toConfig DSOS_CALL_CLOSE_MQ = some CloseMessageQueue := rfl
  have kinds := (shows.closes inv (shows.store ▸ runs) handler (by decide) fun kind => .inl kind).mp closes
  have fd : int32 (arguments [0] 0) = 0 := by decide
  rw [fd] at kinds
  exact kinds _ found mq

end DisastrOS
