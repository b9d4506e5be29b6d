import DisastrOS.Parents
import DisastrOS.Releasing
import DisastrOS.Selection

/-! No death of a child goes unnoticed by a parent that waits for it.

Whether a wait ends is decided twice, by the scan of `internal_wait` before the
caller blocks and by the test of `internal_exit` on its parent.
-/

set_option autoImplicit false

namespace DisastrOS

open Refinement
open Relation (ReflTransGen)

/-- What a process that is blocked in `wait` may rely on. -/
structure Scene.Watches (k : Scene) (p : Addr) : Prop where
  any : (k.store.pcb p).syscall_args 0 = 0 → ∀ e z, k.place e = .linked (.children p) →
    k.store.pcb_ptr e = some z → k.status z ≠ .Zombie
  one : 0 < (k.store.pcb p).syscall_args 0 → ∃ e z, k.place e = .linked (.children p) ∧
    k.store.pcb_ptr e = some z ∧ (k.store.pcb z).pid = (k.store.pcb p).syscall_args 0 ∧ k.status z ≠ .Zombie

/-- `except` is the parent that the dying process is about to resume. -/
structure Scene.Watched (k : Scene) (except : Pointer) : Prop where
  parented : k.Parented
  watches : ∀ p, except ≠ some p → k.Blocked p DSOS_CALL_WAIT → k.Watches p

section
variable {c : Config} {tag : Tag} {P P' : Phase} {except : Pointer}

theorem Move.dies (move : Move c tag P P') {z : Addr} (dead : P'.scene.status z = .Zombie) :
    P.scene.status z = .Zombie ∨ ∃ q, tag = .buried z q ∧ (P.scene.store.pcb z).parent = some q := by
  cases move with
  | @bury k go r q parent childless =>
    by_cases same : z = r
    · subst same
      exact .inr ⟨q, rfl, parent⟩
    · exact .inl (by simpa [Scene.bury, Scene.status, same] using dead)
  | _ =>
    -- the other moves give a process one of the other statuses, or leave it the one it has
    left
    simp [Scene.tick, Scene.enter, Scene.block, Scene.startTimer, Scene.dispatch, Scene.enqueue, Scene.wakeSleeper,
      Scene.rotate, Scene.reparent, Scene.destroy, Scene.newQueue, Scene.resumeParent, Scene.newChild,
      Scene.dropDescriptor, Scene.newResource, Scene.finishRead, Scene.finishWrite, Scene.post,
      Scene.openDescriptor, Scene.wakeWaiter, Scene.wakeWriter, Scene.reap, Scene.vanish, Scene.restart, Scene.status] at dead ⊢
    grind

theorem Move.begins_wait (move : Move c tag P P') (inv : P.Coherent c) {p : Addr}
    (blocked : P'.scene.Blocked p DSOS_CALL_WAIT) :
    (P.scene.Blocked p DSOS_CALL_WAIT ∧
      (P'.scene.store.pcb p).syscall_args = (P.scene.store.pcb p).syscall_args) ∨ tag = .waits p := by
  rcases move.joins inv blocked.1 with before | joins
  · obtain ⟨num, args⟩ := move.same_call inv before
    exact .inl ⟨⟨before, num.symm.trans blocked.2⟩, args⟩
  · cases joins with
    | waits runs => exact .inr rfl
    | blocks runs calls => exact absurd ((move.call nofun).1.symm.trans blocked.2) calls

/-- The child that a blocked process names stays, unless its death resumes the process. -/
theorem Move.child_stays (move : Move c tag P P') (inv : P.Coherent c) (kept : tag ≠ .adopted) {e p z : Addr}
    (alive : P.scene.Live c p) (linked : P.scene.place e = .linked (.children p))
    (names : P.scene.store.pcb_ptr e = some z) (undead : P.scene.status z ≠ .Zombie) :
    P'.scene.place e = .linked (.children p) := by
  rcases move.leaves inv linked with leaves | still
  · cases leaves with
    | collected names' zombie =>
      cases names.symm.trans names'
      exact absurd zombie undead
    | adopted => exact absurd rfl kept
    | resumes names' awaits =>
      cases names.symm.trans names'
      cases move with
      | resume zombie entry awaits => exact absurd (by simpa using inv.listed_status zombie rfl) undead
    | lost owner dead =>
      cases owner
      exact absurd alive dead
  · exact still

theorem Move.watched (move : Move c tag P P') (inv : P.Coherent c) (kept : tag ≠ .adopted)
    (buries : ∀ r q, tag = .buried r q → except = some q ∨ ¬ P.scene.AwaitsDeath q (P.scene.store.pcb r).pid)
    (waits : ∀ r, tag = .waits r → P'.scene.Watches r) (watched : P.scene.Watched except) :
    P'.scene.Watched except := by
  refine ⟨move.parented inv kept watched.parented, fun p other blocked => ?_⟩
  rcases move.begins_wait inv blocked with ⟨before, args⟩ | begins
  · obtain ⟨any, one⟩ := watched.watches p other before
    have alive := inv.sound.live before.1
    have waiting : P.scene.status p = .Waiting := by simpa using inv.listed_status before.1 rfl
    -- a child that dies now would end the wait
    have survives {e z : Addr} (linked : P.scene.place e = .linked (.children p))
        (names : P.scene.store.pcb_ptr e = some z) (undead : P.scene.status z ≠ .Zombie)
        (asked : (P.scene.store.pcb p).syscall_args 0 = 0 ∨
          (P.scene.store.pcb p).syscall_args 0 = (P.scene.store.pcb z).pid) : P'.scene.status z ≠ .Zombie := by
      intro dead
      rcases move.dies dead with already | ⟨q, rfl, parent⟩
      · exact undead already
      · cases (watched.parented e p z linked names).symm.trans parent
        rcases buries z p rfl with same | unawaited
        · exact other same
        · exact unawaited ⟨waiting, before.2, asked⟩
    constructor
    · intro all e z linked names
      rw [args] at all
      cases move.entry inv linked names with
      | stays there named => exact survives there named (any all e z there named) (.inl all)
      | born runs => cases (inv.processes.not_waiting runs).symm.trans before.1
      | adopted => exact absurd rfl kept
    · intro positive
      rw [args] at positive ⊢
      obtain ⟨e, z, linked, names, pid, undead⟩ := one positive
      obtain ⟨⟨z', names', child, -⟩, -⟩ := inv.tree.entry linked
      cases names.symm.trans names'
      exact ⟨e, z, move.child_stays inv kept alive linked names undead, (move.pcb_ptr inv linked).trans names,
        (move.pid inv child).trans pid, survives linked names undead (.inr pid.symm)⟩
  · exact waits p begins

end

/-- No process exits while it has children, and a pid that a process with children waits for is that
of one of them. -/
def DeathsNoticed (m : Kernel) : Event → Prop
  | .syscall num args => NoOrphans m (.syscall num args) ∧
      (num = DSOS_CALL_WAIT → 0 < args 0 → ∀ r ∈ m.store.running, m.list (.children r) ≠ [] →
        int32 (args 0) = args 0 ∧
          ∃ e ∈ m.list (.children r), ∃ z ∈ m.store.pcb_ptr e, (m.store.pcb z).pid = args 0)
  | _ => True

instance : ∀ m e, Decidable (DeathsNoticed m e)
  | m, .syscall num args => by
    unfold DeathsNoticed
    infer_instance
  | _, .user _ => inferInstanceAs (Decidable True)
  | _, .tick => inferInstanceAs (Decidable True)
  | _, .proceed => inferInstanceAs (Decidable True)

section
variable {c : Config} {m : Kernel} {k k' : Scene} {r e z : Addr} {args : Nat → Int}

theorem Shows.wait_watches (shows : Shows c m k) (inv : Coherent c k.store.running none k)
    (noticed : DeathsNoticed m (.syscall DSOS_CALL_WAIT args)) (runs : k.store.running = some r)
    (found : k.awaited r (int32 (args 0)) = some e) (child : k.store.pcb_ptr e = some z)
    (alive : (k.store.pcb z).status ≠ .Zombie) : (k.enter r DSOS_CALL_WAIT args).Watches r := by
  have asked : ((k.enter r DSOS_CALL_WAIT args).store.pcb r).syscall_args 0 = args 0 := arg_enter (by decide)
  -- the scan has not fallen back on the last child
  have hit {e' : Addr} (there : k.place e' = .linked (.children r))
      (answers : k.answers (int32 (args 0)) e' = true) : k.answers (int32 (args 0)) e = true := by
    cases scan : (k.seq (.children r)).find? (k.answers (int32 (args 0))) with
    | none => exact absurd answers (List.find?_eq_none.mp scan e' (inv.sound.mem_seq.mpr there))
    | some e'' =>
      rw [Scene.awaited, scan] at found
      cases found
      exact List.find?_some scan
  constructor
  · intro all e' z' linked names
    rw [asked] at all
    have zero : int32 (args 0) = 0 := by
      rw [all]
      decide
    intro dead
    have dead' : (k.store.pcb z').status = .Zombie := status_enter.symm.trans dead
    have named : k.store.pcb_ptr e' = some z' := names
    have answers := hit linked ((Scene.answers_iff named).mpr (.inl ⟨zero, dead'⟩))
    rcases (Scene.answers_iff child).mp answers with ⟨-, zombie⟩ | ⟨other, -⟩
    · exact alive zombie
    · exact other zero
  · intro positive
    rw [asked] at positive ⊢
    have parent : m.list (.children r) ≠ [] :=
      List.ne_nil_of_mem (shows.mem_list.mpr (awaited_linked inv.sound found))
    obtain ⟨whole, e', there, z', names, pid⟩ := noticed.2 rfl positive r (by rw [shows.store, runs]; rfl) parent
    rw [shows.store] at names pid
    have nonzero : int32 (args 0) ≠ 0 := by omega
    have answers := hit (shows.mem_list.mp there)
      ((Scene.answers_iff names).mpr (.inr ⟨nonzero, pid.trans whole.symm⟩))
    rcases (Scene.answers_iff child).mp answers with ⟨zero, -⟩ | ⟨-, same⟩
    · exact absurd zero nonzero
    · refine ⟨e, z, awaited_linked inv.sound found, child, ?_, fun dead => alive (status_enter.symm.trans dead)⟩
      rw [← whole, ← same]
      simp [Scene.enter]

theorem Does.adopted {j : Scene} {e : Event} (does : Does c k e j .adopted) :
    ∃ args, e = .syscall DSOS_CALL_EXIT args := by
  cases does with
  | adopts args => exact ⟨args, rfl⟩

theorem Does.watches {j : Scene} {e : Event} (shows : Shows c m k) (inv : Coherent c k.store.running none k)
    (noticed : DeathsNoticed m e) (does : Does c k e j (.waits r)) : j.Watches r := by
  cases does with
  | blocks args runs found child alive ready => exact shows.wait_watches inv noticed runs found child alive

theorem Move.waits_watches {P P' : Phase} (move : Move c (.waits r) P P') (inv : P.Coherent c)
    (watches : P.scene.Watches r) : P'.scene.Watches r := by
  cases move with
  | @block k go r calls =>
    have args : ((k.block r).store.pcb r).syscall_args = (k.store.pcb r).syscall_args := by simp [Scene.block]
    have alive {z : Addr} (undead : k.status z ≠ .Zombie) : (k.block r).status z ≠ .Zombie := by
      by_cases own : z = r
      · simp [Scene.block, Scene.status, own]
      · simpa [Scene.block, Scene.status, own] using undead
    have place {e : Addr} : (k.block r).place e = .linked (.children r) ↔ k.place e = .linked (.children r) := by
      by_cases own : e = r
      · have unlinked : k.place r = .unlinked := inv.processes.not_waiting rfl
        simp [Scene.block, own, unlinked]
      · simp [Scene.block, own]
    refine ⟨fun all e z linked names => ?_, fun positive => ?_⟩
    · rw [args] at all
      exact alive (watches.any all e z (place.mp linked) (by simpa [Scene.block] using names))
    · rw [args] at positive ⊢
      obtain ⟨e, z, linked, names, pid, undead⟩ := watches.one positive
      exact ⟨e, z, place.mpr linked, by simpa [Scene.block] using names, by simpa [Scene.block] using pid,
        alive undead⟩

theorem Exit.watched (inv : Coherent c (some r) none k) (childless : k.seq (.children r) = [])
    (watched : k.Watched none) (exits : Exit r k (.done () k')) : k'.Watched none := by
  have stored {i : Addr} {j : Scene} (init : k.store.init_pcb = some i) (reparents : Reparents r i k j) :
      Coherent c (some r) none j ∧ j.Watched none ∧ Scene.Frame [.pcb_ptr] k j := by
    obtain ⟨chain, frame⟩ := Reparents.chain (A := fun _ tag => tag = .leaves r) rfl
      (fun children => absurd childless children) inv init reparents
    obtain ⟨inv', watched'⟩ := chain.keeps (J := fun P => P.scene.Watched none) inv
      (fun ok inv' move holds => by
        subst ok
        exact move.watched inv' (by simp) (by simp) (by simp) holds) watched
    exact ⟨inv', watched', frame⟩
  cases exits with
  | @buried i q n j init reparents parent unawaited ready =>
    obtain ⟨inv', watched', frame⟩ := stored init reparents
    have bury : Move c (.buried r q) ⟨j, some r, none⟩ ⟨j.bury r q, none, none⟩ :=
      .bury ((frame.parent r).trans parent) reparents.2
    -- the parent is asked again after the children have moved
    have unasked : ¬ j.AwaitsDeath q (j.store.pcb r).pid := by
      intro awaits
      have differs : q ≠ r := by
        rintro rfl
        cases (inv'.processes.not_waiting rfl).symm.trans (inv'.processes.waits awaits.1)
      rw [frame.pid r] at awaits
      have still : Scene.Frame [] j j := .refl
      exact unawaited (AwaitsDeath.after still (by simp) differs awaits)
    have buried := bury.watched inv' (by simp) (fun r' q' same => by cases same; exact .inr unasked) (by simp) watched'
    have dispatch : Move c .plain ⟨j.bury r q, none, none⟩ ⟨_, some n, none⟩ := .dispatch ready
    exact dispatch.watched (bury.coherent inv') (by simp) (by simp) (by simp) buried
  | @resumes i q e j j' init reparents parent awaited entry drops closed =>
    obtain ⟨inv', watched', frame⟩ := stored init reparents
    have resumption := reparents.resumption inv init parent awaited entry
    have buried : (j.bury r q).Watched (some q) :=
      resumption.bury.watched inv' (by simp) (fun r' q' same => by cases same; exact .inl rfl) (by simp)
        ⟨watched'.parented, fun p _ => watched'.watches p (by simp)⟩
    -- the parent that is resumed waits no longer
    have resumed : ((j.bury r q).resumeParent r q e).Watched none := by
      obtain ⟨parented, watches⟩ := resumption.resume.watched resumption.buried (by simp) (by simp) (by simp) buried
      refine ⟨parented, fun p _ blocked => watches p (fun same => ?_) blocked⟩
      cases same
      cases (resumption.resumed.processes.not_waiting rfl).symm.trans blocked.1
    have chain := DropRound.chain (A := fun _ tag => tag = .plain) (fun _ => rfl) resumption.resumed drops
    obtain ⟨inv₃, dropped⟩ := chain.keeps (J := fun P => P.scene.Watched none) resumption.resumed
      (fun ok inv' move holds => by
        subst ok
        exact move.watched inv' (by simp) (by simp) (by simp) holds) resumed
    exact (resumption.vanish drops).watched inv₃ (by simp) (by simp) (by simp) dropped

theorem Reacts.watched {e : Event} (shows : Shows c m k) (inv : Coherent c k.store.running none k)
    (counted : Counted c k) (noticed : DeathsNoticed m e) (watched : k.Watched none)
    (reacts : Reacts c k e (.done () k')) : k'.Watched none := by
  by_cases exits : ∃ args, e = .syscall DSOS_CALL_EXIT args
  · obtain ⟨args, rfl⟩ := exits
    obtain ⟨r, runs⟩ := reacts.runs
    have childless := noticed.1 rfl r (by rw [shows.store, runs]; rfl)
    rw [shows.list] at childless
    have enter : Move c (.enter r DSOS_CALL_EXIT) ⟨k, k.store.running, none⟩
        ⟨k.enter r DSOS_CALL_EXIT args, k.store.running, none⟩ := .enter DSOS_CALL_EXIT args runs
    have entered : Coherent c k.store.running none (k.enter r DSOS_CALL_EXIT args) := enter.coherent inv
    rw [runs] at entered
    exact (reacts.handler_ends rfl runs).watched entered childless (enter.watched inv nofun nofun nofun watched)
  · refine ((reacts.chain inv counted).keeps (J := fun P => P.scene.Watched none) inv
      (fun does inv' move holds => move.watched inv' ?_ ?_ ?_ holds) watched).2
    · rintro rfl
      exact exits does.adopted
    · rintro r q rfl
      exact absurd does.buried.2 exits
    · rintro r rfl
      exact move.waits_watches inv' (does.watches shows inv noticed)

end

/-- No process that is blocked in `wait` has missed what it waits for. -/
def DeathsSeen (m : Kernel) : Prop :=
  ∀ p, (m.store.pcb p).status = .Waiting → (m.store.pcb p).syscall_num = DSOS_CALL_WAIT →
    ((m.store.pcb p).syscall_args 0 = 0 → ∀ e ∈ m.list (.children p), ∀ z, m.store.pcb_ptr e = some z →
      (m.store.pcb z).status ≠ .Zombie) ∧
    (0 < (m.store.pcb p).syscall_args 0 → ∃ e ∈ m.list (.children p), ∃ z, m.store.pcb_ptr e = some z ∧
      (m.store.pcb z).pid = (m.store.pcb p).syscall_args 0 ∧ (m.store.pcb z).status ≠ .Zombie)

theorem deaths_seen (c : Constants) {m : Kernel} (reach : ReachableWith c.toConfig DeathsNoticed m) :
    DeathsSeen m := by
  obtain ⟨k, shows, inv, -, watched⟩ := reach.shows (J := fun k => k.Watched none)
    (fun fresh => ⟨fresh.parented.1, fun p _ blocked => by cases (fresh.place p).symm.trans blocked.1⟩)
    fun shows inv counted noticed holds reacts => reacts.watched shows inv counted noticed holds
  intro p waits call
  rw [shows.store] at waits call ⊢
  obtain ⟨any, one⟩ := watched.watches p nofun ⟨inv.processes.waits waits, call⟩
  refine ⟨fun all e there z names => any all e z (shows.mem_list.mp there) names, fun positive => ?_⟩
  obtain ⟨e, z, linked, names, pid, undead⟩ := one positive
  exact ⟨e, shows.mem_list.mpr linked, z, names, pid, undead⟩

/-- The first process waits for any child. -/
def first_process_waits : Observed DeathsNoticed fun m => (m.store.pcb (block .pcb 0)).status = .Waiting ∧
    (m.store.pcb (block .pcb 0)).syscall_num = DSOS_CALL_WAIT :=
  observe DeathsNoticed
    [.syscall DSOS_CALL_SPAWN (arguments [1, 2]), .syscall DSOS_CALL_WAIT (arguments [0, 0])]
    (by decide +kernel)

theorem deaths_seen_waiting : ∃ m, ReachableWith constants.toConfig DeathsNoticed m ∧
    (m.store.pcb (block .pcb 0)).status = .Waiting ∧
    (m.store.pcb (block .pcb 0)).syscall_num = DSOS_CALL_WAIT ∧ DeathsSeen m := by
  obtain ⟨m, reach, waits, call⟩ := first_process_waits
  exact ⟨m, reach, waits, call, deaths_seen constants reach⟩

/-- `init` waits, adopts a process, and that process exits. -/
def adopted_dies : Observed always fun m => (m.store.pcb (block .pcb 0)).status = .Waiting ∧
    (m.store.pcb (block .pcb 0)).syscall_num = DSOS_CALL_WAIT ∧
    (m.store.pcb (block .pcb 0)).syscall_args 0 = 0 ∧
    (m.list (.children (block .pcb 0))).any (fun e => m.store.pcb_ptr e = some (block .pcb 3)) = true ∧
    (m.store.pcb (block .pcb 3)).status = .Zombie :=
  observe always
    [.syscall DSOS_CALL_SPAWN (arguments [1, 2]), .syscall DSOS_CALL_WAIT (arguments [0, 0]),
      .syscall DSOS_CALL_SPAWN (arguments [1, 2]), .tick, .syscall DSOS_CALL_SPAWN (arguments [1, 2]),
      .syscall DSOS_CALL_EXIT (arguments [7]), .tick, .syscall DSOS_CALL_EXIT (arguments [8])]
    (by decide +kernel)

theorem death_missed : ¬ ∀ m, Reachable constants.toConfig m → DeathsSeen m := by
  intro every
  obtain ⟨m, reach, waits, call, all, adopted, zombie⟩ := adopted_dies
  obtain ⟨e, there, names⟩ := List.any_eq_true.mp adopted
  exact (every m reach.reachable _ waits call).1 all e there _ (of_decide_eq_true names) zombie

end DisastrOS
