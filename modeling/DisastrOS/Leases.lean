import DisastrOS.Footprints
import DisastrOS.Refinement.Lines
import DisastrOS.Teardown

/-! What an open descriptor is good for.

As long as a process neither closes a descriptor nor exits, the descriptor is
found under its number and the object under its identifier, whatever the other
processes do. Nobody can destroy the object or create another in its place.
-/

set_option autoImplicit false

namespace DisastrOS

open Refinement
open Relation (ReflTransGen)

/-! ## Names -/

/-- The blocks in `old` have the identifiers, and the descriptors among them the contents, that they had. -/
structure Scene.NamesKept (old : Addr → Prop) (k k' : Scene) : Prop where
  mq : ∀ q, old q → (k'.store.mq q).id = (k.store.mq q).id
  resource : ∀ x, old x → k'.store.resource x = k.store.resource x
  descriptor : ∀ d, old d → k'.store.descriptor d = k.store.descriptor d

namespace Scene.NamesKept
variable {old : Addr → Prop} {k k' k'' : Scene}

theorem of_same (mq : k'.store.mq = k.store.mq) (resource : k'.store.resource = k.store.resource)
    (descriptor : k'.store.descriptor = k.store.descriptor) : NamesKept old k k' where
  mq q _ := by rw [mq]
  resource x _ := by rw [resource]
  descriptor d _ := by rw [descriptor]

theorem trans (first : NamesKept old k k') (second : NamesKept old k' k'') : NamesKept old k k'' where
  mq q there := (second.mq q there).trans (first.mq q there)
  resource x there := (second.resource x there).trans (first.resource x there)
  descriptor d there := (second.descriptor d there).trans (first.descriptor d there)

theorem rounds {α : Type} {step : α → α → Prop} {s s' : α} (scene : α → Scene) (rounds : ReflTransGen step s s')
    (round : ∀ {s s'}, step s s' → NamesKept old (scene s) (scene s')) : NamesKept old (scene s) (scene s') := by
  induction rounds with
  | refl => exact of_same rfl rfl rfl
  | tail _ last ih => exact ih.trans (round last)

end Scene.NamesKept

section
variable {c : Config} {k k' j : Scene} {r q : Addr} {old : Addr → Prop}

open Scene (NamesKept)

theorem Schedule.names_kept (ends : Schedule r k (.done () k')) : NamesKept old k k' := by
  have woken {j : Scene} (wakes : Wakes k j) : NamesKept old k j := by
    obtain ⟨⟨prev, rounds⟩, -⟩ := wakes
    refine NamesKept.rounds Prod.fst rounds fun round => ?_
    cases round
    exact .of_same rfl rfl rfl
  cases ends with
  | alone wakes idle => exact woken wakes
  | rotates wakes ready => exact (woken wakes).trans (.of_same rfl rfl rfl)

theorem Exit.names_kept (ends : Exit r k (.done () k')) : NamesKept old k k' := by
  have given {i : Addr} {j : Scene} (reparents : Reparents r i k j) : NamesKept old k j := by
    have stored : NamesKept old k (k.setPCB r fun p => { p with return_value := int32 (p.syscall_args 0) }) :=
      .of_same rfl rfl rfl
    refine stored.trans (.rounds id reparents.1 fun round => ?_)
    cases round
    exact .of_same rfl rfl rfl
  cases ends with
  | buried init reparents parent unawaited ready => exact (given reparents).trans (.of_same rfl rfl rfl)
  | @resumes i p e j j' init reparents parent awaited entry drops closed =>
    have resumed : NamesKept old j ((j.bury r p).resumeParent r p e) := by
      apply NamesKept.of_same <;> simp [Scene.resumeParent, Scene.bury]
    have dropped : NamesKept old ((j.bury r p).resumeParent r p e) j' := by
      refine .rounds id drops fun round => ?_
      cases round
      exact .of_same rfl rfl rfl
    exact (((given reparents).trans resumed).trans dropped).trans (.of_same rfl rfl rfl)

theorem OpenDescriptor.names_kept {o : Addr} {resource mq : Pointer}
    (fresh : ∀ d, (k.free .descriptor).head? = some d → ¬ old d)
    (ends : OpenDescriptor r o resource mq k (.done () k')) : NamesKept old k k' := by
  cases ends with
  | refused full => exact .of_same rfl rfl rfl
  | @opened d e des unspent ptr =>
    refine ⟨fun _ _ => rfl, fun _ _ => rfl, fun d' there => ?_⟩
    have other : d' ≠ d := by
      rintro rfl
      exact fresh d' des there
    simp [Scene.openDescriptor, other]

theorem OpenResource.names_kept (fresh : ∀ p x, (k.free p).head? = some x → ¬ old x)
    (ends : OpenResource r k (.done () k')) : NamesKept old k k' := by
  cases ends with
  | taken | unknown | mistyped | shared => exact .of_same rfl rfl rfl
  | @creates x _ create absent top opens =>
    have created : NamesKept old k (k.newResource x (k.intArg r 0) (k.intArg r 1)) := by
      refine ⟨fun _ _ => rfl, fun y there => ?_, fun _ _ => rfl⟩
      have other : y ≠ x := by
        rintro rfl
        exact fresh _ y top there
      simp [Scene.newResource, other]
    exact created.trans (opens.names_kept fun d des => fresh .descriptor d (by simpa [Scene.newResource] using des))
  | opens old found type free opens => exact opens.names_kept (fresh .descriptor)

theorem OpenMessageQueue.names_kept (fresh : ∀ p x, (k.free p).head? = some x → ¬ old x)
    (ends : OpenMessageQueue r k (.done () k')) : NamesKept old k k' := by
  cases ends with
  | taken | unknown | shared => exact .of_same rfl rfl rfl
  | @creates q _ create absent top opens =>
    have created : NamesKept old k (k.newQueue q (k.intArg r 0)) := by
      refine ⟨fun y there => ?_, fun _ _ => rfl, fun _ _ => rfl⟩
      have other : y ≠ q := by
        rintro rfl
        exact fresh _ y top there
      simp [Scene.newQueue, other]
    exact created.trans (opens.names_kept fun d des => fresh .descriptor d (by simpa [Scene.newQueue] using des))
  | opens old found free opens => exact opens.names_kept (fresh .descriptor)

theorem Suspend.names_kept {mq : Pointer} {waiting : Addr → Head} (ends : Suspend r mq waiting k (.done () k')) :
    NamesKept old k k' := by
  cases ends
  exact .of_same rfl rfl rfl

theorem Read.names_kept (ends : Read r k (.done () k')) : NamesKept old k k' := by
  cases ends with
  | waits empty suspends => exact suspends.names_kept
  | short => exact .of_same rfl rfl rfl
  | @takes q m j found first fits wakes user =>
    have detached : NamesKept old k (k.detach (.messages q) m) := .of_same rfl rfl rfl
    have woken : NamesKept old (k.detach (.messages q) m) j := by
      refine .rounds id wakes.1 fun round => ?_
      cases round
      exact .of_same rfl rfl rfl
    have counted : NamesKept old j (j.finishRead r q m (k.arg r 1)) := by
      refine ⟨fun u _ => ?_, fun _ _ => rfl, fun _ _ => rfl⟩
      by_cases same : u = q <;> simp [Scene.finishRead, same]
    exact (detached.trans woken).trans counted

theorem Write.names_kept (ends : Write c r k (.done () k')) : NamesKept old k k' := by
  cases ends with
  | tooLong | unknown => exact .of_same rfl rfl rfl
  | waits fits found full suspends => exact suspends.names_kept
  | @writes q m j fits found room block user wakes =>
    have posted : NamesKept old k (k.post q m (k.arg r 1) (k.intArg r 2)) := .of_same rfl rfl rfl
    have woken : NamesKept old (k.post q m (k.arg r 1) (k.intArg r 2)) j := by
      refine .rounds id wakes.1 fun round => ?_
      cases round
      exact .of_same rfl rfl rfl
    have counted : NamesKept old j (j.finishWrite r q (k.intArg r 2)) := by
      refine ⟨fun u _ => ?_, fun _ _ => rfl, fun _ _ => rfl⟩
      by_cases same : u = q <;> simp [Scene.finishWrite, same]
    exact (posted.trans woken).trans counted

theorem handler_names_kept {H : Addr → Scene → Ending → Prop} {num : Int} (handler : Handles c num = some H)
    (fresh : ∀ p x, (k.free p).head? = some x → ¬ old x) (ends : H r k (.done () k')) : NamesKept old k k' := by
  cases handler_entry handler with
  | preempt => exact Schedule.names_kept ends
  | fork | spawn =>
    cases ends
    exact .of_same rfl rfl rfl
  | wait =>
    cases ends with
    | reaps found child zombie => apply NamesKept.of_same <;> simp [Scene.reap]
    | childless | blocks => exact .of_same rfl rfl rfl
  | exit => exact Exit.names_kept ends
  | sleep =>
    cases ends <;> exact .of_same rfl rfl rfl
  | openResource => exact OpenResource.names_kept fresh ends
  | closeResource | closeMessageQueue | destroyResource | destroyMessageQueue =>
    cases ends <;> exact .of_same rfl rfl rfl
  | shutdown => cases ends
  | openMessageQueue => exact OpenMessageQueue.names_kept fresh ends
  | write => exact Write.names_kept ends
  | read => exact Read.names_kept ends

theorem Reacts.names_kept {e : Event} (inv : Coherent c k.store.running none k) (reacts : Reacts c k e (.done () k')) :
    NamesKept (k.Live c) k k' := by
  have fresh : ∀ p x, (k.free p).head? = some x → ¬ k.Live c x := fun p x top => (inv.sound.top top).2.2
  cases reacts with
  | user memory => exact .of_same rfl rfl rfl
  | outOfRange running range => exact .of_same rfl rfl rfl
  | unknown running range absent => exact .of_same rfl rfl rfl
  | @handled num args r _ H running handler ends logged =>
    have entered : NamesKept (k.Live c) k (k.enter r num args) := .of_same rfl rfl rfl
    exact entered.trans (handler_names_kept handler fresh ends)
  | @tick r _ running schedules =>
    have ticked : NamesKept (k.Live c) k (k.tick r) := .of_same rfl rfl rfl
    exact ticked.trans schedules.names_kept
  | proceeds leaves =>
    cases leaves <;> exact .of_same rfl rfl rfl

end

/-! ## Processes and their descriptors -/

/-- `p` is a process that has not exited. -/
structure Scene.Alive (c : Config) (k : Scene) (p : Addr) : Prop where
  allocated : k.Live c p
  pool : p.pool = .pcb
  lives : k.place p ≠ .linked .zombie_list

/-- `p` runs, is ready or waits. -/
def Kernel.Lives (m : Kernel) (p : Addr) : Prop :=
  m.store.running = some p ∨ p ∈ m.list .ready_list ∨ p ∈ m.list .waiting_list

/-- The process `p` exits, or closes the descriptor with the number `fd`. -/
def Abandons (m : Kernel) (p : Addr) (fd : Int) : Event → Prop
  | .syscall num args => m.store.running = some p ∧ (num = DSOS_CALL_EXIT ∨
      num ∈ [DSOS_CALL_CLOSE_RESOURCE, DSOS_CALL_CLOSE_MQ] ∧ int32 (args 0) = fd)
  | _ => False

section
variable {c : Config} {m m' : Kernel} {k k' : Scene} {r p d : Addr} {e : Event}

theorem Coherent.runner_alive {runner gone : Pointer} (inv : Coherent c runner gone k) (runs : runner = some r) :
    k.Alive c r := by
  obtain ⟨alive, pool⟩ := inv.processes.runs runs
  refine ⟨alive, pool, fun dead => ?_⟩
  cases (inv.processes.not_waiting runs).symm.trans dead

theorem Shows.lives (shows : Shows c m k) (inv : Coherent c k.store.running none k) : m.Lives p ↔ k.Alive c p := by
  rw [Kernel.Lives, shows.store, shows.mem_list, shows.mem_list]
  constructor
  · rintro (runs | linked | linked)
    · exact inv.runner_alive runs
    · exact ⟨inv.sound.live linked, inv.sound.kind linked, by simp [linked]⟩
    · exact ⟨inv.sound.live linked, inv.sound.kind linked, by simp [linked]⟩
  · intro alive
    rcases inv.processes.stands alive.allocated alive.pool with ⟨runs, -⟩ | ⟨-, ready | waits | dead⟩
    · exact .inl runs
    · exact .inr (.inl ready.1)
    · exact .inr (.inr waits.1)
    · exact absurd dead.1 alive.lives

/-- A process dies only when it is buried, and its block is free only when it is dead. -/
theorem Move.alive {tag : Tag} {P P' : Phase} (move : Move c tag P P') (inv : P.Coherent c)
    (alive : P.scene.Alive c p) (stays : P.gone ≠ some p) (other : ∀ q, tag ≠ .buried p q) :
    P'.scene.Alive c p ∧ P'.gone ≠ some p := by
  refine ⟨⟨?_, alive.pool, fun dead => ?_⟩, fun gone => ?_⟩
  · rcases move.process_stays inv alive.pool alive.allocated with still | rfl | ⟨gone, -⟩
    · exact still
    · cases move with
      | reap result entry names zombie =>
        exact absurd (inv.processes.zombie alive.allocated alive.pool zombie) alive.lives
    · exact absurd gone stays
  · rcases move.joins inv dead with before | joins
    · exact alive.lives before
    · cases joins with
      | dies runs parent childless => exact other _ rfl
  · by_cases resumes : ∃ r q, tag = .resumed r q
    · obtain ⟨r, q, rfl⟩ := resumes
      cases move with
      | resume zombie entry awaits =>
        cases gone
        exact alive.lives zombie
    · rcases move.gone (fun r q same => resumes ⟨r, q, same⟩) with same | none_gone
      · exact stays (same.symm.trans gone)
      · cases none_gone.symm.trans gone

theorem Reacts.alive (inv : Coherent c k.store.running none k) (counted : Counted c k) (alive : k.Alive c p)
    (stays : ¬ (k.store.running = some p ∧ ∃ args, e = .syscall DSOS_CALL_EXIT args))
    (reacts : Reacts c k e (.done () k')) : k'.Alive c p := by
  have kept := (reacts.chain inv counted).keeps (J := fun P => P.scene.Alive c p ∧ P.gone ≠ some p) inv
    (fun does inv' move holds => move.alive inv' holds.1 holds.2 fun q same => by
      subst same
      exact stays does.buried) ⟨alive, by simp⟩
  exact kept.2.1

theorem OpenDescriptor.keeps_open {o : Addr} {resource mq : Pointer} (ends : OpenDescriptor r o resource mq k (.done () k'))
    (member : d ∈ k.seq (.descriptors p)) : d ∈ k'.seq (.descriptors p) := by
  cases ends with
  | refused full => exact member
  | opened des unspent ptr =>
    by_cases same : p = r
    · subst same
      simp [Scene.openDescriptor, member]
    · simpa [Scene.openDescriptor, same] using member

theorem OpenResource.keeps_open (ends : OpenResource r k (.done () k')) (member : d ∈ k.seq (.descriptors p)) :
    d ∈ k'.seq (.descriptors p) := by
  cases ends with
  | taken | unknown | mistyped | shared => exact member
  | creates create absent top opens => exact opens.keeps_open (by simpa [Scene.newResource] using member)
  | opens old found type free opens => exact opens.keeps_open member

theorem OpenMessageQueue.keeps_open (ends : OpenMessageQueue r k (.done () k')) (member : d ∈ k.seq (.descriptors p)) :
    d ∈ k'.seq (.descriptors p) := by
  cases ends with
  | taken | unknown | shared => exact member
  | creates create absent top opens => exact opens.keeps_open (by simpa [Scene.newQueue] using member)
  | opens old found free opens => exact opens.keeps_open member

theorem Close.keeps_open {object : Pool} {which : Descriptor → Pointer} (ends : Close object which r k (.done () k'))
    (member : d ∈ k.seq (.descriptors p)) (other : (k.store.descriptor d).fd ≠ k.intArg r 0) :
    d ∈ k'.seq (.descriptors p) := by
  cases ends with
  | unknown absent => exact member
  | @closed d' o e found kind ptr =>
    have fd : (k.store.descriptor d').fd = k.intArg r 0 := by simpa using List.find?_some found
    have differs : d ≠ d' := by
      rintro rfl
      exact other fd
    by_cases same : p = r
    · subst same
      simpa [Scene.closeDescriptor, Scene.dropDescriptor] using (List.mem_erase_of_ne differs).mpr member
    · simpa [Scene.closeDescriptor, Scene.dropDescriptor, same] using member

theorem Shows.keeps_open (shows : Shows c m k) (shows' : Shows c m' k') (inv : Coherent c k.store.running none k)
    (alive : k.Alive c p) (member : d ∈ m.list (.descriptors p))
    (holds : ¬ Abandons m p (m.store.descriptor d).fd e) (reacts : Reacts c k e (.done () k')) :
    d ∈ m'.list (.descriptors p) := by
  rw [shows.list] at member
  cases reacts with
  | user memory =>
    rw [shows'.list]
    exact member
  | outOfRange running range =>
    rw [shows'.list]
    exact member
  | unknown running range absent =>
    rw [shows'.list]
    exact member
  | @handled num args r _ H running handler ends logged =>
    -- five calls of the owner may change its descriptors
    by_cases mine : CallLists m r num args (.descriptors p)
    · obtain ⟨call, rfl⟩ := mine
      rw [shows.store] at holds
      have runs : m.store.running = some p := shows.store ▸ running
      have fd : (k.store.descriptor d).fd ≠ int32 (args 0) ∨ num ∉ [DSOS_CALL_CLOSE_RESOURCE, DSOS_CALL_CLOSE_MQ] := by
        by_contra both
        push Not at both
        exact holds ⟨runs, .inr ⟨both.2, both.1.symm⟩⟩
      rw [shows'.list]
      simp only [List.mem_cons, List.not_mem_nil, or_false] at call
      rcases call with rfl | rfl | rfl | rfl | rfl
      · cases handler
        exact OpenResource.keeps_open ends member
      · cases handler
        refine Close.keeps_open ends member ?_
        rw [intArg_enter (by decide)]
        exact fd.resolve_right (by simp)
      · cases handler
        exact OpenMessageQueue.keeps_open ends member
      · cases handler
        refine Close.keeps_open ends member ?_
        rw [intArg_enter (by decide)]
        exact fd.resolve_right (by simp)
      · exact absurd ⟨runs, .inl rfl⟩ holds
    · have same := (handler_stays shows shows' inv running handler ends).lists (.descriptors p) mine fun o owner => by
        cases owner
        exact (shows.allocated p).mpr alive.allocated
      rw [same, shows.list]
      exact member
  | @tick r _ running schedules =>
    have same := schedules.within.lists (.descriptors p) (by simp)
    rw [shows'.list, same]
    exact member
  | proceeds leaves =>
    rw [shows'.list]
    cases leaves with
    | resumes running set => exact member
    | @restarts p' idle pcb unspent =>
      have other : p ≠ p' := by
        rintro rfl
        exact (inv.sound.top pcb).2.2 alive.allocated
      simpa [Scene.restart, other] using member

end

/-! ## Lookups -/

theorem find_alone {α β : Type} [DecidableEq β] {key : α → β} {xs : List α} {x : α} (member : x ∈ xs)
    (alone : ∀ y ∈ xs, key y = key x → y = x) : xs.find? (fun y => key y = key x) = some x := by
  cases found : xs.find? fun y => key y = key x with
  | none =>
    have missed := List.find?_eq_none.mp found x member
    exact absurd (decide_eq_true rfl) missed
  | some y =>
    have same : key y = key x := by simpa using List.find?_some found
    rw [alone y (List.mem_of_find?_eq_some found) same]

def Scene.resourceIds (k : Scene) : List Int := (k.seq .resources_list).map fun x => (k.store.resource x).id

section
variable {c : Config} {m m' : Kernel} {k k' : Scene} {r p d : Addr} {e : Event}

theorem OpenDescriptor.resourceIds {o : Addr} {resource mq : Pointer}
    (ends : OpenDescriptor r o resource mq k (.done () k')) : k'.resourceIds = k.resourceIds := by
  cases ends with
  | refused full => rfl
  | opened des unspent ptr => simp [Scene.resourceIds, Scene.openDescriptor]

theorem OpenResource.distinct (sound : k.Sound c) (distinct : k.resourceIds.Nodup)
    (ends : OpenResource r k (.done () k')) : k'.resourceIds.Nodup := by
  cases ends with
  | taken | unknown | mistyped | shared => exact distinct
  | @creates x _ create absent top opens =>
    have others : ∀ y ∈ k.seq .resources_list, y ≠ x := by
      intro y there
      exact sound.ne_top top (sound.mem_seq.mp there)
    have grown : (k.newResource x (k.intArg r 0) (k.intArg r 1)).resourceIds = k.resourceIds ++ [k.intArg r 0] := by
      have kept : (k.seq .resources_list).map (fun y => ((k.newResource x (k.intArg r 0) (k.intArg r 1)).store.resource y).id) =
          k.resourceIds := by
        apply List.map_congr_left
        intro y there
        simp [Scene.newResource, others y there]
      rw [← kept]
      simp [Scene.resourceIds, Scene.newResource]
    rw [opens.resourceIds, grown, List.nodup_append_comm, List.singleton_append, List.nodup_cons]
    refine ⟨fun there => ?_, distinct⟩
    obtain ⟨y, member, same⟩ := List.mem_map.mp there
    have missed := List.find?_eq_none.mp absent y member
    exact missed (decide_eq_true same)
  | opens old found type free opens =>
    rw [opens.resourceIds]
    exact distinct

theorem Reacts.resources_distinct (shows : Shows c m k) (shows' : Shows c m' k')
    (inv : Coherent c k.store.running none k) (distinct : k.resourceIds.Nodup)
    (reacts : Reacts c k e (.done () k')) : k'.resourceIds.Nodup := by
  have renamed := reacts.names_kept inv
  -- a list that only loses resources keeps them distinct
  have shrunk (fewer : (k'.seq .resources_list).Sublist (k.seq .resources_list)) : k'.resourceIds.Nodup := by
    have kept : k'.resourceIds = (k'.seq .resources_list).map fun x => (k.store.resource x).id := by
      apply List.map_congr_left
      intro x there
      rw [renamed.resource x (inv.sound.live (inv.sound.mem_seq.mp (fewer.subset there)))]
    rw [kept]
    exact distinct.sublist (fewer.map _)
  cases reacts with
  | user memory => exact distinct
  | outOfRange running range => exact distinct
  | unknown running range absent => exact distinct
  | @handled num args r _ H running handler ends logged =>
    by_cases opens : num ∈ [DSOS_CALL_OPEN_RESOURCE, DSOS_CALL_DESTROY_RESOURCE]
    · simp only [List.mem_cons, List.not_mem_nil, or_false] at opens
      rcases opens with rfl | rfl
      · cases handler
        exact OpenResource.distinct (k := k.enter r _ args) inv.sound distinct ends
      · cases handler
        cases ends with
        | unknown | used => exact distinct
        | destroyed found closed =>
          apply shrunk
          simp [Scene.destroy, List.erase_sublist]
    · have same := (handler_stays shows shows' inv running handler ends).lists .resources_list opens (by rintro p ⟨⟩)
      rw [shows'.list, shows.list] at same
      apply shrunk
      rw [same]
  | @tick r _ running schedules =>
    have same := schedules.within.lists .resources_list (by simp)
    apply shrunk
    rw [same]
    exact List.Sublist.refl _
  | proceeds leaves =>
    apply shrunk
    cases leaves <;> simp [Scene.restart]

theorem Reachable.resources_distinct {c : Constants} (reach : Reachable c.toConfig m) :
    ∃ k, Shows c.toConfig m k ∧ Coherent c.toConfig k.store.running none k ∧ Counted c.toConfig k ∧
      k.resourceIds.Nodup := by
  induction reach with
  | start started =>
    obtain ⟨k, shows, fresh⟩ := started.shows
    refine ⟨k, shows, fresh.running ▸ fresh.coherent, fresh.counted, ?_⟩
    simp [Scene.resourceIds, fresh.seq]
  | step _ step ih =>
    obtain ⟨k, shows, inv, counted, distinct⟩ := ih
    obtain ⟨k', shows', reacts⟩ := step.reacts shows inv
    exact ⟨k', shows', (reacts.chain inv counted).coherent inv, reacts.counted inv counted,
      reacts.resources_distinct shows shows' inv distinct⟩

theorem Coherent.finds_descriptor {runner gone : Pointer} (inv : Coherent c runner gone k)
    (open_ : d ∈ k.seq (.descriptors p)) : k.descriptor p (k.store.descriptor d).fd = some d := by
  apply find_alone open_
  intro d' there same
  exact inv.descriptors.distinct (inv.sound.mem_seq.mp there) (inv.sound.mem_seq.mp open_) same

theorem Coherent.finds_queue {runner gone : Pointer} (inv : Coherent c runner gone k) {q : Addr}
    (listed : k.place q = .linked .mq_list) : k.queue (k.store.mq q).id = some q := by
  apply find_alone (inv.sound.mem_seq.mpr listed)
  intro q' there same
  exact inv.queues.distinct (inv.sound.mem_seq.mp there) listed same

theorem Coherent.finds_resource {runner gone : Pointer} (inv : Coherent c runner gone k)
    (distinct : k.resourceIds.Nodup) {x : Addr} (listed : k.place x = .linked .resources_list) :
    k.resource (k.store.resource x).id = some x := by
  have member := inv.sound.mem_seq.mpr listed
  apply find_alone member
  intro y there same
  exact List.inj_on_of_nodup_map distinct there member same

end

/-! ## Leases -/

theorem Shows.certain {c : Config} {m : Kernel} {k : Scene} {r : Addr} {num value : Int} {args : Nat → Int}
    {H : Addr → Scene → Ending → Prop} (shows : Shows c m k) (inv : Coherent c k.store.running none k)
    (runs : k.store.running = some r) (handler : Handles c num = some H)
    (only : ∀ ending, H r (k.enter r num args) ending → ending = .done () ((k.enter r num args).answer r value)) :
    Answers c m r num args value := by
  rcases shows.handled inv runs handler args with
    ⟨m', k', step, shows', ends⟩ | ⟨stop, -, ends⟩ | ⟨k', ends, idle⟩ | ends
  · cases only _ ends
    exact shows.answers step shows'
  · cases only _ ends
  · cases only _ ends
    cases runs.symm.trans idle
  · cases only _ ends

section
variable (c : Config)

/-- Whoever runs, the object with this identifier is neither destroyed nor created again. -/
structure Secured (m : Kernel) (destroy create : Int) (creates : (Nat → Int) → Prop) (id : Int) : Prop where
  destroyed : ∀ r args, m.store.running = some r → int32 (args 0) = id →
    Answers c m r destroy args DSOS_ERESOURCEINUSE
  created : ∀ r args, m.store.running = some r → int32 (args 0) = id → creates args →
    Answers c m r create args DSOS_ERESOURCECREATE

/-- What the descriptor `d`, with the number `fd`, was good for in `m` it is good for in `m'`. -/
structure LeaseKept (m m' : Kernel) (p : Addr) (fd : Int) (d : Addr) : Prop where
  lives : m'.Lives p
  found : m'.descriptor p fd = some d
  same : m'.store.descriptor d = m.store.descriptor d
  queue : ∀ q, (m.store.descriptor d).mq = some q → m'.queue (m.store.mq q).id = some q ∧
    Secured c m' DSOS_CALL_DESTROY_MQ DSOS_CALL_OPEN_MQ (fun args => int32 (args 1) = DSOS_CREATE) (m.store.mq q).id
  resource : ∀ x, (m.store.descriptor d).resource = some x → m'.resource (m.store.resource x).id = some x ∧
    m'.store.resource x = m.store.resource x ∧
    Secured c m' DSOS_CALL_DESTROY_RESOURCE DSOS_CALL_OPEN_RESOURCE (fun args => hasFlag (int32 (args 2)) DSOS_CREATE)
      (m.store.resource x).id

end

section
variable {c : Config} {m m' : Kernel} {k k' : Scene} {r p d o : Addr} {e : Event} {args : Nat → Int}

theorem Destroy.refuses {global : Head} {find : Scene → Int → Pointer} {ending : Ending}
    (found : find k (k.intArg r 0) = some o) (used : k.seq (.descriptors_ptrs o) ≠ [])
    (ends : Destroy global find r k ending) : ending = .done () (k.answer r DSOS_ERESOURCEINUSE) := by
  cases ends with
  | unknown absent => cases absent.symm.trans found
  | used => rfl
  | destroyed found' closed =>
    cases found.symm.trans found'
    exact absurd closed used

theorem OpenMessageQueue.refuses {ending : Ending} (found : k.queue (k.intArg r 0) = some o)
    (create : k.intArg r 1 = DSOS_CREATE) (ends : OpenMessageQueue r k ending) :
    ending = .done () (k.answer r DSOS_ERESOURCECREATE) := by
  cases ends with
  | taken => rfl
  | exhausted _ absent | creates _ absent | unknown _ absent => cases absent.symm.trans found
  | shared exclusive => cases create.symm.trans exclusive
  | opens old => exact absurd create old

theorem OpenResource.refuses {ending : Ending} (found : k.resource (k.intArg r 0) = some o)
    (create : hasFlag (k.intArg r 2) DSOS_CREATE) (ends : OpenResource r k ending) :
    ending = .done () (k.answer r DSOS_ERESOURCECREATE) := by
  cases ends with
  | taken => rfl
  | exhausted _ absent | creates _ absent | unknown _ absent => cases absent.symm.trans found
  | mistyped old | shared old | opens old => exact absurd create old

theorem Coherent.used (inv : Coherent c k.store.running none k) (open_ : k.place d = .linked (.descriptors p))
    (of : (k.store.descriptor d).mq = some o ∨ (k.store.descriptor d).resource = some o) :
    k.Of d o ∧ k.seq (.descriptors_ptrs o) ≠ [] := by
  have of' := inv.descriptors.of_open inv.sound open_ of
  obtain ⟨e, o', ptr, -⟩ := inv.descriptors.des (inv.sound.live open_) (inv.sound.kind open_)
  exact ⟨of', List.ne_nil_of_mem (inv.sound.mem_seq.mpr (inv.descriptors.ptr_linked inv.sound open_ of' ptr))⟩

theorem Shows.queue_secured (shows : Shows c m k) (inv : Coherent c k.store.running none k) {id : Int}
    (found : k.queue id = some o) (used : k.seq (.descriptors_ptrs o) ≠ []) :
    Secured c m DSOS_CALL_DESTROY_MQ DSOS_CALL_OPEN_MQ (fun args => int32 (args 1) = DSOS_CREATE) id := by
  constructor
  · rintro r args runs rfl
    have finds : (k.enter r DSOS_CALL_DESTROY_MQ args).queue ((k.enter r DSOS_CALL_DESTROY_MQ args).intArg r 0) = some o :=
      (queue_enter (by decide)).trans found
    have handler : Handles c DSOS_CALL_DESTROY_MQ = some DestroyMessageQueue := rfl
    exact shows.certain inv (shows.store ▸ runs) handler fun ending ends => Destroy.refuses finds used ends
  · rintro r args runs rfl creates
    have finds : (k.enter r DSOS_CALL_OPEN_MQ args).queue ((k.enter r DSOS_CALL_OPEN_MQ args).intArg r 0) = some o :=
      (queue_enter (by decide)).trans found
    have create : (k.enter r DSOS_CALL_OPEN_MQ args).intArg r 1 = DSOS_CREATE := (intArg_enter (by decide)).trans creates
    have handler : Handles c DSOS_CALL_OPEN_MQ = some OpenMessageQueue := rfl
    exact shows.certain inv (shows.store ▸ runs) handler fun ending ends => ends.refuses finds create

theorem Shows.resource_secured (shows : Shows c m k) (inv : Coherent c k.store.running none k) {id : Int}
    (found : k.resource id = some o) (used : k.seq (.descriptors_ptrs o) ≠ []) :
    Secured c m DSOS_CALL_DESTROY_RESOURCE DSOS_CALL_OPEN_RESOURCE
      (fun args => hasFlag (int32 (args 2)) DSOS_CREATE) id := by
  constructor
  · rintro r args runs rfl
    have id : (k.enter r DSOS_CALL_DESTROY_RESOURCE args).intArg r 0 = int32 (args 0) := intArg_enter (by decide)
    have finds : (k.enter r DSOS_CALL_DESTROY_RESOURCE args).resource
        ((k.enter r DSOS_CALL_DESTROY_RESOURCE args).intArg r 0) = some o := by
      rw [id]
      exact found
    have handler : Handles c DSOS_CALL_DESTROY_RESOURCE = some DestroyResource := rfl
    exact shows.certain inv (shows.store ▸ runs) handler fun ending ends => Destroy.refuses finds used ends
  · rintro r args runs rfl creates
    have id : (k.enter r DSOS_CALL_OPEN_RESOURCE args).intArg r 0 = int32 (args 0) := intArg_enter (by decide)
    have flags : (k.enter r DSOS_CALL_OPEN_RESOURCE args).intArg r 2 = int32 (args 2) := intArg_enter (by decide)
    have finds : (k.enter r DSOS_CALL_OPEN_RESOURCE args).resource
        ((k.enter r DSOS_CALL_OPEN_RESOURCE args).intArg r 0) = some o := by
      rw [id]
      exact found
    have handler : Handles c DSOS_CALL_OPEN_RESOURCE = some OpenResource := rfl
    exact shows.certain inv (shows.store ▸ runs) handler fun ending ends => ends.refuses finds (flags ▸ creates)

end

/-- What is the same in `m'` as in `m`, and seen in a scene. -/
structure Leasing (c : Config) (m m' : Kernel) (p d : Addr) (k : Scene) : Prop where
  alive : k.Alive c p
  member : d ∈ m'.list (.descriptors p)
  same : m'.store.descriptor d = m.store.descriptor d
  queue : ∀ q, (m.store.descriptor d).mq = some q → (m'.store.mq q).id = (m.store.mq q).id
  resource : ∀ x, (m.store.descriptor d).resource = some x → m'.store.resource x = m.store.resource x

theorem Leasing.step {c : Config} {m m' m'' : Kernel} {k k' : Scene} {p d : Addr} {e : Event}
    (leasing : Leasing c m m' p d k) (shows : Shows c m' k) (inv : Coherent c k.store.running none k)
    (counted : Counted c k) (shows' : Shows c m'' k') (reacts : Reacts c k e (.done () k'))
    (holds : ¬ Abandons m' p (m.store.descriptor d).fd e) : Leasing c m m'' p d k' := by
  have renamed := reacts.names_kept inv
  have open_ : k.place d = .linked (.descriptors p) := shows.mem_list.mp leasing.member
  have record : k.store.descriptor d = m.store.descriptor d := shows.store ▸ leasing.same
  constructor
  · refine reacts.alive inv counted leasing.alive ?_
    rintro ⟨runs, args, rfl⟩
    exact holds ⟨shows.store ▸ runs, .inl rfl⟩
  · rw [← leasing.same] at holds
    exact shows.keeps_open shows' inv leasing.alive leasing.member holds reacts
  · rw [shows'.store, renamed.descriptor d (inv.sound.live open_), record]
  · intro q names
    have of := (inv.used open_ (.inl (record ▸ names))).1
    have listed : k.Live c q := by
      rcases of with ⟨-, -, there⟩ | ⟨none_mq, -⟩
      · exact inv.sound.live there
      · cases none_mq.symm.trans (record ▸ names)
    rw [shows'.store, renamed.mq q listed, ← leasing.queue q names, shows.store]
  · intro x names
    have of := (inv.used open_ (.inr (record ▸ names))).1
    have listed : k.Live c x := by
      rcases of with ⟨-, none_resource, -⟩ | ⟨-, -, there⟩
      · cases none_resource.symm.trans (record ▸ names)
      · exact inv.sound.live there
    rw [shows'.store, renamed.resource x listed, ← leasing.resource x names, shows.store]

/-- A descriptor is good for its object until its process closes it or exits, in every run of the others. -/
theorem lease_kept (c : Constants) {m m' : Kernel} {p d : Addr} {fd : Int} {es : List Event}
    (reach : Reachable c.toConfig m) (lives : m.Lives p) (open_ : m.descriptor p fd = some d)
    (run : RunWhile (fun m e m' => Step c.toConfig m e m' ∧ ¬ Abandons m p fd e) (fun _ => True) m es m') :
    LeaseKept c.toConfig m m' p fd d := by
  obtain ⟨k, shows, inv, counted, distinct⟩ := reach.resources_distinct
  have number : (m.store.descriptor d).fd = fd := by simpa using List.find?_some open_
  have start : Leasing c.toConfig m m p d k := by
    exact ⟨(shows.lives inv).mp lives, List.mem_of_find?_eq_some open_, rfl, fun _ _ => rfl, fun _ _ => rfl⟩
  obtain ⟨k', shows', inv', -, distinct', leasing⟩ := run.keeps
    (I := fun m' => ∃ k, Shows c.toConfig m' k ∧ Coherent c.toConfig k.store.running none k ∧ Counted c.toConfig k ∧
      k.resourceIds.Nodup ∧ Leasing c.toConfig m m' p d k)
    (fun _ holds last _ => by
      obtain ⟨k, shows, inv, counted, distinct, leasing⟩ := holds
      obtain ⟨k', shows', reacts⟩ := last.1.reacts shows inv
      exact ⟨k', shows', (reacts.chain inv counted).coherent inv, reacts.counted inv counted,
        reacts.resources_distinct shows shows' inv distinct,
        leasing.step shows inv counted shows' reacts (number ▸ last.2)⟩)
    ⟨k, shows, inv, counted, distinct, start⟩
  have member := leasing.member
  rw [shows'.list] at member
  have linked := inv'.sound.mem_seq.mp member
  -- the descriptor is the one it was, so it names the same object
  have record : k'.store.descriptor d = m.store.descriptor d := shows'.store ▸ leasing.same
  refine ⟨(shows'.lives inv').mpr leasing.alive, ?_, leasing.same, fun q names => ?_, fun x names => ?_⟩
  · have found := inv'.finds_descriptor member
    rw [record, number] at found
    rw [shows'.descriptor, found]
  · obtain ⟨of, used⟩ := inv'.used linked (.inl (record ▸ names))
    have listed : k'.place q = .linked .mq_list := by
      rcases of with ⟨-, -, there⟩ | ⟨none_mq, -⟩
      · exact there
      · cases none_mq.symm.trans (record ▸ names)
    have found := inv'.finds_queue listed
    rw [← leasing.queue q names, shows'.queue, shows'.store]
    exact ⟨found, shows'.queue_secured inv' found used⟩
  · obtain ⟨of, used⟩ := inv'.used linked (.inr (record ▸ names))
    have listed : k'.place x = .linked .resources_list := by
      rcases of with ⟨-, none_resource, -⟩ | ⟨-, -, there⟩
      · cases none_resource.symm.trans (record ▸ names)
      · exact there
    have found := inv'.finds_resource distinct' listed
    refine ⟨?_, leasing.resource x names, ?_⟩
    · rw [← leasing.resource x names, shows'.resource, shows'.store]
      exact found
    · rw [← leasing.resource x names, shows'.store]
      exact shows'.resource_secured inv' found used

/-- The first process has created a queue, and its child runs. -/
def queue_leased : Observed always fun m => m.store.running = some (block .pcb 1) ∧ block .pcb 0 ∈ m.list .ready_list ∧
    m.descriptor (block .pcb 0) 0 = some (block .descriptor 0) ∧
    (m.store.descriptor (block .descriptor 0)).mq = some (block .message_queue 0) ∧
    (m.store.mq (block .message_queue 0)).id = 5 ∧
    ((trial_from constants.toConfig always [.syscall DSOS_CALL_DESTROY_MQ (arguments [5])] m).any fun _ => True) = true :=
  observe always [.syscall DSOS_CALL_OPEN_MQ (arguments [5, 1]), .syscall DSOS_CALL_SPAWN (arguments [1, 2]), .tick]
    (by decide +kernel)

theorem lease_kept_queue : ∃ m m', Reachable constants.toConfig m ∧
    Step constants.toConfig m (.syscall DSOS_CALL_DESTROY_MQ (arguments [5])) m' ∧
    m'.queue 5 = some (block .message_queue 0) := by
  obtain ⟨m, reached, runs, ready, open_, names, id, calls⟩ := queue_leased
  obtain ⟨m', step, -⟩ := trial_step calls
  have other : ¬ Abandons m (block .pcb 0) 0 (.syscall DSOS_CALL_DESTROY_MQ (arguments [5])) := by
    rintro ⟨mine, -⟩
    cases runs.symm.trans mine
  have kept := lease_kept constants reached.reachable (.inr (.inl ready)) open_ (.single trivial ⟨step, other⟩ trivial)
  have found := (kept.queue _ names).1
  rw [id] at found
  exact ⟨m, m', reached.reachable, step, found⟩

end DisastrOS
