import DisastrOS.Family

/-! The code of `internal_exit` has the outcomes listed for it. -/

set_option autoImplicit false

namespace DisastrOS

open Refinement
open Relation (ReflTransGen)

section
variable {c : Config} {fuel : Nat} {k : Scene} {r i : Addr} {runner gone : Pointer}

/-! ### The children -/

theorem wp_reparent {Q : Unit ⊕ Unit → Scene → Prop} {E : Option Stop → Prop}
    (inv : Coherent c runner gone k) (done : k.seq (.children r) = [] → Q (.inr ()) k)
    (more : ∀ e p, (k.seq (.children r)).head? = some e → k.store.pcb_ptr e = some p →
      Q (.inl ()) (k.reparent r i e p)) : k.wp c fuel (reparent r i) Q E := by
  cases first : (k.seq (.children r)).head? with
  | none => simpa [reparent, first] using fun _ => done (List.head?_eq_none_iff.mp first)
  | some e =>
    have linked := inv.sound.first first
    obtain ⟨⟨p, names, -⟩, -⟩ := inv.tree.entry linked
    have kind : e.pool = .pcb_ptr := inv.sound.kind linked
    simp [reparent, first, names]
    exact fun sound => ⟨linked, fun _ => ⟨⟨sound.live linked, kind⟩, fun _ => more e p first names⟩⟩

theorem reparents_frame {k' : Scene} (inv : Coherent c runner gone k)
    (init : k.store.init_pcb = some i) (rounds : ReflTransGen (ReparentRound r i) k k') :
    Scene.Frame [.pcb_ptr] k k' ∧ k'.store.running = k.store.running ∧
      Coherent c runner gone k' := by
  induction rounds with
  | refl => exact ⟨.refl, rfl, inv⟩
  | tail _ round ih =>
    obtain ⟨frame, running, inv'⟩ := ih
    obtain ⟨first, names⟩ := round
    have kind := inv'.sound.kind (inv'.sound.first first)
    have move := Move.coherent (.adopt first names (frame.init_pcb.trans init)) inv'
    exact ⟨frame.trans (.reparent kind (by simp)), running, move⟩

theorem wp_reparents {Q : Unit → Scene → Prop} {E : Option Stop → Prop}
    (inv : Coherent c runner gone k) (init : k.store.init_pcb = some i)
    (other : r = i → k.seq (.children r) = []) (enough : (blocks c).card < fuel)
    (post : ∀ k', ReflTransGen (ReparentRound r i) k k' → k'.seq (.children r) = [] → Q () k') :
    k.wp c fuel (.iterate (fun _ => reparent r i) ()) Q E := by
  refine Scene.wp_iterate (fun n _ k' => ReflTransGen (ReparentRound r i) k k' ∧
    (r = i → k'.seq (.children r) = []) ∧ (k'.seq (.children r)).length = n) ?_
    (lt_of_le_of_lt (inv.sound.length_seq_le (.children r)) enough) () ⟨.refl, other, rfl⟩
  rintro n _ k' ⟨rounds, other, rfl⟩
  have inv' := (reparents_frame inv init rounds).2.2
  apply wp_reparent inv' (post k' rounds)
  intro e p first names
  have differs : r ≠ i := by
    intro same
    simp [other same] at first
  have member := List.mem_of_mem_head? first
  refine ⟨_, ?_, rounds.tail ⟨first, names⟩, fun same => absurd same differs, rfl⟩
  have shorter := List.length_erase_of_mem member
  have := List.length_pos_of_mem member
  simp [Scene.reparent, differs, shorter]
  omega

/-- `init` would give its children to itself for ever. -/
theorem wp_reparents_forever {Q : Unit → Scene → Prop} {E : Option Stop → Prop}
    (inv : Coherent c runner gone k) (init : k.store.init_pcb = some r)
    (children : k.seq (.children r) ≠ []) (never : E none) :
    k.wp c fuel (.iterate (fun _ => reparent r r) ()) Q E := by
  refine Scene.wp_iterate_forever (fun _ k' => ReflTransGen (ReparentRound r r) k k' ∧
    k'.seq (.children r) ≠ []) ?_ never () ⟨.refl, children⟩
  rintro _ k' ⟨rounds, children⟩
  have inv' := (reparents_frame inv init rounds).2.2
  apply wp_reparent inv' (fun empty => children empty)
  intro e p first names
  exact ⟨rounds.tail ⟨first, names⟩, by simp [Scene.reparent]⟩

/-! ### The entry of the dying process -/

theorem wp_PCBPtr_byPID {Q : Pointer → Scene → Prop} {E : Option Stop → Prop} {q : Addr} {pid : Int}
    (enough : (blocks c).card < fuel) (holds : k.Sound c → Q (k.entry q pid) k) :
    k.wp c fuel (PCBPtr_byPID (.children q) pid) Q E :=
  Scene.wp_search enough holds

/-! ### The timers and the descriptors -/

theorem wp_drop_timers {Q : Unit → Scene → Prop} {E : Option Stop → Prop}
    (enough : (blocks c).card < fuel)
    (awake : ∀ t, k.place t = .linked .timer_list → (k.store.timer_item t).pcb ≠ some r)
    (post : Q () k) : k.wp c fuel (.iterate (drop_timer r) (k.seq .timer_list).head?) Q E := by
  refine Scene.wp_scan (fun _ => True) enough (fun _ rest => rest.head?)
    (fun seen whole skipped => ?_) fun seen t rest split skipped => ?_
  · simpa [drop_timer] using fun _ => post
  · apply Scene.sound_wp.mp
    intro sound
    have linked := Scene.linked_seen sound split
    have other := awake t linked
    simp [drop_timer, Scene.wp_next linked, Scene.after_seen sound split, other]

theorem drops_frame {k' : Scene} (inv : Coherent c runner gone k)
    (rounds : ReflTransGen (DropRound r) k k') :
    Scene.Frame [.descriptor, .descriptor_ptr] k k' ∧ k'.store = k.store ∧
      Coherent c runner gone k' := by
  induction rounds with
  | refl => exact ⟨.refl, rfl, inv⟩
  | tail _ round ih =>
    obtain ⟨frame, store, inv'⟩ := ih
    obtain ⟨first, mq, ptr⟩ := round
    have linked := inv'.sound.first first
    have there := inv'.descriptors.ptr_linked inv'.sound linked
      (inv'.descriptors.of_open inv'.sound linked (.inl mq)) ptr
    have move := Move.coherent (.drop linked (.inl mq) ptr) inv'
    exact ⟨frame.trans (.dropDescriptor (inv'.sound.kind linked) (inv'.sound.kind there) (by simp)
      (by simp)), store, move⟩

theorem wp_drop_descriptors {Q : Unit → Scene → Prop} {E : Option Stop → Prop}
    (inv : Coherent c runner gone k) (enough : (blocks c).card < fuel)
    (closed : ∀ k', Coherent c runner gone k' → ReflTransGen (DropRound r) k k' →
      k'.seq (.descriptors r) = [] → Q () k')
    (stuck : ∀ k' d, ReflTransGen (DropRound r) k k' →
      (k'.seq (.descriptors r)).head? = some d → (k'.store.descriptor d).mq = none →
      E (some (.null .message_queue))) :
    k.wp c fuel (.iterate (fun _ => drop_descriptor r) ()) Q E := by
  -- each round closes one descriptor, and they are no more than there are blocks
  refine Scene.wp_iterate (fun n _ k' => ReflTransGen (DropRound r) k k' ∧
    Coherent c runner gone k' ∧ (k'.seq (.descriptors r)).length = n) ?_
    (lt_of_le_of_lt (inv.sound.length_seq_le (.descriptors r)) enough) () ⟨.refl, inv, rfl⟩
  rintro n _ k' ⟨rounds, inv', rfl⟩
  cases first : (k'.seq (.descriptors r)).head? with
  | none =>
    simpa [drop_descriptor, first] using fun _ =>
      closed k' inv' rounds (List.head?_eq_none_iff.mp first)
  | some d =>
    have linked := inv'.sound.first first
    have kind := inv'.sound.kind linked
    cases mq : (k'.store.descriptor d).mq with
    | none =>
      simp [drop_descriptor, first, mq]
      exact fun _ => ⟨linked, fun _ => stuck k' d rounds first mq⟩
    | some q =>
      obtain ⟨e, o, ptr, -, -, -⟩ := inv'.descriptors.des (inv'.sound.live linked) kind
      have of := inv'.descriptors.of_open inv'.sound linked (.inl mq)
      have there := inv'.descriptors.ptr_linked inv'.sound linked of ptr
      have other : e ≠ d := by
        rintro rfl
        cases there.symm.trans linked
      have move := Move.coherent (.drop linked (.inl mq) ptr) inv'
      have live : ((k'.detach (.descriptors r) d).detach (.descriptors_ptrs q) e).release
          .descriptor_ptr e |>.Live c d :=
        (Scene.live_release_of_ne (by simp [kind, Head.kind])).mpr (inv'.sound.live linked)
      have member := inv'.sound.mem_seq.mpr linked
      have shorter := List.length_erase_of_mem member
      have := List.length_pos_of_mem member
      simp [drop_descriptor, DescriptorPtr_free, Descriptor_free, first, mq, ptr, other, other.symm]
      refine fun sound => ⟨linked, fun _ => ⟨there, fun _ => ⟨⟨sound.live there, sound.kind there⟩,
        fun _ => ⟨⟨live, kind⟩, fun _ => ⟨?_, rounds.tail (.drop first mq ptr), move⟩⟩⟩⟩⟩
      omega

/-! ### The handler -/

theorem resumeParent_zombie {q e : Addr} (zombie : k.place r = .linked .zombie_list)
    (waits : k.place q = .linked .waiting_list) (entry : k.place e = .linked (.children q)) :
    (k.resumeParent r q e).place r = .linked .zombie_list := by
  have notParent : r ≠ q := by
    rintro rfl
    cases zombie.symm.trans waits
  have notEntry : r ≠ e := by
    rintro rfl
    cases zombie.symm.trans entry
  simpa [Scene.resumeParent, notParent, notEntry] using zombie

theorem internal_exit_meets (inv : Coherent c (some r) none k) (runs : k.store.running = some r)
    (enough : (blocks c).card < fuel) : k.Meets c fuel internal_exit (Exit r k) := by
  have sound := inv.sound
  obtain ⟨i, init, -⟩ := inv.tree.init
  have stored := inv.moved (.leave rfl)
  simp [Scene.Meets, internal_exit, Scene.wp_self runs, sound, init]
  -- `init` gives its children to itself, so the loop never ends
  by_cases forever : r = i ∧ k.seq (.children r) ≠ []
  · obtain ⟨rfl, children⟩ := forever
    exact wp_reparents_forever stored init children (.forever init children)
  have other : r = i → k.seq (.children r) = [] := fun same => by
    by_contra children
    exact forever ⟨same, children⟩
  apply wp_reparents stored init other enough
  intro k' rounds childless
  have reparents : Reparents r i k k' := ⟨rounds, childless⟩
  obtain ⟨frame, running, inv'⟩ := reparents_frame stored init rounds
  obtain ⟨alive, pool⟩ := inv'.processes.runs rfl
  have unlinked := inv'.processes.not_waiting rfl
  have sameParent : (k'.store.pcb r).parent = (k.store.pcb r).parent := by
    simpa using frame.parent r
  have samePid : (k'.store.pcb r).pid = (k.store.pcb r).pid := by simpa using frame.pid r
  cases parent : (k.store.pcb r).parent with
  | none =>
    simp [sameParent, parent]
    exact fun _ => ⟨⟨alive, pool, unlinked⟩, fun _ => .orphan init reparents parent⟩
  | some q =>
    have parent' := sameParent.trans parent
    have buried : Coherent c none none (k'.bury r q) :=
      Move.coherent (.bury parent' childless) inv'
    have zombie : (k'.bury r q).place r = .linked .zombie_list := by simp [Scene.bury]
    have samePid' : ((k'.bury r q).store.pcb r).pid = (k.store.pcb r).pid := by
      simpa [Scene.bury] using samePid
    -- the parent field names the process that is asked, whoever has the entry
    by_cases awaited : (k'.bury r q).AwaitsDeath q (k.store.pcb r).pid
    · have blocked := AwaitsDeath.blocked buried awaited
      simp [sameParent, parent, samePid]
      refine fun _ => ⟨⟨alive, pool, unlinked⟩, ?_⟩
      rw [if_pos (by simpa [Scene.AwaitsDeath, Scene.bury] using awaited)]
      simp
      refine fun _ => ⟨by simpa [Scene.bury] using blocked.1, fun _ => ?_⟩
      apply wp_PCBPtr_byPID enough
      intro _
      have search : ((((k'.bury r q).detach .waiting_list q).setPCB q fun p =>
          { p with status := .Running }).entry q (k.store.pcb r).pid) =
            (k'.bury r q).entry q (k.store.pcb r).pid := by
        simp [Scene.entry]
      cases entry : (k'.bury r q).entry q (k.store.pcb r).pid with
      | none =>
        rw [entry] at search
        refine (congrArg (fun e => Scene.wp c fuel (List_detach (.children q) e) _ _ _) search).mpr ?_
        simp
        exact fun _ => .stray init reparents parent awaited entry
      | some e =>
        have named := entry_names buried (buried.sound.live zombie) pool (samePid'.symm ▸ entry)
        have move : Move c (.resumed r q) ⟨k'.bury r q, none, none⟩
            ⟨(k'.bury r q).resumeParent r q e, some q, some r⟩ :=
          .resume zombie (samePid'.symm ▸ entry) (samePid'.symm ▸ awaited)
        have resumed := move.coherent buried
        rw [entry] at search
        refine (congrArg (fun e => Scene.wp c fuel (List_detach (.children q) e) _ _ _) search).mpr ?_
        simp
        refine fun _ => ⟨?_, fun _ => ?_⟩
        · have wrapper : e.pool = .pcb_ptr := buried.sound.kind named.1
          have notRunner : e ≠ r := by
            rintro rfl
            cases wrapper.symm.trans pool
          have notParent : e ≠ q := by
            rintro rfl
            cases named.1.symm.trans blocked.1
          simpa [Scene.bury, notRunner, notParent] using named.1
        refine (congrArg (fun k₂ => Scene.wp c fuel _ _ _ k₂)
          (?_ : _ = (k'.bury r q).resumeParent r q e)).mpr ?_
        · simp [Scene.resumeParent, samePid, Scene.bury, Scene.answer]
        have dead : ((k'.bury r q).resumeParent r q e).place r = .linked .zombie_list :=
          resumeParent_zombie zombie blocked.1 named.1
        -- the dead process does not sleep, so no timer is its own
        have awake (t : Addr) (there : ((k'.bury r q).resumeParent r q e).place t =
            .linked .timer_list) :
            (((k'.bury r q).resumeParent r q e).store.timer_item t).pcb ≠ some r := by
          obtain ⟨p, owns, asleep⟩ := resumed.timers.owner there
          intro same
          cases owns.symm.trans same
          cases dead.symm.trans asleep.1
        have timers : ((k'.bury r q).resumeParent r q e).seq .timer_list = k'.seq .timer_list := by
          simp [Scene.resumeParent, Scene.bury]
        rw [← timers]
        refine wp_drop_timers enough awake ?_
        refine wp_drop_descriptors resumed enough (fun k₂ inv₂ drops closed => ?_)
          fun k₂ d drops first mq => .otherKind init reparents parent awaited entry drops first mq
        have still : k₂.place r = .linked .zombie_list :=
          ((drops_frame resumed drops).1.place (by simp [pool])).trans dead
        simp [PCB_free]
        exact fun sound₂ => ⟨still, fun _ => ⟨⟨sound₂.live still, pool⟩, fun _ =>
          .resumes init reparents parent awaited entry drops closed⟩⟩
    · cases ready : (k'.seq .ready_list).head? with
      | none =>
        have idle : k'.seq .ready_list = [] := List.head?_eq_none_iff.mp ready
        simp [sameParent, parent, samePid]
        refine fun _ => ⟨⟨alive, pool, unlinked⟩, ?_⟩
        rw [if_neg (by simpa [Scene.AwaitsDeath, Scene.bury] using awaited)]
        simp [run_next, idle]
        exact fun _ => .stuck init reparents parent awaited idle
      | some n =>
        have next := inv'.sound.first ready
        have awake : n ≠ r := by
          rintro rfl
          cases unlinked.symm.trans next
        simp [sameParent, parent, samePid]
        refine fun _ => ⟨⟨alive, pool, unlinked⟩, ?_⟩
        rw [if_neg (by simpa [Scene.AwaitsDeath, Scene.bury] using awaited)]
        simp [run_next, ready, awake]
        exact fun _ => ⟨next, fun _ => .buried init reparents parent awaited ready⟩

end

end DisastrOS
