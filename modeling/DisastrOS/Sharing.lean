import DisastrOS.Exit

/-! The code that opens, closes and destroys resources and queues has the outcomes listed for it. -/

set_option autoImplicit false

namespace DisastrOS

open Refinement

section
variable {c : Config} {fuel : Nat} {k : Scene} {r : Addr} {runner gone : Pointer}

theorem wp_MessageQueueList_byId {Q : Pointer → Scene → Prop} {E : Option Stop → Prop} {id : Int}
    (enough : (blocks c).card < fuel) (holds : k.Sound c → Q (k.queue id) k) :
    k.wp c fuel (MessageQueueList_byId .mq_list id) Q E :=
  Scene.wp_search enough holds

theorem wp_ResourceList_byId {Q : Pointer → Scene → Prop} {E : Option Stop → Prop} {id : Int}
    (enough : (blocks c).card < fuel) (holds : k.Sound c → Q (k.resource id) k) :
    k.wp c fuel (ResourceList_byId .resources_list id) Q E :=
  Scene.wp_search enough holds

theorem wp_DescriptorList_byFd {Q : Pointer → Scene → Prop} {E : Option Stop → Prop} {fd : Int}
    (enough : (blocks c).card < fuel) (holds : k.Sound c → Q (k.descriptor r fd) k) :
    k.wp c fuel (DescriptorList_byFd (.descriptors r) fd) Q E :=
  Scene.wp_search enough holds

theorem open_descriptor_meets {o : Addr} {resource mq : Pointer} {alloc : Int → Code Pointer}
    (inv : Coherent c (some r) none k) (runs : k.store.running = some r)
    (new : ∀ fd, alloc fd = Descriptor_new fd resource mq r) :
    k.Meets c fuel (open_descriptor r o alloc) (OpenDescriptor r o resource mq k) := by
  have sound := inv.sound
  cases des : (k.free .descriptor).head? with
  | none =>
    have full : k.free .descriptor = [] := List.head?_eq_none_iff.mp des
    simp [Scene.Meets, open_descriptor, new, Descriptor_new, des, sound, Scene.alloc_empty full,
      Scene.wp_setRetvalue runs]
    exact .refused full
  | some d =>
    have fresh := sound.top des
    -- `last_fd` is counted up before `DescriptorPtr_alloc` is called
    by_cases spent : (k.store.pcb r).last_fd = INT_MAX
    · simp [Scene.Meets, open_descriptor, new, Descriptor_new, des, sound, spent, fresh.2.1]
      exact .overflow des spent
    have liveDes := (Scene.live_alloc sound des).mpr (.inl rfl)
    cases ptr : (k.free .descriptor_ptr).head? with
    | none =>
      have full : k.free .descriptor_ptr = [] := List.head?_eq_none_iff.mp ptr
      have empty : (k.alloc .descriptor).free .descriptor_ptr = [] := by simpa using full
      simp [Scene.Meets, open_descriptor, new, Descriptor_new, DescriptorPtr_alloc, des, ptr, sound,
        spent, fresh.2.1]
      refine ⟨⟨?_, fresh.1⟩, fun _ => .noPtr des spent full⟩
      rw [Scene.live_alloc_of_ne (by simp [fresh.1])]
      exact liveDes
    | some e =>
      have link := sound.top ptr
      have ptr' : ((k.alloc .descriptor).free .descriptor_ptr).head? = some e := by simpa using ptr
      have other : e ≠ d := by
        rintro rfl
        cases fresh.1.symm.trans link.1
      have liveBoth := (Scene.live_alloc sound.alloc ptr').mpr (.inr liveDes)
      have liveLink := (Scene.live_alloc sound.alloc ptr').mpr (.inl rfl)
      simp [Scene.Meets, open_descriptor, new, Descriptor_new, DescriptorPtr_alloc, des, ptr, sound,
        spent, fresh.2.1, link.2.1, other, runs, Scene.wp_setRetvalue]
      refine ⟨⟨liveBoth, fresh.1⟩, fun _ => ⟨⟨liveLink, link.1⟩, fun _ => ?_⟩⟩
      have ends : OpenDescriptor r o resource mq k
          (.done () (k.openDescriptor r o d e resource mq)) := .opened des spent ptr
      convert ends using 2
      simp [Scene.openDescriptor, Scene.answer, Scene.update, Scene.setPCB, Scene.alloc,
        Scene.append, Store.setPCB, Store.setDescriptor]

theorem Scene.release_comm {p p' : Pool} {x y : Addr} (other : p ≠ p') :
    (k.release p x).release p' y = (k.release p' y).release p x := by
  simp [Scene.release, Shape.release, other, Ne.symm other, Function.update_comm other]

theorem close_descriptor_meets {object : Pool} {which : Descriptor → Pointer}
    (inv : Coherent c (some r) none k) (runs : k.store.running = some r)
    (enough : (blocks c).card < fuel)
    (of : ∀ {d o}, which (k.store.descriptor d) = some o →
      (k.store.descriptor d).mq = some o ∨ (k.store.descriptor d).resource = some o) :
    k.Meets c fuel (close_descriptor object which) (Close object which r k) := by
  have sound := inv.sound
  simp [Scene.Meets, close_descriptor, Scene.wp_self runs, Scene.wp_syscall_arg runs, sound]
  apply wp_DescriptorList_byFd enough
  intro _
  cases found : k.descriptor r (int32 (k.arg r 0)) with
  | none =>
    simp [Scene.wp_setRetvalue runs, sound]
    exact .unknown found
  | some d =>
    have open_ : k.place d = .linked (.descriptors r) :=
      sound.mem_seq.mp (List.mem_of_find?_eq_some found)
    have kind := sound.kind open_
    cases res : which (k.store.descriptor d) with
    | none =>
      simp [res]
      exact fun _ => ⟨open_, fun _ => .otherKind found res⟩
    | some o =>
      -- the descriptor has its pointer, so the two blocks can be given back
      obtain ⟨e, -, ptr, -, -, -⟩ := inv.descriptors.des (sound.live open_) kind
      have of' := inv.descriptors.of_open sound open_ (of res)
      have there := inv.descriptors.ptr_linked sound open_ of' ptr
      have other : e ≠ d := by
        rintro rfl
        cases there.symm.trans open_
      have alive : ((k.detach (.descriptors r) d).detach (.descriptors_ptrs o) e).release
          .descriptor d |>.Live c e :=
        (Scene.live_release_of_ne (by simp [sound.kind there, Head.kind])).mpr (sound.live there)
      simp [Descriptor_free, DescriptorPtr_free, res, ptr, other, Ne.symm other]
      refine fun _ => ⟨open_, fun _ => ⟨there, fun _ => ⟨⟨sound.live open_, kind⟩, fun _ =>
        ⟨⟨alive, sound.kind there⟩, ?_⟩⟩⟩⟩
      rw [Scene.wp_setRetvalue (by simpa using runs)]
      rw [Scene.release_comm (by simp)]
      have ends : Close object _ r k _ := .closed found res ptr
      exact fun _ => ends

theorem destroy_object_meets {global : Head} {byId : Head → Int → Code Pointer}
    {find : Scene → Int → Pointer} {free : Addr → Code PoolAllocatorResult}
    (inv : Coherent c (some r) none k) (runs : k.store.running = some r)
    (search : ∀ {id Q E}, (k.Sound c → Q (find k id) k) → k.wp c fuel (byId global id) Q E)
    (listed : ∀ {id x}, find k id = some x → k.place x = .linked global)
    (frees : ∀ x, free x = do
      assertUnused x
      releaseBlock global.kind x) :
    k.Meets c fuel (destroy_object global byId free) (Destroy global find r k) := by
  have sound := inv.sound
  simp [Scene.Meets, destroy_object, Scene.wp_syscall_arg runs, sound]
  apply search
  intro _
  cases found : find k (int32 (k.arg r 0)) with
  | none =>
    simp [Scene.wp_setRetvalue runs, sound]
    exact .unknown found
  | some x =>
    have linked := listed found
    by_cases unused : k.seq (.descriptors_ptrs x) = []
    · have other : global ≠ .descriptors_ptrs x := by
        rintro rfl
        have member := sound.mem_seq.mpr linked
        simp [unused] at member
      simp [frees, assertUnused, unused, Ne.symm other]
      refine fun _ => ⟨linked, fun _ => ⟨⟨sound.live linked, sound.kind linked⟩, ?_⟩⟩
      rw [Scene.wp_setRetvalue (by simpa using runs)]
      exact fun _ => .destroyed found unused
    · simp [unused, Scene.wp_setRetvalue runs, sound]
      exact .used found unused

theorem internal_closeResource_meets (inv : Coherent c (some r) none k)
    (runs : k.store.running = some r) (enough : (blocks c).card < fuel) :
    k.Meets c fuel internal_closeResource (CloseResource r k) :=
  close_descriptor_meets inv runs enough fun same => .inr same

theorem internal_closeMessageQueue_meets (inv : Coherent c (some r) none k)
    (runs : k.store.running = some r) (enough : (blocks c).card < fuel) :
    k.Meets c fuel internal_closeMessageQueue (CloseMessageQueue r k) :=
  close_descriptor_meets inv runs enough fun same => .inl same

theorem resource_listed (inv : Coherent c runner gone k) {id : Int} {x : Addr}
    (found : k.resource id = some x) : k.place x = .linked .resources_list :=
  inv.sound.mem_seq.mp (List.mem_of_find?_eq_some found)

theorem internal_destroyResource_meets (inv : Coherent c (some r) none k)
    (runs : k.store.running = some r) (enough : (blocks c).card < fuel) :
    k.Meets c fuel internal_destroyResource (DestroyResource r k) :=
  destroy_object_meets inv runs (wp_ResourceList_byId enough) (resource_listed inv) fun _ => rfl

theorem internal_destroyMessageQueue_meets (inv : Coherent c (some r) none k)
    (runs : k.store.running = some r) (enough : (blocks c).card < fuel) :
    k.Meets c fuel internal_destroyMessageQueue (DestroyMessageQueue r k) :=
  destroy_object_meets inv runs (wp_MessageQueueList_byId enough)
    (fun found => (queue_listed inv found).1) fun _ => rfl

theorem internal_openMessageQueue_meets (inv : Coherent c (some r) none k)
    (runs : k.store.running = some r) (enough : (blocks c).card < fuel) :
    k.Meets c fuel internal_openMessageQueue (OpenMessageQueue r k) := by
  have sound := inv.sound
  simp [Scene.Meets, internal_openMessageQueue, Scene.wp_self runs, Scene.wp_syscall_arg runs, sound]
  apply wp_MessageQueueList_byId enough
  intro _
  by_cases create : int32 (k.arg r 1) = DSOS_CREATE
  · cases found : k.queue (int32 (k.arg r 0)) with
    | some q =>
      simp [create, Scene.wp_setRetvalue runs, sound]
      exact .taken create found
    | none =>
      cases top : (k.free .message_queue).head? with
      | none =>
        have full : k.free .message_queue = [] := List.head?_eq_none_iff.mp top
        simp [create, MessageQueue_alloc, top, sound, Scene.alloc_empty full]
        exact .exhausted create found full
      | some q =>
        have made := inv.moved (.newQueue found top)
        have fresh := sound.top top
        have live := (Scene.live_alloc sound top).mpr (.inl rfl)
        have opens : (k.newQueue q (k.intArg r 0)).Meets c fuel
            (open_descriptor r q fun fd => Descriptor_alloc_mq fd q r)
            (OpenDescriptor r q none (some q) (k.newQueue q (k.intArg r 0))) :=
          open_descriptor_meets made runs fun _ => rfl
        -- the new queue is open to nobody, and the second test compares with another flag
        have different : DSOS_CREATE ≠ DSOS_EXCL := by decide
        simp [create, MessageQueue_alloc, top, sound, different]
        exact ⟨⟨live, fresh.1, fresh.2.1⟩, opens.mono fun _ => .creates create found top⟩
  · cases found : k.queue (int32 (k.arg r 0)) with
    | none =>
      simp [create, Scene.wp_setRetvalue runs, sound]
      exact .unknown create found
    | some q =>
      have listed := queue_listed inv found
      have opens : k.Meets c fuel (open_descriptor r q fun fd => Descriptor_alloc_mq fd q r)
          (OpenDescriptor r q none (some q) k) := open_descriptor_meets inv runs fun _ => rfl
      by_cases shared : int32 (k.arg r 1) = DSOS_EXCL ∧ k.seq (.descriptors_ptrs q) ≠ []
      · simp [shared.1, shared.2, Scene.wp_setRetvalue runs, sound]
        exact .shared shared.1 found shared.2
      · have allowed : k.Meets c fuel _ (OpenMessageQueue r k) :=
          opens.mono fun _ => .opens create found shared
        simp [create]
        exact fun _ => (if_neg shared).mpr allowed

theorem internal_openResource_meets (inv : Coherent c (some r) none k)
    (runs : k.store.running = some r) (enough : (blocks c).card < fuel) :
    k.Meets c fuel internal_openResource (OpenResource r k) := by
  have sound := inv.sound
  simp [Scene.Meets, internal_openResource, Scene.wp_self runs, Scene.wp_syscall_arg runs, sound]
  apply wp_ResourceList_byId enough
  intro _
  by_cases create : hasFlag (int32 (k.arg r 2)) DSOS_CREATE
  · cases found : k.resource (int32 (k.arg r 0)) with
    | some x =>
      simp [create, Scene.wp_setRetvalue runs, sound]
      exact .taken create found
    | none =>
      cases top : (k.free .resource).head? with
      | none =>
        have full : k.free .resource = [] := List.head?_eq_none_iff.mp top
        simp [create, Resource_alloc, top, sound, Scene.alloc_empty full]
        exact .exhausted create found full
      | some x =>
        have made := inv.moved (.newResource (k.intArg r 0) (k.intArg r 1) top)
        have fresh := sound.top top
        have live := (Scene.live_alloc sound top).mpr (.inl rfl)
        have opens : (k.newResource x (k.intArg r 0) (k.intArg r 1)).Meets c fuel
            (open_descriptor r x fun fd => Descriptor_alloc fd x r)
            (OpenDescriptor r x (some x) none (k.newResource x (k.intArg r 0) (k.intArg r 1))) :=
          open_descriptor_meets made runs fun _ => rfl
        simp [create, Resource_alloc, top, sound, fresh.2.1]
        exact ⟨⟨live, fresh.1⟩, opens.mono fun _ => .creates create found top⟩
  · cases found : k.resource (int32 (k.arg r 0)) with
    | none =>
      simp [create, Scene.wp_setRetvalue runs, sound]
      exact .unknown create found
    | some x =>
      by_cases type : (k.store.resource x).type = k.intArg r 1
      · have opens : k.Meets c fuel (open_descriptor r x fun fd => Descriptor_alloc fd x r)
            (OpenDescriptor r x (some x) none k) := open_descriptor_meets inv runs fun _ => rfl
        by_cases shared : hasFlag (int32 (k.arg r 2)) DSOS_EXCL ∧ k.seq (.descriptors_ptrs x) ≠ []
        · simp [create, shared.1, shared.2, Scene.wp_setRetvalue runs, sound, type, Scene.intArg]
          exact .shared create found type shared.1 shared.2
        · have allowed : k.Meets c fuel _ (OpenResource r k) :=
            opens.mono fun _ => .opens create found type shared
          simp [create, type, Scene.intArg]
          exact fun _ => (if_neg shared).mpr allowed
      · have different : ¬(k.store.resource x).type = int32 (k.arg r 1) := type
        simp [create, different, Scene.wp_setRetvalue runs, sound]
        exact .mistyped create found type

end

end DisastrOS
