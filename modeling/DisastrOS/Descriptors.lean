import DisastrOS.Waiting

/-! Descriptors, their pointers and the objects they are of. -/

set_option autoImplicit false

namespace DisastrOS

open Refinement

variable {c : Config} {k : Scene}

namespace Descriptors

theorem link (inv : Descriptors c k) (sound : k.Sound c) {e o : Addr}
    (linked : k.place e = .linked (.descriptors_ptrs o)) :
    ∃ d, k.store.descriptor_ptr e = some d ∧ (k.store.descriptor d).ptr = some e ∧ k.Live c d ∧
      d.pool = .descriptor ∧ k.Of d o := by
  obtain ⟨d, names, back, alive, pool⟩ := inv.ptr (sound.live linked) (sound.kind linked)
  obtain ⟨e', o', ptr, -, there, of⟩ := inv.des alive pool
  obtain rfl : e' = e := Option.some.inj (ptr.symm.trans back)
  obtain rfl : o' = o := by simpa [there] using linked
  exact ⟨d, names, back, alive, pool, of⟩

theorem not_of (inv : Descriptors c k) (sound : k.Sound c) {d o : Addr} (alive : k.Live c d)
    (pool : d.pool = .descriptor) (unused : k.seq (.descriptors_ptrs o) = []) : ¬ k.Of d o := by
  intro of
  obtain ⟨e, o', -, -, there, of'⟩ := inv.des alive pool
  obtain rfl : o' = o := by
    rcases of with ⟨mq, resource, -⟩ | ⟨mq, resource, -⟩ <;>
      rcases of' with ⟨mq', resource', -⟩ | ⟨mq', resource', -⟩ <;> simp_all
  have member := sound.mem_seq.mpr there
  simp [unused] at member

theorem ptrs_empty (inv : Descriptors c k) (sound : k.Sound c) {o : Addr} (dead : ¬ k.Live c o)
    (e : Addr) : k.place e ≠ .linked (.descriptors_ptrs o) := by
  intro linked
  obtain ⟨d, -, -, -, -, ⟨-, -, there⟩ | ⟨-, -, there⟩⟩ := inv.link sound linked
  · exact dead (sound.live there)
  · exact dead (sound.live there)

theorem congr {k' : Scene} (inv : Descriptors c k)
    (live : ∀ {x}, x.pool = .descriptor ∨ x.pool = .descriptor_ptr → (k'.Live c x ↔ k.Live c x))
    (ptrs : ∀ {e o}, k.place e = .linked (.descriptors_ptrs o) →
      k'.place e = .linked (.descriptors_ptrs o))
    (owner : ∀ {d p}, k'.place d = .linked (.descriptors p) →
      k.place d = .linked (.descriptors p) ∧ (k'.store.pcb p).last_fd = (k.store.pcb p).last_fd)
    (counter : ∀ p, (k'.store.pcb p).last_fd = (k.store.pcb p).last_fd ∨
      (k'.store.pcb p).last_fd = 0)
    (queue : ∀ {o}, k.place o = .linked .mq_list → k'.place o = .linked .mq_list)
    (resource : ∀ {o}, k.place o = .linked .resources_list → k'.place o = .linked .resources_list)
    (des : k'.store.descriptor = k.store.descriptor)
    (ptr : k'.store.descriptor_ptr = k.store.descriptor_ptr)
    (listed : ∀ {x}, k'.Live c x → x.pool = .resource →
      k.Live c x ∨ k'.place x = .linked .resources_list) : Descriptors c k' where
  des {d} alive pool := by
    obtain ⟨e, o, names, back, there, of⟩ := inv.des ((live (.inl pool)).mp alive) pool
    refine ⟨e, o, des ▸ names, ptr ▸ back, ptrs there, ?_⟩
    simp only [Scene.Of, des]
    exact of.imp (fun h => ⟨h.1, h.2.1, queue h.2.2⟩) fun h => ⟨h.1, h.2.1, resource h.2.2⟩
  ptr {e} alive pool := by
    obtain ⟨d, names, back, alive, pool⟩ := inv.ptr ((live (.inr pool)).mp alive) pool
    exact ⟨d, ptr ▸ names, des ▸ back, (live (.inl pool)).mpr alive, pool⟩
  owner linked := by
    rw [des]
    exact inv.owner (owner linked).1
  counter p := by
    have counter' := inv.counter p
    rcases counter p with same | zero <;> omega
  fd linked := by
    rw [des, (owner linked).2]
    exact inv.fd (owner linked).1
  distinct linked linked' same := by
    rw [des] at same
    exact inv.distinct (owner linked).1 (owner linked').1 same
  listed alive pool := by
    rcases listed alive pool with before | there
    · exact resource (inv.listed before pool)
    · exact there

theorem frame {touched : List Pool} {k' : Scene} (inv : Descriptors c k)
    (frame : Scene.Frame touched k k') (sound : k.Sound c) (sound' : k'.Sound c)
    (des : .descriptor ∉ touched) (ptr : .descriptor_ptr ∉ touched)
    (queue : .message_queue ∉ touched) (resource : .resource ∉ touched)
    (last_fd : ∀ p, (k'.store.pcb p).last_fd = (k.store.pcb p).last_fd) : Descriptors c k' := by
  refine inv.congr (fun pool => frame.live ?_) (frame.linked sound sound' (.descriptors_ptrs _) ptr).mpr
    (fun linked => ⟨(frame.linked sound sound' (.descriptors _) des).mp linked, last_fd _⟩)
    (fun p => .inl (last_fd p))
    (frame.linked sound sound' .mq_list queue).mpr
    (frame.linked sound sound' .resources_list resource).mpr
    (frame.descriptor des) (frame.descriptor_ptr ptr) fun alive pool =>
      .inl ((frame.live (pool ▸ resource)).mp alive)
  rcases pool with pool | pool
  · exact pool ▸ des
  · exact pool ▸ ptr

theorem drop {r d o e : Addr} (inv : Descriptors c k) (sound : k.Sound c)
    (open_ : k.place d = .linked (.descriptors r)) (of : k.Of d o)
    (ptr : (k.store.descriptor d).ptr = some e) : Descriptors c (k.dropDescriptor r d o e) := by
  have pool : d.pool = .descriptor := sound.kind open_
  obtain ⟨e', o', names, back, there, of'⟩ := inv.des (sound.live open_) pool
  obtain rfl : e' = e := Option.some.inj (names.symm.trans ptr)
  have kind : e'.pool = .descriptor_ptr := sound.kind there
  have place {x : Addr} : (k.dropDescriptor r d o e').place x =
      if x = e' then .unlinked else if x = d then .unlinked else k.place x := by
    simp [Scene.dropDescriptor, Function.update_apply]
  have des {x : Addr} (h : x.pool = .descriptor) :
      (k.dropDescriptor r d o e').Live c x ↔ x ≠ d ∧ k.Live c x := by
    refine (Shape.live_release (L := layout c) pool).trans (and_congr_right fun _ => ?_)
    exact Shape.live_release_of_ne (L := layout c) (by simp [h])
  have ptrs {x : Addr} (h : x.pool = .descriptor_ptr) :
      (k.dropDescriptor r d o e').Live c x ↔ x ≠ e' ∧ k.Live c x :=
    (Shape.live_release_of_ne (L := layout c) (by simp [h])).trans
      (Shape.live_release (L := layout c) kind)
  have apart {x : Addr} {p : Pool} (h : x.pool = p) (hd : p ≠ .descriptor) (he : p ≠ .descriptor_ptr) :
      (k.dropDescriptor r d o e').place x = k.place x := by
    rw [place, if_neg (by rintro rfl; exact he (h.symm.trans kind)),
      if_neg (by rintro rfl; exact hd (h.symm.trans pool))]
  constructor
  · intro x alive h
    obtain ⟨away, before⟩ := (des h).mp alive
    obtain ⟨u, v, names', back', there', of''⟩ := inv.des before h
    -- the two records that are freed name each other, so no other pair loses a half
    have differs : u ≠ e' := by
      rintro rfl
      exact away (Option.some.inj (back'.symm.trans back))
    have wrapper : u.pool = .descriptor_ptr := sound.kind there'
    refine ⟨u, v, names', back', ?_, ?_⟩
    · rw [place, if_neg differs, if_neg (by rintro rfl; simp [pool] at wrapper), there']
    · refine of''.imp (fun h => ⟨h.1, h.2.1, ?_⟩) fun h => ⟨h.1, h.2.1, ?_⟩
      · rw [apart (sound.kind h.2.2) nofun nofun, h.2.2]
      · rw [apart (sound.kind h.2.2) nofun nofun, h.2.2]
  · intro x alive h
    obtain ⟨away, before⟩ := (ptrs h).mp alive
    obtain ⟨u, names', back', alive', pool'⟩ := inv.ptr before h
    refine ⟨u, names', back', (des pool').mpr ⟨?_, alive'⟩, pool'⟩
    rintro rfl
    exact away (Option.some.inj (back'.symm.trans ptr))
  · intro x p linked
    have owner := inv.owner (d := x) (p := p)
    rw [place] at linked
    exact owner (by grind)
  · exact inv.counter
  · intro x p linked
    have fd := inv.fd (d := x) (p := p)
    rw [place] at linked
    exact fd (by grind)
  · intro x x' p linked linked'
    have distinct := @Descriptors.distinct _ _ inv x x' p
    rw [place] at linked linked'
    exact distinct (by grind) (by grind)
  · intro x alive h
    rw [apart h nofun nofun]
    refine inv.listed ?_ h
    exact ((Shape.live_release_of_ne (L := layout c) (by simp [h])).trans
      (Shape.live_release_of_ne (L := layout c) (by simp [h]))).mp alive

theorem open_ {r o d e : Addr} {resource mq : Pointer} (inv : Descriptors c k) (sound : k.Sound c)
    (top : (k.free .descriptor).head? = some d) (topPtr : (k.free .descriptor_ptr).head? = some e)
    (of : mq = some o ∧ resource = none ∧ k.place o = .linked .mq_list ∨
      mq = none ∧ resource = some o ∧ k.place o = .linked .resources_list) :
    Descriptors c (k.openDescriptor r o d e resource mq) := by
  have fresh := sound.top top
  have wrapper := sound.top topPtr
  have place {x : Addr} : (k.openDescriptor r o d e resource mq).place x =
      if x = e then .linked (.descriptors_ptrs o) else if x = d then .linked (.descriptors r)
      else k.place x := by
    simp [Scene.openDescriptor, Function.update_apply]
  have des {x : Addr} (h : x.pool = .descriptor) :
      (k.openDescriptor r o d e resource mq).Live c x ↔ x = d ∨ k.Live c x :=
    (Shape.live_alloc_of_ne (L := layout c) (by simp [h])).trans (sound.live_alloc top)
  have ptrs {x : Addr} (h : x.pool = .descriptor_ptr) :
      (k.openDescriptor r o d e resource mq).Live c x ↔ x = e ∨ k.Live c x := by
    refine ((sound.alloc .descriptor).live_alloc (by simpa using topPtr)).trans
      (or_congr_right ?_)
    exact Shape.live_alloc_of_ne (L := layout c) (by simp [h])
  have record {x : Addr} : (k.openDescriptor r o d e resource mq).store.descriptor x =
      if x = d then ⟨some r, resource, mq, (k.store.pcb r).last_fd, some e⟩
      else k.store.descriptor x := by
    simp [Scene.openDescriptor, Function.update_apply]
  have pointer {x : Addr} : (k.openDescriptor r o d e resource mq).store.descriptor_ptr x =
      if x = e then some d else k.store.descriptor_ptr x := by
    simp [Scene.openDescriptor, Function.update_apply]
  have counts {x : Addr} : ((k.openDescriptor r o d e resource mq).store.pcb x).last_fd =
      if x = r then (k.store.pcb r).last_fd + 1 else (k.store.pcb x).last_fd := by
    simp [Scene.openDescriptor]
  have apart {x : Addr} {p : Pool} (h : x.pool = p) (hd : p ≠ .descriptor) (he : p ≠ .descriptor_ptr) :
      (k.openDescriptor r o d e resource mq).place x = k.place x := by
    rw [place, if_neg (by rintro rfl; exact he (h.symm.trans wrapper.1)),
      if_neg (by rintro rfl; exact hd (h.symm.trans fresh.1))]
  have counter := inv.counter r
  constructor
  · intro x alive h
    -- the new pair is complete, and the old pairs name neither of its blocks
    by_cases same : x = d
    · refine ⟨e, o, by rw [record, if_pos same], by rw [pointer, if_pos rfl, same],
        by rw [place, if_pos rfl], ?_⟩
      rw [Scene.Of, record, if_pos same]
      refine of.imp (fun h => ⟨h.1, h.2.1, ?_⟩) fun h => ⟨h.1, h.2.1, ?_⟩
      · rw [apart (sound.kind h.2.2) nofun nofun, h.2.2]
      · rw [apart (sound.kind h.2.2) nofun nofun, h.2.2]
    · obtain ⟨u, v, names, back, there, of'⟩ :=
        inv.des (((des h).mp alive).resolve_left same) h
      have differs : u ≠ e := by
        rintro rfl
        simp [wrapper.2.1] at there
      have kind : u.pool = .descriptor_ptr := sound.kind there
      refine ⟨u, v, by rw [record, if_neg same, names], by rw [pointer, if_neg differs, back], ?_, ?_⟩
      · rw [place, if_neg differs, if_neg (by rintro rfl; simp [fresh.1] at kind), there]
      · rw [Scene.Of, record, if_neg same]
        refine of'.imp (fun h => ⟨h.1, h.2.1, ?_⟩) fun h => ⟨h.1, h.2.1, ?_⟩
        · rw [apart (sound.kind h.2.2) nofun nofun, h.2.2]
        · rw [apart (sound.kind h.2.2) nofun nofun, h.2.2]
  · intro x alive h
    by_cases same : x = e
    · exact ⟨d, by rw [pointer, if_pos same], by rw [record, if_pos rfl, same],
        (des fresh.1).mpr (.inl rfl), fresh.1⟩
    · obtain ⟨u, names, back, alive', pool⟩ := inv.ptr (((ptrs h).mp alive).resolve_left same) h
      have differs : u ≠ d := fun h => fresh.2.2 (h ▸ alive')
      exact ⟨u, by rw [pointer, if_neg same, names], by rw [record, if_neg differs, back],
        (des pool).mpr (.inr alive'), pool⟩
  · intro x p linked
    have owner := inv.owner (d := x) (p := p)
    rw [place] at linked
    rw [record]
    grind
  · intro p
    have counter' := inv.counter p
    rw [counts]
    split <;> omega
  · intro x p linked
    have fd := inv.fd (d := x) (p := p)
    rw [place] at linked
    rw [record, counts]
    grind
  · intro x x' p linked linked'
    have distinct := @Descriptors.distinct _ _ inv x x' p
    have fd := inv.fd (d := x) (p := p)
    have fd' := inv.fd (d := x') (p := p)
    rw [place] at linked linked'
    rw [record, record]
    grind
  · intro x alive h
    rw [apart h nofun nofun]
    refine inv.listed ?_ h
    exact ((Shape.live_alloc_of_ne (L := layout c) (by simp [h])).trans
      (Shape.live_alloc_of_ne (L := layout c) (by simp [h]))).mp alive

theorem newResource {x : Addr} {id type : Int} (inv : Descriptors c k) (sound : k.Sound c)
    (top : (k.free .resource).head? = some x) : Descriptors c (k.newResource x id type) := by
  have fresh := sound.top top
  have empty := inv.ptrs_empty sound fresh.2.2
  have live {u : Addr} : (k.newResource x id type).Live c u ↔ u = x ∨ k.Live c u :=
    sound.live_alloc top
  refine inv.congr (fun {u} pool => ?_) (fun {e o} linked => ?_) (fun {d p} linked => ?_)
    (fun _ => .inl rfl) (fun {o} linked => ?_) (fun {o} linked => ?_) rfl rfl fun {u} alive pool => ?_
  · have other : u ≠ x := by
      rintro rfl
      simp [fresh.1] at pool
    simp [live, other]
  · have used : o ≠ x := by
      rintro rfl
      exact empty e linked
    have other : e ≠ x := by
      rintro rfl
      simp [fresh.2.1] at linked
    simp [Scene.newResource, other, used, linked]
  · by_cases same : d = x
    · simp [Scene.newResource, same] at linked
    · exact ⟨by simpa [Scene.newResource, same] using linked, rfl⟩
  · have other : o ≠ x := by
      rintro rfl
      simp [fresh.2.1] at linked
    simp [Scene.newResource, other, linked]
  · have other : o ≠ x := by
      rintro rfl
      simp [fresh.2.1] at linked
    simp [Scene.newResource, other, linked]
  · rcases live.mp alive with rfl | before
    · simp [Scene.newResource]
    · exact .inl before

theorem newQueue {q : Addr} {id : Int} (inv : Descriptors c k) (sound : k.Sound c)
    (top : (k.free .message_queue).head? = some q) : Descriptors c (k.newQueue q id) := by
  have fresh := sound.top top
  have empty := inv.ptrs_empty sound fresh.2.2
  have live {u : Addr} : (k.newQueue q id).Live c u ↔ u = q ∨ k.Live c u :=
    sound.live_alloc top
  have other {u : Addr} {h : Head} (linked : k.place u = .linked h) : u ≠ q := by
    rintro rfl
    simp [fresh.2.1] at linked
  refine inv.congr (fun {u} pool => ?_) (fun {e o} linked => ?_) (fun {d p} linked => ?_)
    (fun _ => .inl rfl) (fun {o} linked => ?_) (fun {o} linked => ?_) rfl rfl fun {u} alive pool => ?_
  · have differs : u ≠ q := by
      rintro rfl
      simp [fresh.1] at pool
    simp [live, differs]
  · have used : o ≠ q := by
      rintro rfl
      exact empty e linked
    exact Queues.place_newQueue.mpr (.inr ⟨other linked, linked, by simpa using used, nofun, nofun, nofun⟩)
  · rcases Queues.place_newQueue.mp linked with ⟨-, same⟩ | ⟨-, before, -⟩
    · cases same
    · exact ⟨before, rfl⟩
  · exact Queues.place_newQueue.mpr (.inr ⟨other linked, linked, nofun, nofun, nofun, nofun⟩)
  · exact Queues.place_newQueue.mpr (.inr ⟨other linked, linked, nofun, nofun, nofun, nofun⟩)
  · rcases live.mp alive with rfl | before
    · simp [fresh.1] at pool
    · exact .inl before

theorem destroy {r x : Addr} {global : Head} (inv : Descriptors c k) (sound : k.Sound c)
    (kind : global = .mq_list ∨ global = .resources_list) (linked : k.place x = .linked global)
    (unused : k.seq (.descriptors_ptrs x) = []) : Descriptors c (k.destroy r global x) := by
  have pool := sound.kind linked
  have live {u : Addr} : (k.destroy r global x).Live c u ↔ u ≠ x ∧ k.Live c u :=
    Shape.live_release (L := layout c) pool
  have place {u : Addr} : (k.destroy r global x).place u = if u = x then .unlinked else k.place u := by
    simp [Scene.destroy, Function.update_apply]
  have counts {u : Addr} : ((k.destroy r global x).store.pcb u).last_fd = (k.store.pcb u).last_fd := by
    simp [Scene.destroy]
  have apart {u : Addr} (h : u.pool ≠ .message_queue) (h' : u.pool ≠ .resource) : u ≠ x := by
    rintro rfl
    rcases kind with rfl | rfl
    · exact h pool
    · exact h' pool
  constructor
  · intro d alive h
    obtain ⟨-, before⟩ := live.mp alive
    obtain ⟨e, o, names, back, there, of⟩ := inv.des before h
    have other : o ≠ x := by
      rintro rfl
      exact inv.not_of sound before h unused of
    have wrapper : e.pool = .descriptor_ptr := sound.kind there
    refine ⟨e, o, names, back, ?_, ?_⟩
    · rw [place, if_neg (apart (by simp [wrapper]) (by simp [wrapper])), there]
    · refine of.imp (fun h => ⟨h.1, h.2.1, ?_⟩) fun h => ⟨h.1, h.2.1, ?_⟩
      · rw [place, if_neg other, h.2.2]
      · rw [place, if_neg other, h.2.2]
  · intro e alive h
    obtain ⟨-, before⟩ := live.mp alive
    obtain ⟨d, names, back, alive', pool'⟩ := inv.ptr before h
    exact ⟨d, names, back, live.mpr ⟨apart (by simp [pool']) (by simp [pool']), alive'⟩, pool'⟩
  · intro d p there
    have owner := inv.owner (d := d) (p := p)
    rw [place] at there
    exact owner (by grind)
  · intro p
    rw [counts]
    exact inv.counter p
  · intro d p there
    have fd := inv.fd (d := d) (p := p)
    rw [place] at there
    rw [counts]
    exact fd (by grind)
  · intro d d' p there there'
    have distinct := @Descriptors.distinct _ _ inv d d' p
    rw [place] at there there'
    exact distinct (by grind) (by grind)
  · intro u alive h
    obtain ⟨away, before⟩ := live.mp alive
    rw [place, if_neg away]
    exact inv.listed before h

end Descriptors

end DisastrOS
