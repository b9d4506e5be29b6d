import DisastrOS.Processes

/-! Process identifiers and the tree of children lists. -/

set_option autoImplicit false

namespace DisastrOS

open Refinement

variable {c : Config} {k : Scene} {runner gone : Pointer}

namespace Pids

theorem congr {k' : Scene} (inv : Pids c k)
    (live : ∀ {p}, p.pool = .pcb → (k'.Live c p ↔ k.Live c p))
    (pid : ∀ p, (k'.store.pcb p).pid = (k.store.pcb p).pid)
    (last_pid : k'.store.last_pid = k.store.last_pid) : Pids c k' where
  range {p} alive pool := by
    have range := inv.range ((live pool).mp alive) pool
    rwa [pid, last_pid]
  distinct {p p'} alive pool alive' pool' same := by
    rw [pid, pid] at same
    exact inv.distinct ((live pool).mp alive) pool ((live pool').mp alive') pool' same

theorem frame {touched : List Pool} {k' : Scene} (inv : Pids c k) (frame : Scene.Frame touched k k')
    (live : ∀ {p}, p.pool = .pcb → (k'.Live c p ↔ k.Live c p)) : Pids c k' :=
  inv.congr live frame.pid frame.last_pid

theorem shrink {k' : Scene} (inv : Pids c k)
    (live : ∀ {p}, p.pool = .pcb → k'.Live c p → k.Live c p)
    (pid : ∀ p, (k'.store.pcb p).pid = (k.store.pcb p).pid)
    (last_pid : k'.store.last_pid = k.store.last_pid) : Pids c k' where
  range {p} alive pool := by
    have range := inv.range (live pool alive) pool
    rwa [pid, last_pid]
  distinct {p p'} alive pool alive' pool' same := by
    rw [pid, pid] at same
    exact inv.distinct (live pool alive) pool (live pool' alive') pool' same

theorem newChild {r p e : Addr} (inv : Pids c k) (sound : k.Sound c)
    (caller : k.Live c r ∧ r.pool = .pcb) (pcb : (k.free .pcb).head? = some p) :
    Pids c (k.newChild r p e) := by
  have fresh := sound.top pcb
  have counter := inv.range caller.1 caller.2
  have live {x : Addr} (pool : x.pool = .pcb) := Scene.live_newChild (r := r) (e := e) sound pcb pool
  refine ⟨fun {x} alive pool => ?_, fun {x x'} alive pool alive' pool' => ?_⟩
  · have range := inv.range (p := x)
    rw [live pool] at alive
    simp [Scene.newChild] at *
    grind
  · have distinct := @Pids.distinct _ _ inv x x'
    have range := inv.range (p := x)
    have range' := inv.range (p := x')
    rw [live pool] at alive
    rw [live pool'] at alive'
    simp [Scene.newChild] at *
    grind

theorem restart {p : Addr} (inv : Pids c k) (sound : k.Sound c) (counter : 0 ≤ k.store.last_pid)
    (pcb : (k.free .pcb).head? = some p) : Pids c (k.restart p) := by
  have fresh := sound.top pcb
  have live {x : Addr} := Scene.live_restart (x := x) sound pcb
  refine ⟨fun {x} alive pool => ?_, fun {x x'} alive pool alive' pool' => ?_⟩
  · have range := inv.range (p := x)
    rw [live] at alive
    simp [Scene.restart] at *
    grind
  · have distinct := @Pids.distinct _ _ inv x x'
    have range := inv.range (p := x)
    have range' := inv.range (p := x')
    rw [live] at alive
    rw [live] at alive'
    simp [Scene.restart] at *
    grind

end Pids

namespace Tree

theorem congr {k' : Scene} (inv : Tree c gone k)
    (children : ∀ {e q}, k'.place e = .linked (.children q) ↔ k.place e = .linked (.children q))
    (ptr : ∀ {e q}, k.place e = .linked (.children q) → k'.store.pcb_ptr e = k.store.pcb_ptr e)
    (live : ∀ {p}, p.pool = .pcb → (k'.Live c p ↔ k.Live c p))
    (zombie : ∀ {p}, p.pool = .pcb → k'.place p = .linked .zombie_list →
      k.place p = .linked .zombie_list)
    (parent : ∀ p, (k'.store.pcb p).parent = (k.store.pcb p).parent)
    (init : k'.store.init_pcb = k.store.init_pcb) : Tree c gone k' where
  init := by
    obtain ⟨i, same, alive, pool, root⟩ := inv.init
    exact ⟨i, init ▸ same, (live pool).mpr alive, pool, (parent i).trans root⟩
  root {p} alive pool orphan dead :=
    inv.root ((live pool).mp alive) pool ((parent p).symm.trans orphan) (zombie pool dead)
  entry {e q} linked := by
    obtain ⟨⟨p, same, alive, pool, other, kept⟩, owner, kind, there⟩ :=
      inv.entry (children.mp linked)
    exact ⟨⟨p, (ptr (children.mp linked)).trans same, (live pool).mpr alive, pool, parent p ▸ other, kept⟩,
      (live kind).mpr owner, kind, fun h => there (zombie kind h)⟩
  unique {e e' q q'} linked linked' same := by
    rw [ptr (children.mp linked), ptr (children.mp linked')] at same
    exact inv.unique (children.mp linked) (children.mp linked') same
  child {p} alive pool other kept := by
    obtain ⟨e, q, linked, same⟩ := inv.child ((live pool).mp alive) pool (parent p ▸ other) kept
    exact ⟨e, q, children.mpr linked, (ptr linked).trans same⟩

theorem frame {touched : List Pool} {k' : Scene} (inv : Tree c gone k)
    (frame : Scene.Frame touched k k') (sound : k.Sound c) (sound' : k'.Sound c)
    (other : .pcb_ptr ∉ touched) (live : ∀ {p}, p.pool = .pcb → (k'.Live c p ↔ k.Live c p))
    (zombie : ∀ {p}, p.pool = .pcb → k'.place p = .linked .zombie_list →
      k.place p = .linked .zombie_list) : Tree c gone k' :=
  inv.congr (frame.linked sound sound' (.children _) other) (fun _ => by rw [frame.pcb_ptr other]) live zombie
    frame.parent frame.init_pcb

theorem children_empty (inv : Tree c gone k) {p : Addr} (dead : ¬ k.Live c p) (e : Addr) :
    k.place e ≠ .linked (.children p) :=
  fun linked => dead (inv.entry linked).2.1

theorem init_parent (inv : Tree c gone k) {i : Addr} (init : k.store.init_pcb = some i) :
    (k.store.pcb i).parent = none := by
  obtain ⟨i', init', -, -, root⟩ := inv.init
  cases init.symm.trans init'
  exact root

theorem newChild {r p e : Addr} (inv : Tree c none k) (sound : k.Sound c)
    (caller : k.Live c r ∧ r.pool = .pcb ∧ k.place r ≠ .linked .zombie_list)
    (pcb : (k.free .pcb).head? = some p) (ptr : (k.free .pcb_ptr).head? = some e) :
    Tree c none (k.newChild r p e) := by
  have fresh := sound.top pcb
  have wrapper := sound.top ptr
  have live {x : Addr} (pool : x.pool = .pcb) := Scene.live_newChild (r := r) (e := e) sound pcb pool
  have empty := inv.children_empty fresh.2.2
  have children {x q : Addr} : (k.newChild r p e).place x = .linked (.children q) ↔
      x = e ∧ q = r ∨ k.place x = .linked (.children q) := by
    simp [Scene.newChild, Function.update_apply, Shape.place_reset]
    grind
  have zombie {x : Addr} (there : (k.newChild r p e).place x = .linked .zombie_list) :
      x ≠ p ∧ k.place x = .linked .zombie_list := by
    simp [Scene.newChild, Function.update_apply, Shape.place_reset] at there
    grind
  have ptrs {x : Addr} : (k.newChild r p e).store.pcb_ptr x =
      if x = e then some p else k.store.pcb_ptr x := by
    simp [Scene.newChild, Function.update_apply]
  -- the records of the processes there were are as before
  have old {x : Addr} (alive : k.Live c x) : x ≠ p := fun same => fresh.2.2 (same ▸ alive)
  have born : ((k.newChild r p e).store.pcb p).parent = some r := by simp [Scene.newChild]
  have parent {x : Addr} (alive : k.Live c x) :
      ((k.newChild r p e).store.pcb x).parent = (k.store.pcb x).parent := by simp [Scene.newChild, old alive]
  refine ⟨?_, fun {x} alive pool orphan dead => ?_, fun {x q} linked => ?_,
    fun {x x' q q'} linked linked' same => ?_, fun {x} alive pool other _ => ?_⟩
  · obtain ⟨i, same, alive, pool, root⟩ := inv.init
    exact ⟨i, same, (live pool).mpr (.inr alive), pool, (parent alive).trans root⟩
  · rcases (live pool).mp alive with rfl | before
    · cases orphan.symm.trans born
    · exact inv.root before pool ((parent before).symm.trans orphan) (zombie dead).2
  · rw [ptrs]
    rcases children.mp linked with ⟨rfl, rfl⟩ | before
    · exact ⟨⟨p, if_pos rfl, (live fresh.1).mpr (.inl rfl), fresh.1, by simp [born], (Option.some_ne_none _).symm⟩,
        (live caller.2.1).mpr (.inr caller.1), caller.2.1, fun h => caller.2.2 (zombie h).2⟩
    · obtain ⟨⟨u, same, alive, pool, other, kept⟩, owner, kind, there⟩ := inv.entry before
      have differs : x ≠ e := by
        rintro rfl
        simp [wrapper.2.1] at before
      exact ⟨⟨u, (if_neg differs).trans same, (live pool).mpr (.inr alive), pool, parent alive ▸ other, kept⟩,
        (live kind).mpr (.inr owner), kind, fun h => there (zombie h).2⟩
  · rw [ptrs, ptrs] at same
    have entry := inv.entry (e := x) (q := q)
    have entry' := inv.entry (e := x') (q := q')
    have unique := @Tree.unique _ _ _ inv x x' q q'
    rw [children] at linked linked'
    grind
  · rcases (live pool).mp alive with rfl | before
    · exact ⟨e, r, children.mpr (.inl ⟨rfl, rfl⟩), by rw [ptrs, if_pos rfl]⟩
    · obtain ⟨u, q, linked, same⟩ := inv.child before pool (parent before ▸ other) (Option.some_ne_none _).symm
      have differs : u ≠ e := by
        rintro rfl
        simp [wrapper.2.1] at linked
      exact ⟨u, q, children.mpr (.inr linked), by rw [ptrs, if_neg differs, same]⟩

theorem restart {p : Addr} (inv : Tree c none k) (sound : k.Sound c) (pcb : (k.free .pcb).head? = some p) :
    Tree c none (k.restart p) := by
  have fresh := sound.top pcb
  have empty := inv.children_empty fresh.2.2
  have live {x : Addr} := Scene.live_restart (x := x) sound pcb
  have children {x q : Addr} :
      (k.restart p).place x = .linked (.children q) ↔ k.place x = .linked (.children q) := by
    simp [Scene.restart, Shape.place_reset]
    grind
  have zombie {x : Addr} : (k.restart p).place x = .linked .zombie_list ↔ k.place x = .linked .zombie_list := by
    simp [Scene.restart, Shape.place_reset]
    grind
  have old {x : Addr} (alive : k.Live c x) : x ≠ p := fun same => fresh.2.2 (same ▸ alive)
  have parent {x : Addr} (alive : k.Live c x) :
      ((k.restart p).store.pcb x).parent = (k.store.pcb x).parent := by simp [Scene.restart, old alive]
  have orphan : ((k.restart p).store.pcb p).parent = none := by simp [Scene.restart]
  refine ⟨⟨p, rfl, live.mpr (.inl rfl), fresh.1, orphan⟩, fun {x} alive pool root dead => ?_,
    fun {x q} linked => ?_, fun linked linked' => inv.unique (children.mp linked) (children.mp linked'),
    fun {x} alive pool other _ => ?_⟩
  · rcases live.mp alive with rfl | before
    · cases fresh.2.1.symm.trans (zombie.mp dead)
    · exact inv.root before pool ((parent before).symm.trans root) (zombie.mp dead)
  · obtain ⟨⟨u, same, alive, pool, other, kept⟩, owner, kind, there⟩ := inv.entry (children.mp linked)
    exact ⟨⟨u, same, live.mpr (.inr alive), pool, parent alive ▸ other, kept⟩, live.mpr (.inr owner), kind,
      fun dead => there (zombie.mp dead)⟩
  · rcases live.mp alive with rfl | before
    · exact absurd orphan other
    · obtain ⟨u, q, linked, same⟩ := inv.child before pool (parent before ▸ other) (Option.some_ne_none _).symm
      exact ⟨u, q, children.mpr linked, same⟩

theorem unlink {k' : Scene} {z e r : Addr} (inv : Tree c none k)
    (entry : k.place e = .linked (.children r)) (names : k.store.pcb_ptr e = some z)
    (children : ∀ {x q}, k'.place x = .linked (.children q) ↔
      x ≠ e ∧ k.place x = .linked (.children q))
    (ptr : k'.store.pcb_ptr = k.store.pcb_ptr)
    (live : ∀ {p}, k'.Live c p ↔ k.Live c p)
    (zombie : ∀ {p}, k'.place p = .linked .zombie_list → k.place p = .linked .zombie_list)
    (parent : ∀ p, (k'.store.pcb p).parent = (k.store.pcb p).parent)
    (init : k'.store.init_pcb = k.store.init_pcb) : Tree c (some z) k' := by
  refine ⟨?_, fun {p} alive pool orphan dead => ?_, fun {x q} linked => ?_,
    fun {x x' q q'} linked linked' same => ?_, fun {p} alive pool other kept => ?_⟩
  · obtain ⟨i, same, alive, pool, root⟩ := inv.init
    exact ⟨i, init ▸ same, live.mpr alive, pool, (parent i).trans root⟩
  · exact inv.root (live.mp alive) pool ((parent p).symm.trans orphan) (zombie dead)
  · obtain ⟨away, before⟩ := children.mp linked
    obtain ⟨⟨u, same, alive, pool, other, -⟩, owner, kind, there⟩ := inv.entry before
    have differs : some z ≠ some u := fun h =>
      away (inv.unique before entry (same.trans (h.symm.trans names.symm)))
    exact ⟨⟨u, ptr ▸ same, live.mpr alive, pool, parent u ▸ other, differs⟩, live.mpr owner, kind,
      fun h => there (zombie h)⟩
  · rw [ptr] at same
    exact inv.unique (children.mp linked).2 (children.mp linked').2 same
  · obtain ⟨x, q, linked, same⟩ := inv.child (live.mp alive) pool (parent p ▸ other) (Option.some_ne_none _).symm
    have away : x ≠ e := by
      rintro rfl
      exact kept (names.symm.trans same)
    exact ⟨x, q, children.mpr ⟨away, linked⟩, ptr ▸ same⟩

theorem forget {k' : Scene} {z : Addr} (inv : Tree c (some z) k)
    (zombie : k.place z = .linked .zombie_list)
    (children : ∀ {x q}, k'.place x = .linked (.children q) ↔ k.place x = .linked (.children q))
    (ptr : k'.store.pcb_ptr = k.store.pcb_ptr)
    (live : ∀ {p}, p.pool = .pcb → (k'.Live c p ↔ p ≠ z ∧ k.Live c p))
    (zombies : ∀ {p}, k'.place p = .linked .zombie_list → k.place p = .linked .zombie_list)
    (parent : ∀ p, (k'.store.pcb p).parent = (k.store.pcb p).parent)
    (init : k'.store.init_pcb = k.store.init_pcb) : Tree c none k' := by
  have apart {p : Addr} (there : k.place p ≠ .linked .zombie_list) : p ≠ z := by
    rintro rfl
    exact there zombie
  refine ⟨?_, fun {p} alive pool orphan dead => ?_, fun {x q} linked => ?_,
    fun {x x' q q'} linked linked' same => ?_, fun {p} alive pool other _ => ?_⟩
  · obtain ⟨i, same, alive, pool, root⟩ := inv.init
    exact ⟨i, init ▸ same, (live pool).mpr ⟨apart (inv.root alive pool root), alive⟩, pool, (parent i).trans root⟩
  · exact inv.root ((live pool).mp alive).2 pool ((parent p).symm.trans orphan) (zombies dead)
  · obtain ⟨⟨u, same, alive, pool, other, kept⟩, owner, kind, there⟩ :=
      inv.entry (children.mp linked)
    have differs : u ≠ z := fun same => kept (congrArg some same.symm)
    exact ⟨⟨u, ptr ▸ same, (live pool).mpr ⟨differs, alive⟩, pool, parent u ▸ other, (Option.some_ne_none _).symm⟩,
      (live kind).mpr ⟨apart there, owner⟩, kind, fun h => there (zombies h)⟩
  · rw [ptr] at same
    exact inv.unique (children.mp linked) (children.mp linked') same
  · obtain ⟨differs, before⟩ := (live pool).mp alive
    obtain ⟨x, q, linked, same⟩ := inv.child before pool (parent p ▸ other)
      fun same => differs (Option.some.inj same).symm
    exact ⟨x, q, children.mpr linked, ptr ▸ same⟩

theorem reap {r e z : Addr} {result : Int} (inv : Tree c none k) (sound : k.Sound c)
    (entry : k.place e = .linked (.children r)) (names : k.store.pcb_ptr e = some z)
    (zombie : k.place z = .linked .zombie_list) : Tree c none (k.reap r e z result) := by
  have kind := sound.kind zombie
  have wrapper := sound.kind entry
  have unlinked : Tree c (some z) (k.detach (.children r) e) := by
    refine inv.unlink entry names (fun {x q} => ?_) rfl Iff.rfl (fun {p} => ?_) (fun _ => rfl) rfl
    · simp [Function.update_apply]
      grind
    · simp [Function.update_apply]
      grind
  refine unlinked.forget ?_ (fun {x q} => ?_) (by simp [Scene.reap]) (Scene.live_reap kind)
    (fun {p} => ?_) (fun p => by simp [Scene.reap]) (by simp [Scene.reap])
  · have differs : z ≠ e := fun same => by simp [same, wrapper, Head.kind] at kind
    simpa [differs] using zombie
  · simp [Scene.reap, Function.update_apply]
    grind
  · simp [Scene.reap, Function.update_apply]
    grind

theorem reparent {r i e p : Addr} (inv : Tree c gone k)
    (entry : k.place e = .linked (.children r)) (init : k.store.init_pcb = some i) :
    Tree c gone (k.reparent r i e p) := by
  have children {x q : Addr} : (k.reparent r i e p).place x = .linked (.children q) ↔
      x = e ∧ q = i ∨ x ≠ e ∧ k.place x = .linked (.children q) := by
    simp [Scene.reparent, Function.update_apply]
    grind
  have zombie {x : Addr} (there : (k.reparent r i e p).place x = .linked .zombie_list) :
      k.place x = .linked .zombie_list := by
    simp [Scene.reparent, Function.update_apply] at there
    grind
  have parent (x : Addr) : ((k.reparent r i e p).store.pcb x).parent = (k.store.pcb x).parent := by
    simp [Scene.reparent]
  obtain ⟨i', same, alive, pool, root⟩ := inv.init
  obtain rfl : i' = i := Option.some.inj (same.symm.trans init)
  refine ⟨⟨i', init, alive, pool, (parent i').trans root⟩,
    fun {x} live kind orphan dead => inv.root live kind ((parent x).symm.trans orphan) (zombie dead),
    fun {x q} linked => ?_, fun {x x' q q'} linked linked' same => ?_, fun {u} alive pool other kept => ?_⟩
  · have names {x q : Addr} (before : k.place x = .linked (.children q)) : ∃ u, k.store.pcb_ptr x = some u ∧
        k.Live c u ∧ u.pool = .pcb ∧ ((k.reparent r i' e p).store.pcb u).parent ≠ none ∧ gone ≠ some u := by
      obtain ⟨u, same, live, kind, other, kept⟩ := (inv.entry before).1
      exact ⟨u, same, live, kind, parent u ▸ other, kept⟩
    rcases children.mp linked with ⟨rfl, rfl⟩ | ⟨-, before⟩
    · exact ⟨names entry, alive, pool, fun h => inv.root alive pool root (zombie h)⟩
    · obtain ⟨-, owner, kind, there⟩ := inv.entry before
      exact ⟨names before, owner, kind, fun h => there (zombie h)⟩
  · have old {x q : Addr} (linked : (k.reparent r i' e p).place x = .linked (.children q)) :
        ∃ q, k.place x = .linked (.children q) := by
      rcases children.mp linked with ⟨rfl, rfl⟩ | ⟨-, before⟩
      · exact ⟨r, entry⟩
      · exact ⟨q, before⟩
    obtain ⟨_, before⟩ := old linked
    obtain ⟨_, before'⟩ := old linked'
    exact inv.unique before before' same
  · obtain ⟨x, q, linked, same⟩ := inv.child alive pool (parent u ▸ other) kept
    -- only the entry that is moved changes its list
    by_cases moved : x = e
    · exact ⟨x, i', children.mpr (.inl ⟨moved, rfl⟩), same⟩
    · exact ⟨x, q, children.mpr (.inr ⟨moved, linked⟩), same⟩

theorem bury {r q : Addr} (inv : Tree c gone k) (sound : k.Sound c)
    (unlinked : k.place r = .unlinked) (created : (k.store.pcb r).parent ≠ none)
    (childless : k.seq (.children r) = []) : Tree c gone (k.bury r q) := by
  have children {x u : Addr} : (k.bury r q).place x = .linked (.children u) ↔
      k.place x = .linked (.children u) := by
    simp [Scene.bury, Function.update_apply]
    grind
  have zombie {x : Addr} (there : (k.bury r q).place x = .linked .zombie_list) :
      x = r ∨ k.place x = .linked .zombie_list := by
    simp [Scene.bury, Function.update_apply] at there
    grind
  have parent (x : Addr) : ((k.bury r q).store.pcb x).parent = (k.store.pcb x).parent := by simp [Scene.bury]
  refine ⟨?_, fun {p} alive pool orphan dead => ?_, fun {x u} linked => ?_,
    fun {x x' u u'} linked linked' => ?_, fun {p} alive pool other kept => ?_⟩
  · obtain ⟨i, same, alive, pool, root⟩ := inv.init
    exact ⟨i, same, alive, pool, (parent i).trans root⟩
  · rw [parent] at orphan
    rcases zombie dead with rfl | before
    · exact created orphan
    · exact inv.root alive pool orphan before
  · obtain ⟨⟨v, same, alive, pool, other, kept⟩, owner, kind, there⟩ := inv.entry (children.mp linked)
    refine ⟨⟨v, same, alive, pool, parent v ▸ other, kept⟩, owner, kind, fun h => ?_⟩
    rcases zombie h with rfl | h
    · have member := sound.mem_seq.mpr (children.mp linked)
      simp [childless] at member
    · exact there h
  · exact inv.unique (children.mp linked) (children.mp linked')
  · obtain ⟨x, u, linked, same⟩ := inv.child alive pool (parent p ▸ other) kept
    exact ⟨x, u, children.mpr linked, same⟩

theorem resumeParent {r q e : Addr} (inv : Tree c none k)
    (entry : k.place e = .linked (.children q)) (names : k.store.pcb_ptr e = some r)
    (waiting : k.place q = .linked .waiting_list) : Tree c (some r) (k.resumeParent r q e) := by
  refine inv.unlink entry names (fun {x u} => ?_) (by simp [Scene.resumeParent])
    Scene.live_resumeParent (fun {p} => ?_) (fun p => by simp [Scene.resumeParent])
    (by simp [Scene.resumeParent])
  · simp [Scene.resumeParent, Function.update_apply]
    grind
  · simp [Scene.resumeParent, Function.update_apply]
    grind

theorem vanish {r q : Addr} (inv : Tree c (some r) k) (sound : k.Sound c)
    (zombie : k.place r = .linked .zombie_list) : Tree c none (k.vanish r q) := by
  refine inv.forget zombie (fun {x u} => ?_) rfl (fun _ => Scene.live_vanish (sound.kind zombie))
    (fun {p} => ?_) (fun _ => rfl) rfl
  · simp [Scene.vanish, Function.update_apply]
    grind
  · simp [Scene.vanish, Function.update_apply]
    grind

end Tree

end DisastrOS
