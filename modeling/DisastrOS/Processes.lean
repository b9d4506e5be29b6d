import DisastrOS.Frame

/-! Every allocated process is at work or in one of three lists. -/

set_option autoImplicit false

namespace DisastrOS

open Refinement

variable {c : Config} {k : Scene} {runner : Pointer}

/-! ## What the moves leave allocated -/

theorem Scene.live_newChild (sound : k.Sound c) {r p e x : Addr}
    (pcb : (k.free .pcb).head? = some p) (pool : x.pool = .pcb) :
    (k.newChild r p e).Live c x ↔ x = p ∨ k.Live c x :=
  (Shape.live_alloc_of_ne (by simp [pool])).trans (sound.live_alloc pcb)

theorem Scene.live_restart (sound : k.Sound c) {p x : Addr} (pcb : (k.free .pcb).head? = some p) :
    (k.restart p).Live c x ↔ x = p ∨ k.Live c x :=
  sound.live_alloc pcb

theorem Scene.live_reap {r e z x : Addr} {result : Int} (zombie : z.pool = .pcb)
    (pool : x.pool = .pcb) : (k.reap r e z result).Live c x ↔ x ≠ z ∧ k.Live c x := by
  have kept : ((k.detach (.children r) e).release .pcb_ptr e).Live c x ↔ k.Live c x :=
    Shape.live_release_of_ne (by simp [pool])
  refine (Shape.live_release (L := layout c) zombie).trans (and_congr_right fun _ => ?_)
  simpa [Scene.Live] using kept

theorem Scene.live_resumeParent {r q e x : Addr} :
    (k.resumeParent r q e).Live c x ↔ k.Live c x := by
  simp [Scene.Live, Scene.resumeParent]

theorem Scene.live_vanish {r q x : Addr} (pcb : r.pool = .pcb) :
    (k.vanish r q).Live c x ↔ x ≠ r ∧ k.Live c x :=
  Shape.live_release (L := layout c) (s := (k.detach .zombie_list r).toShape) pcb

namespace Processes

theorem unlinked (inv : Processes c runner k) {r : Addr} (runs : runner = some r) :
    k.place r = .unlinked ∧ (k.status r = .Running ∨ k.status r = .Ready) := by
  have stands := inv.stands (inv.runs runs).1 (inv.runs runs).2
  simp only [Scene.Stands] at stands
  tauto

theorem congr {k' : Scene} (inv : Processes c runner k)
    (place : ∀ {p}, p.pool = .pcb → k'.place p = k.place p)
    (live : ∀ {p}, p.pool = .pcb → (k'.Live c p ↔ k.Live c p))
    (status : ∀ p, k'.status p = k.status p)
    (kinded : ∀ {p}, k.place p = .linked .waiting_list → p.pool = .pcb) : Processes c runner k' where
  runs runs := ⟨(live (inv.runs runs).2).mpr (inv.runs runs).1, (inv.runs runs).2⟩
  stands {p} alive pool := by
    have stands := inv.stands ((live pool).mp alive) pool
    simpa only [Scene.Stands, place pool, status] using stands
  waits {p} waiting := by
    have waits := inv.waits ((status p).symm.trans waiting)
    rw [place (kinded waits), waits]

theorem frame {touched : List Pool} {k' : Scene} (inv : Processes c runner k)
    (frame : Scene.Frame touched k k') (sound : k.Sound c) (other : .pcb ∉ touched) :
    Processes c runner k' :=
  inv.congr (fun pool => frame.place (pool ▸ other)) (fun pool => frame.live (pool ▸ other))
    (frame.status other) sound.kind

theorem block {r : Addr} (inv : Processes c (some r) k) : Processes c none (k.block r) where
  runs runs := by cases runs
  stands {p} live pool := by
    have stands := inv.stands (p := p) live pool
    simp [Scene.Stands, Scene.block, Scene.status, Function.update_apply] at *
    grind
  waits {p} := by
    have waits := inv.waits (p := p)
    simp [Scene.block, Scene.status, Function.update_apply] at *
    grind

theorem dispatch {n : Addr} (inv : Processes c none k) (sound : k.Sound c)
    (ready : k.place n = .linked .ready_list) {status : ProcessStatus → ProcessStatus}
    (runs : status .Ready = .Running ∨ status .Ready = .Ready) :
    Processes c (some n) (k.dispatch n status) where
  runs {r} same := by
    cases same
    exact ⟨sound.live ready, sound.kind ready⟩
  stands {p} live pool := by
    have stands := inv.stands (p := p) live pool
    simp [Scene.Stands, Scene.dispatch, Scene.status, Function.update_apply] at *
    grind
  waits {p} := by
    have waits := inv.waits (p := p)
    have stands := inv.stands (sound.live ready) (sound.kind ready)
    simp [Scene.Stands, Scene.dispatch, Scene.status, Function.update_apply] at *
    grind

theorem wakeSleeper {prev : Pointer} {t p : Addr} (inv : Processes c runner k) (sound : k.Sound c)
    (timer : t.pool = .timer_item) (waiting : k.place p = .linked .waiting_list) :
    Processes c runner (k.wakeSleeper prev t p) := by
  have live {q : Addr} (pool : q.pool = .pcb) :
      (k.wakeSleeper prev t p).Live c q ↔ k.Live c q := Shape.live_release_of_ne (by simp [pool])
  have kind := sound.kind waiting
  refine ⟨fun runs => ?_, fun {q} alive pool => ?_, fun {q} => ?_⟩
  · exact ⟨(live (inv.runs runs).2).mpr (inv.runs runs).1, (inv.runs runs).2⟩
  · have stands := inv.stands ((live pool).mp alive) pool
    simp [Scene.Stands, Scene.wakeSleeper, Scene.status, Function.update_apply] at *
    grind
  · have waits := inv.waits (p := q)
    have kinded (there : k.place q = .linked .waiting_list) := sound.kind there
    simp [Scene.wakeSleeper, Scene.status, Function.update_apply] at *
    grind [Head.kind]

theorem rotate {r n : Addr} (inv : Processes c (some r) k) (sound : k.Sound c)
    (ready : k.place n = .linked .ready_list) : Processes c (some n) (k.rotate r n) where
  runs {x} same := by
    cases same
    exact ⟨sound.live ready, sound.kind ready⟩
  stands {p} live pool := by
    have stands := inv.stands (p := p) live pool
    simp [Scene.Stands, Scene.rotate, Scene.status, Function.update_apply] at *
    grind
  waits {p} := by
    have waits := inv.waits (p := p)
    have unlinked := inv.unlinked rfl
    simp [Scene.rotate, Scene.status, Function.update_apply] at *
    grind

theorem newChild {r p e : Addr} (inv : Processes c runner k) (sound : k.Sound c)
    (pcb : (k.free .pcb).head? = some p) (ptr : (k.free .pcb_ptr).head? = some e) :
    Processes c runner (k.newChild r p e) := by
  have fresh := sound.top pcb
  have wrapper := sound.top ptr
  have live {x : Addr} (pool : x.pool = .pcb) := Scene.live_newChild (r := r) (e := e) sound pcb pool
  refine ⟨fun runs => ?_, fun {x} alive pool => ?_, fun {x} => ?_⟩
  · exact ⟨(live (inv.runs runs).2).mpr (.inr (inv.runs runs).1), (inv.runs runs).2⟩
  · have stands := inv.stands (p := x)
    have runs := inv.runs (r := p)
    rw [live pool] at alive
    simp [Scene.Stands, Scene.newChild, Scene.status, Function.update_apply, Shape.place_reset] at *
    grind
  · have waits := inv.waits (p := x)
    have kinded (there : k.place x = .linked .waiting_list) := sound.kind there
    simp [Scene.newChild, Scene.status, Function.update_apply, Shape.place_reset] at *
    grind [Head.kind]

theorem restart {p : Addr} (inv : Processes c none k) (sound : k.Sound c)
    (pcb : (k.free .pcb).head? = some p) : Processes c (some p) (k.restart p) := by
  have fresh := sound.top pcb
  have live {x : Addr} := Scene.live_restart (x := x) sound pcb
  refine ⟨fun {x} runs => ?_, fun {x} alive pool => ?_, fun {x} => ?_⟩
  · cases runs
    exact ⟨live.mpr (.inl rfl), fresh.1⟩
  · have stands := inv.stands (p := x)
    rw [live] at alive
    simp [Scene.Stands, Scene.restart, Scene.status, Shape.place_reset] at *
    grind
  · have waits := inv.waits (p := x)
    simp [Scene.restart, Scene.status, Shape.place_reset] at *
    grind

theorem reap {r e z : Addr} {result : Int} (inv : Processes c runner k) (sound : k.Sound c)
    (entry : k.place e = .linked (.children r)) (zombie : k.place z = .linked .zombie_list) :
    Processes c runner (k.reap r e z result) := by
  have kind := sound.kind zombie
  have wrapper := sound.kind entry
  have live {x : Addr} (pool : x.pool = .pcb) :
      (k.reap r e z result).Live c x ↔ x ≠ z ∧ k.Live c x := Scene.live_reap kind pool
  have stood := inv.stands (sound.live zombie) kind
  refine ⟨fun {x} runs => ?_, fun {x} alive pool => ?_, fun {x} => ?_⟩
  · have unlinked := (inv.unlinked runs).1
    refine ⟨(live (inv.runs runs).2).mpr ⟨?_, (inv.runs runs).1⟩, (inv.runs runs).2⟩
    rintro rfl
    simp [zombie] at unlinked
  · have stands := inv.stands (p := x)
    rw [live pool] at alive
    simp [Scene.Stands, Scene.reap, Scene.status, Function.update_apply] at *
    grind [Head.kind]
  · have waits := inv.waits (p := x)
    have kinded (there : k.place x = .linked .waiting_list) := sound.kind there
    simp [Scene.Stands, Scene.reap, Scene.status, Function.update_apply] at *
    grind [Head.kind]

theorem bury {r q : Addr} (inv : Processes c (some r) k) : Processes c none (k.bury r q) where
  runs runs := by cases runs
  stands {p} live pool := by
    have stands := inv.stands (p := p) live pool
    simp [Scene.Stands, Scene.bury, Scene.status, Function.update_apply] at *
    grind
  waits {p} := by
    have waits := inv.waits (p := p)
    simp [Scene.bury, Scene.status, Function.update_apply] at *
    grind

theorem resumeParent {r q e : Addr} (inv : Processes c none k) (sound : k.Sound c)
    (waiting : k.place q = .linked .waiting_list) (entry : k.place e = .linked (.children q)) :
    Processes c (some q) (k.resumeParent r q e) where
  runs {x} same := by
    cases same
    exact ⟨Scene.live_resumeParent.mpr (sound.live waiting), sound.kind waiting⟩
  stands {p} live pool := by
    have stands := inv.stands (p := p) (Scene.live_resumeParent.mp live) pool
    have wrapper := sound.kind entry
    simp [Scene.Stands, Scene.resumeParent, Scene.status, Function.update_apply] at *
    grind [Head.kind]
  waits {p} := by
    have waits := inv.waits (p := p)
    have wrapper := sound.kind entry
    have kinded (there : k.place p = .linked .waiting_list) := sound.kind there
    simp [Scene.resumeParent, Scene.status, Function.update_apply] at *
    grind [Head.kind]

theorem vanish {r q : Addr} (inv : Processes c (some q) k) (sound : k.Sound c)
    (zombie : k.place r = .linked .zombie_list) : Processes c (some q) (k.vanish r q) := by
  have kind := sound.kind zombie
  have live {x : Addr} := Scene.live_vanish (c := c) (k := k) (q := q) (x := x) kind
  have stood := inv.stands (sound.live zombie) kind
  refine ⟨fun {x} runs => ?_, fun {x} alive pool => ?_, fun {x} => ?_⟩
  · have unlinked := (inv.unlinked runs).1
    refine ⟨live.mpr ⟨?_, (inv.runs runs).1⟩, (inv.runs runs).2⟩
    rintro rfl
    simp [zombie] at unlinked
  · have stands := inv.stands (p := x)
    rw [live] at alive
    simp [Scene.Stands, Scene.vanish, Scene.status, Function.update_apply] at *
    grind
  · have waits := inv.waits (p := x)
    simp [Scene.Stands, Scene.vanish, Scene.status, Function.update_apply] at *
    grind

theorem wakeWaiter {waiting : Head} {w p : Addr} (inv : Processes c runner k) (sound : k.Sound c)
    (wrapper : w.pool = .pcb_ptr) (blocked : k.place p = .linked .waiting_list) :
    Processes c runner (k.wakeWaiter waiting w p) where
  runs := inv.runs
  stands {x} live pool := by
    have stands := inv.stands (p := x) live pool
    have kind := sound.kind blocked
    simp [Scene.Stands, Scene.wakeWaiter, Scene.status, Function.update_apply] at *
    grind
  waits {x} := by
    have waits := inv.waits (p := x)
    have kinded (there : k.place x = .linked .waiting_list) := sound.kind there
    simp [Scene.wakeWaiter, Scene.status, Function.update_apply] at *
    grind [Head.kind]

end Processes

end DisastrOS
