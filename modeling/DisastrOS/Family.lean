import DisastrOS.Scheduling

/-! The code of `fork`, `spawn`, `wait` and `exit` has the outcomes listed for them. -/

set_option autoImplicit false

namespace DisastrOS

open Refinement
open Relation (ReflTransGen)

theorem Store.setPCB_setPCB (s : Store) (p : Addr) (f g : PCB → PCB) :
    (s.setPCB p f).setPCB p g = s.setPCB p (g ∘ f) := by
  simp [Store.setPCB]

section
variable {c : Config} {fuel : Nat} {k : Scene} {r : Addr}

theorem new_child_meets {prepare : Addr → Code Unit} {finish : Addr → Scene → Scene}
    (inv : Coherent c (some r) none k) (runs : k.store.running = some r)
    (prepares : ∀ {p e}, (k.free .pcb).head? = some p →
      (k.newChild r p e).wp c fuel (prepare p) (fun _ k' => k' = finish p (k.newChild r p e))
        fun _ => False) : k.Meets c fuel (new_child prepare) (NewChild finish r k) := by
  have sound := inv.sound
  obtain ⟨alive, pool⟩ := inv.processes.runs rfl
  have unlinked := inv.processes.not_waiting rfl
  cases pcb : (k.free .pcb).head? with
  | none =>
    have full : k.free .pcb = [] := List.head?_eq_none_iff.mp pcb
    simp [Scene.Meets, sound, new_child, PCB_alloc, pcb]
    exact .noPCB full
  | some p =>
    have fresh := sound.top pcb
    -- `PCB_alloc` counts the pid up before `PCBPtr_alloc` is called
    by_cases spent : k.store.last_pid = INT_MAX
    · simp [Scene.Meets, sound, new_child, PCB_alloc, pcb, spent]
      exact ⟨fresh.2.1, .overflow pcb spent⟩
    have other : r ≠ p := by
      rintro rfl
      exact fresh.2.2 alive
    cases ptr : (k.free .pcb_ptr).head? with
    | none =>
      have full : k.free .pcb_ptr = [] := List.head?_eq_none_iff.mp ptr
      simp [Scene.Meets, sound, new_child, PCB_alloc, PCBPtr_alloc, pcb, ptr, spent, Scene.wp_self, runs]
      exact ⟨fresh.2.1, .noPCBPtr pcb spent full⟩
    | some e =>
      have wrapper := sound.top ptr
      have ptr' : ((k.alloc .pcb).free .pcb_ptr).head? = some e := by simpa using ptr
      have differs : p ≠ e := by
        rintro rfl
        cases fresh.1.symm.trans wrapper.1
      have liveEntry := (Scene.live_alloc sound.alloc ptr').mpr (.inl rfl)
      have liveChild := (Scene.live_alloc sound.alloc ptr').mpr
        (.inr ((Scene.live_alloc sound pcb).mpr (.inl rfl)))
      simp [Scene.Meets, sound, new_child, PCB_alloc, PCBPtr_alloc, pcb, ptr, spent,
        Scene.wp_self, runs, Scene.wp_setRetvalue, fresh.2.1, wrapper.2.1, differs]
      refine ⟨⟨liveEntry, wrapper.1⟩, fun _ => ⟨⟨liveChild, fresh.1⟩, ?_⟩⟩
      refine fun _ => ?_
      have ends : (k.newChild r p e).wp c fuel (prepare p)
          (fun _ k' => NewChild finish r k (.done () k'))
          fun stop => NewChild finish r k (Ending.abnormal stop) :=
        Scene.wp_mono (prepares pcb) (fun _ k' _ last => last ▸ .child pcb spent ptr)
          fun _ => False.elim
      -- the code writes the record of the caller twice, the scene once
      convert ends using 1
      simp [Scene.newChild, Scene.answer, Scene.update, Scene.setPCB, Scene.alloc, Scene.reset,
        Scene.append, Store.setPCB]
      rfl

theorem internal_fork_meets (inv : Coherent c (some r) none k) (runs : k.store.running = some r) :
    k.Meets c fuel internal_fork (Fork r k) :=
  new_child_meets inv runs fun _ => by simp

theorem internal_spawn_meets (inv : Coherent c (some r) none k)
    (runs : k.store.running = some r) : k.Meets c fuel internal_spawn (Spawn r k) := by
  apply new_child_meets inv runs
  intro p e pcb
  have still : (k.newChild r p e).store.running = some r := by simpa [Scene.newChild] using runs
  have args (i : Nat) : (k.newChild r p e).arg r i = k.arg r i := by simp [Scene.arg, Scene.newChild]
  simp [Scene.wp_syscall_arg still, args]

@[simp] theorem Scene.wp_storeResult {Q : Unit → Scene → Prop} {E : Option Stop → Prop}
    {result value : Int} : k.wp c fuel (storeResult result value) Q E ↔
      (k.Sound c → Q () (k.report result value)) := by
  unfold storeResult Scene.report
  split <;> simp

def Scene.named (k : Scene) (e : Addr) : Option (Addr × Addr) := (k.store.pcb_ptr e).map (e, ·)

theorem wp_wait_scan {Q : Option (Addr × Addr) → Scene → Prop} {E : Option Stop → Prop}
    {pid_to_wait : Int} (inv : Coherent c (some r) none k) (enough : (blocks c).card < fuel)
    (holds : Q ((k.awaited r pid_to_wait).bind k.named) k) :
    k.wp c fuel (wait_scan r pid_to_wait) Q E := by
  simp only [wait_scan, Scene.wp_bind, Scene.wp_first, Scene.sound_wp]
  refine Scene.wp_scan (fun e => k.answers pid_to_wait e = false) enough
    (fun seen rest => (rest.head?, seen.getLast?.bind k.named)) (fun seen whole skipped => ?_)
    fun seen e rest split skipped => ?_
  · have last : k.awaited r pid_to_wait = seen.getLast? := by
      have absent : (k.seq (.children r)).find? (k.answers pid_to_wait) = none := by
        rw [← whole, List.find?_eq_none]
        exact fun y member => by simp [skipped y member]
      rw [Scene.awaited, absent, Option.none_or, whole]
    simpa [← last] using fun _ => holds
  · apply Scene.sound_wp.mp
    intro sound
    have linked := Scene.linked_seen sound split
    obtain ⟨⟨z, names, -⟩, -⟩ := inv.tree.entry linked
    by_cases found : k.answers pid_to_wait e = true
    · have absent : seen.find? (k.answers pid_to_wait) = none := by
        rw [List.find?_eq_none]
        exact fun y member => by simp [skipped y member]
      have here : k.awaited r pid_to_wait = some e := by
        simp [Scene.awaited, ← split, absent, found]
      have passes := found
      simp only [Scene.answers, names, decide_eq_true_eq] at passes
      rw [here] at holds
      simpa [names, passes, Scene.named] using fun _ => holds
    · have fails := found
      simp only [Scene.answers, names, decide_eq_true_eq] at fails
      simp [names, fails, Scene.wp_next linked, Scene.after_seen sound split, Scene.named, found]

theorem awaited_some (inv : Coherent c (some r) none k) {pid_to_wait : Int}
    (children : k.seq (.children r) ≠ []) :
    ∃ e z, k.awaited r pid_to_wait = some e ∧ k.place e = .linked (.children r) ∧
      k.store.pcb_ptr e = some z ∧ k.Live c z ∧ z.pool = .pcb := by
  obtain ⟨e, found⟩ : ∃ e, k.awaited r pid_to_wait = some e := by
    rw [← Option.isSome_iff_exists, Scene.awaited, Option.isSome_or]
    simp [children]
  have member : e ∈ k.seq (.children r) := by
    rw [Scene.awaited, Option.or_eq_some_iff] at found
    rcases found with found | ⟨-, last⟩
    · exact List.mem_of_find?_eq_some found
    · exact List.mem_of_getLast? last
  have linked := inv.sound.mem_seq.mp member
  obtain ⟨⟨z, names, alive, pool, -⟩, -⟩ := inv.tree.entry linked
  exact ⟨e, z, found, linked, names, alive, pool⟩

theorem internal_wait_meets (inv : Coherent c (some r) none k) (runs : k.store.running = some r)
    (enough : (blocks c).card < fuel) : k.Meets c fuel internal_wait (Wait r k) := by
  have sound := inv.sound
  obtain ⟨alive, pool⟩ := inv.processes.runs rfl
  have unlinked := inv.processes.not_waiting rfl
  by_cases childless : k.seq (.children r) = []
  · simp [Scene.Meets, internal_wait, Scene.wp_self runs, Scene.wp_syscall_arg runs, sound,
      Scene.wp_setRetvalue runs, childless]
    exact .childless childless
  simp [Scene.Meets, internal_wait, Scene.wp_self runs, Scene.wp_syscall_arg runs, sound, childless]
  refine wp_wait_scan inv enough ?_
  obtain ⟨e, z, found, linked, names, live, kind⟩ := awaited_some inv childless
  have awaited : (k.awaited r (int32 (k.arg r 0))).bind k.named = some (e, z) := by
    have found' : k.awaited r (int32 (k.arg r 0)) = some e := found
    simp [found', Scene.named, names]
  rw [awaited]
  by_cases zombie : (k.store.pcb z).status = .Zombie
  · have there := inv.processes.zombie live kind zombie
    have wrapper := sound.kind linked
    have other : z ≠ e := by
      rintro rfl
      cases linked.symm.trans there
    have chosen : Option.filter (fun x => decide ((k.store.pcb x.2).status = .Zombie))
        (some (e, z)) = some (e, z) := by simp [zombie]
    -- freeing the wrapper leaves the zombie allocated
    have alive' : ((k.detach (.children r) e).release .pcb_ptr e).Live c z :=
      (Scene.live_release_of_ne (by simp [kind])).mpr live
    rw [chosen]
    simp [PCBPtr_free, PCB_free, other]
    refine fun _ => ⟨linked, fun _ => ⟨⟨sound.live linked, wrapper⟩, fun _ => ⟨there, ?_⟩⟩⟩
    rw [Scene.wp_setRetvalue (by simpa using runs)]
    simp
    refine fun _ => ⟨⟨?_, kind⟩, fun _ => .reaps found names zombie⟩
    simpa only [Scene.Live, Scene.toShape_report, Scene.toShape_answer, Scene.toShape_detach,
      Shape.live_detach] using alive'
  · have chosen : Option.filter (fun x => decide ((k.store.pcb x.2).status = .Zombie))
        (some (e, z)) = none := by simp [zombie]
    rw [chosen]
    -- the child lives, so somebody else has to run
    cases ready : (k.seq .ready_list).head? with
    | none =>
      have idle : k.seq .ready_list = [] := List.head?_eq_none_iff.mp ready
      simp [run_next, idle]
      exact fun _ => ⟨⟨alive, pool, unlinked⟩, fun _ => .stuck found names zombie idle⟩
    | some n =>
      have next := sound.first ready
      have awake : n ≠ r := by
        rintro rfl
        cases unlinked.symm.trans next
      simp [run_next, ready, awake]
      exact fun _ => ⟨⟨alive, pool, unlinked⟩, fun _ => ⟨next, fun _ =>
        .blocks found names zombie ready⟩⟩

end

end DisastrOS
