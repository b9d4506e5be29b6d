import DisastrOS.Fifo
import DisastrOS.Opening

/-! What each system call leaves alone.

A call works on the lists and pools it is about, on the PCB of its caller and on
the memory its arguments name. The rest of the kernel is as before, whatever
else is going on.
-/

set_option autoImplicit false

namespace DisastrOS

open Refinement
open Relation (ReflTransGen)

/-- What of a PCB is left to the process itself: all but its place in the lists, its signals and its answer. -/
def PCB.own (p : PCB) : Int × Int × BitVec 32 × Pointer × Context × Int × Int × (Nat → Int) :=
  (p.pid, p.return_value, p.signals_mask, p.parent, p.cpu_state, p.last_fd, p.syscall_num, p.syscall_args)

section Own
variable (s : Store) (p q : Addr) (f : PCB → PCB)

@[simp] theorem Store.signals_mask_setPCB :
    ((s.setPCB p f).pcb q).signals_mask = if q = p then (f (s.pcb p)).signals_mask else (s.pcb q).signals_mask :=
  s.field_setPCB p q f (·.signals_mask)

@[simp high] theorem Store.signals_mask_setPCB_of_same (same : ∀ u, (f u).signals_mask = u.signals_mask) :
    ((s.setPCB p f).pcb q).signals_mask = (s.pcb q).signals_mask :=
  s.field_setPCB_of_same p q f (·.signals_mask) same

end Own

/-- Only the lists in `F`, the pools in `ps`, the memory in `M` and what is of the processes in `R` have changed. -/
structure Scene.Within (F : Head → Prop) (ps : List Pool) (M : Int → Prop) (R : Addr → Prop) (k k' : Scene) : Prop where
  lists : ∀ h, ¬ F h → k'.seq h = k.seq h
  pools : ∀ p, p ∉ ps → k'.free p = k.free p
  memory : ∀ a, ¬ M a → k'.store.memory a = k.store.memory a
  own : ∀ p, ¬ R p → (k'.store.pcb p).own = (k.store.pcb p).own

namespace Scene.Within
variable {F F' : Head → Prop} {ps ps' : List Pool} {M M' : Int → Prop} {R R' : Addr → Prop} {k k' k'' : Scene}

theorem refl : Within F ps M R k k := ⟨fun _ _ => rfl, fun _ _ => rfl, fun _ _ => rfl, fun _ _ => rfl⟩

theorem trans (first : Within F ps M R k k') (second : Within F ps M R k' k'') : Within F ps M R k k'' where
  lists h out := (second.lists h out).trans (first.lists h out)
  pools p out := (second.pools p out).trans (first.pools p out)
  memory a out := (second.memory a out).trans (first.memory a out)
  own p out := (second.own p out).trans (first.own p out)

theorem mono (within : Within F ps M R k k') (heads : ∀ h, F h → F' h) (pools : ps ⊆ ps') (memory : ∀ a, M a → M' a)
    (processes : ∀ p, R p → R' p) : Within F' ps' M' R' k k' where
  lists h out := within.lists h fun here => out (heads h here)
  pools p out := within.pools p fun here => out (pools here)
  memory a out := within.memory a fun here => out (memory a here)
  own p out := within.own p fun here => out (processes p here)

theorem rounds {α : Type} {step : α → α → Prop} {s s' : α} (scene : α → Scene) (rounds : ReflTransGen step s s')
    (round : ∀ {s s'}, step s s' → Within F ps M R (scene s) (scene s')) : Within F ps M R (scene s) (scene s') := by
  induction rounds with
  | refl => exact refl
  | tail _ last ih => exact ih.trans (round last)

end Scene.Within

/-! ## The handlers -/

section
variable {c : Config} {k k' j : Scene} {r q : Addr}

/-- Nothing in memory, and of the processes only the caller. -/
abbrev Scene.Quiet (F : Head → Prop) (ps : List Pool) (r : Addr) (k k' : Scene) : Prop :=
  Within F ps (fun _ => False) (· = r) k k'

theorem Scene.Within.answer {F : Head → Prop} {ps : List Pool} {M : Int → Prop} {value : Int} :
    Scene.Within F ps M (· = r) k (k.answer r value) where
  lists _ _ := rfl
  pools _ _ := rfl
  memory _ _ := rfl
  own p _ := by simp [PCB.own]

theorem Schedule.within (schedules : Schedule r k (.done () k')) :
    Scene.Quiet (fun h => h = .ready_list ∨ h = .waiting_list ∨ h = .timer_list) [.timer_item] r k k' := by
  have wakes {j : Scene} (wakes : Wakes k j) :
      Scene.Quiet (fun h => h = .ready_list ∨ h = .waiting_list ∨ h = .timer_list) [.timer_item] r k j := by
    obtain ⟨⟨prev, rounds⟩, -⟩ := wakes
    refine Scene.Within.rounds Prod.fst rounds fun round => ?_
    cases round with
    | wake timer due owner =>
      constructor
      · intro h out
        rw [not_or, not_or] at out
        simp [Scene.wakeSleeper, out]
      · intro p out
        rw [List.mem_singleton] at out
        simp [Scene.wakeSleeper, out]
      · intro a _
        rfl
      · intro p _
        simp [Scene.wakeSleeper, PCB.own]
  cases schedules with
  | alone woken idle => exact wakes woken
  | rotates woken ready =>
    refine (wakes woken).trans ⟨fun h out => ?_, fun p out => ?_, fun a _ => rfl, fun p other => ?_⟩
    · rw [not_or, not_or] at out
      simp [Scene.rotate, out]
    · simp [Scene.rotate]
    · simp [Scene.rotate, PCB.own]

theorem Sleep.within (sleeps : Sleep r k (.done () k')) :
    Scene.Quiet (fun h => h = .ready_list ∨ h = .waiting_list ∨ h = .timer_list) [.timer_item] r k k' := by
  cases sleeps with
  | refused full => exact .answer
  | dozes timer time ready | allSleep timer time idle =>
    refine ⟨fun h out => ?_, fun p out => ?_, fun a _ => rfl, fun p other => ?_⟩
    · rw [not_or, not_or] at out
      simp [Scene.dispatch, Scene.block, Scene.startTimer, out]
    · rw [List.mem_singleton] at out
      simp [Scene.dispatch, Scene.block, Scene.startTimer, out]
    · simp [Scene.dispatch, Scene.block, Scene.startTimer, PCB.own]

theorem NewChild.within {finish : Addr → Scene → Scene} (shape : ∀ p j, (finish p j).toShape = j.toShape)
    (memory : ∀ p j, (finish p j).store.memory = j.store.memory)
    (others : ∀ p p' j, p' ≠ p → (finish p j).store.pcb p' = j.store.pcb p')
    (child : NewChild finish r k (.done () k')) :
    Scene.Within (fun h => h = .ready_list ∨ h = .children r ∨ ∃ p, (k.free .pcb).head? = some p ∧ h.owner = some p)
      [.pcb, .pcb_ptr] (fun _ => False) (fun p => p = r ∨ (k.free .pcb).head? = some p) k k' := by
  cases child with
  | @child p e pcb unspent ptr =>
    refine ⟨fun h out => ?_, fun q out => ?_, fun a _ => ?_, fun q other => ?_⟩
    · rw [not_or, not_or] at out
      obtain ⟨ready, children, fresh⟩ := out
      have own : h.owner ≠ some p := fun here => fresh ⟨p, pcb, here⟩
      have lists : h ≠ .children p ∧ h ≠ .descriptors p := by
        constructor <;> rintro rfl <;> exact own rfl
      rw [shape]
      simp [Scene.newChild, ready, children, lists]
    · simp only [List.mem_cons, List.not_mem_nil, or_false, not_or] at out
      rw [shape]
      simp [Scene.newChild, out]
    · rw [memory]
      simp [Scene.newChild]
    · rw [not_or] at other
      have new : q ≠ p := by
        rintro rfl
        exact other.2 pcb
      rw [others p q _ new]
      simp [Scene.newChild, PCB.own, new]

def resultAt (result : Int) (a : Int) : Prop := result ≠ 0 ∧ result ≤ a ∧ a < result + 4

theorem memory_report {result value a : Int} (out : ¬ resultAt result a) :
    (k.report result value).store.memory a = k.store.memory a := by
  rw [Scene.store_report]
  by_cases null : result = 0
  · simp [null]
  · have outside : ¬ (result ≤ a ∧ a < result + 4) := fun here => out ⟨null, here⟩
    simp [null, storeInt, outside]

theorem Wait.within (waits : Wait r k (.done () k')) :
    Scene.Within (fun h => h = .children r ∨ h = .zombie_list ∨ h = .ready_list ∨ h = .waiting_list) [.pcb, .pcb_ptr]
      (resultAt (k.arg r 1)) (· = r) k k' := by
  cases waits with
  | childless nobody => exact .answer
  | @reaps e z found child zombie =>
    refine ⟨fun h out => ?_, fun p out => ?_, fun a out => ?_, fun p other => ?_⟩
    · simp only [not_or] at out
      simp [Scene.reap, out]
    · simp only [List.mem_cons, List.not_mem_nil, or_false, not_or] at out
      simp [Scene.reap, out]
    · simpa [Scene.reap] using memory_report (k := (((k.detach (.children r) e).release .pcb_ptr e).detach
        .zombie_list z).answer r (k.store.pcb z).pid) out
    · simp [Scene.reap, PCB.own]
  | blocks found child alive ready =>
    refine ⟨fun h out => ?_, fun p out => ?_, fun a _ => rfl, fun p other => ?_⟩
    · simp only [not_or] at out
      simp [Scene.dispatch, Scene.block, out]
    · simp [Scene.dispatch, Scene.block]
    · simp [Scene.dispatch, Scene.block, PCB.own]

def ExitLists (k : Scene) (r : Addr) (h : Head) : Prop :=
  h = .ready_list ∨ h = .waiting_list ∨ h = .zombie_list ∨ h = .descriptors r ∨ h = .children r ∨
    (∃ q, h = .children q ∧ (k.store.init_pcb = some q ∨ (k.store.pcb r).parent = some q)) ∨
    ∃ d o, d ∈ k.seq (.descriptors r) ∧ (k.store.descriptor d).mq = some o ∧ h = .descriptors_ptrs o

theorem Reparents.within {i : Addr} (reparents : Reparents r i k j) :
    Scene.Quiet (fun h => h = .children r ∨ h = .children i) [] r k j ∧ j.store.descriptor = k.store.descriptor := by
  obtain ⟨rounds, -⟩ := reparents
  induction rounds with
  | refl => exact ⟨⟨fun _ _ => rfl, fun _ _ => rfl, fun _ _ => rfl, fun p other => by simp [PCB.own, other]⟩, rfl⟩
  | tail _ round ih =>
    cases round
    refine ⟨ih.1.trans ⟨fun h out => ?_, fun p _ => ?_, fun a _ => rfl, fun p _ => ?_⟩, ih.2⟩
    · rw [not_or] at out
      simp [Scene.reparent, out]
    · simp [Scene.reparent]
    · simp [Scene.reparent, PCB.own]

theorem DropRound.within (drops : ReflTransGen (DropRound r) k j) :
    Scene.Quiet (fun h => h = .descriptors r ∨
        ∃ d o, d ∈ k.seq (.descriptors r) ∧ (k.store.descriptor d).mq = some o ∧ h = .descriptors_ptrs o)
      [.descriptor, .descriptor_ptr] r k j ∧
    (∀ d ∈ j.seq (.descriptors r), d ∈ k.seq (.descriptors r)) ∧ j.store.descriptor = k.store.descriptor := by
  induction drops with
  | refl => exact ⟨.refl, fun _ => id, rfl⟩
  | tail _ round ih =>
    obtain ⟨within, left, same⟩ := ih
    cases round with
    | @drop d q e first mq ptr =>
      have open_ := left d (List.mem_of_mem_head? first)
      refine ⟨within.trans ⟨fun h out => ?_, fun p out => ?_, fun a _ => rfl, fun p _ => ?_⟩, fun d' there => ?_, same⟩
      · rw [not_or] at out
        have other : h ≠ .descriptors_ptrs q := fun here => out.2 ⟨d, q, open_, same ▸ mq, here⟩
        simp [Scene.dropDescriptor, out.1, other]
      · simp only [List.mem_cons, List.not_mem_nil, or_false, not_or] at out
        simp [Scene.dropDescriptor, out]
      · rfl
      · simp [Scene.dropDescriptor] at there
        exact left d' (List.mem_of_mem_erase there)

def ExitMemory (k : Scene) (r : Addr) (a : Int) : Prop :=
  ∃ q, (k.store.pcb r).parent = some q ∧ k.AwaitsDeath q (k.store.pcb r).pid ∧
    resultAt ((k.store.pcb q).syscall_args 1) a

theorem Exit.within (inv : Coherent c (some r) none k) (exits : Exit r k (.done () k')) :
    Scene.Within (ExitLists k r) [.pcb, .descriptor, .descriptor_ptr] (ExitMemory k r) (· = r) k k' := by
  have given {i : Addr} {j : Scene} (init : k.store.init_pcb = some i) (reparents : Reparents r i k j) :
      Scene.Within (ExitLists k r) [.pcb, .descriptor, .descriptor_ptr] (ExitMemory k r) (· = r) k j := by
    refine reparents.within.1.mono (fun h here => ?_) (by simp) (fun _ => False.elim) fun _ => id
    rcases here with rfl | rfl
    · exact .inr (.inr (.inr (.inr (.inl rfl))))
    · exact .inr (.inr (.inr (.inr (.inr (.inl ⟨i, rfl, .inl init⟩)))))
  cases exits with
  | @buried i q n j init reparents parent unawaited ready =>
    refine (given init reparents).trans ⟨fun h out => ?_, fun p _ => ?_, fun a _ => rfl, fun p other => ?_⟩
    · simp only [ExitLists, not_or] at out
      simp [Scene.dispatch, Scene.bury, out]
    · simp [Scene.dispatch, Scene.bury]
    · simp [Scene.dispatch, Scene.bury, PCB.own]
  | @resumes i q e j j' init reparents parent awaited entry drops closed =>
    obtain ⟨inv', frame⟩ := reparents.coherent inv init
    have asked : k.AwaitsDeath q (k.store.pcb r).pid := AwaitsDeath.before frame (by simp) awaited
    obtain ⟨dropped, -, -⟩ := DropRound.within drops
    -- the lists of the objects are told by the descriptors as they were before the call
    have descriptors : ((j.bury r q).resumeParent r q e).seq (.descriptors r) = k.seq (.descriptors r) := by
      have before := reparents.within.1.lists (.descriptors r) (by simp)
      simpa [Scene.resumeParent, Scene.bury] using before
    have names : ((j.bury r q).resumeParent r q e).store.descriptor = k.store.descriptor := by
      simpa [Scene.resumeParent, Scene.bury] using reparents.within.2
    have resumed : Scene.Within (ExitLists k r) [.pcb, .descriptor, .descriptor_ptr] (ExitMemory k r) (· = r) j
        ((j.bury r q).resumeParent r q e) := by
      refine ⟨fun h out => ?_, fun p _ => ?_, fun a out => ?_, fun p _ => ?_⟩
      · simp only [ExitLists, not_or] at out
        have other : h ≠ .children q := fun here => out.2.2.2.2.2.1 ⟨q, here, .inr parent⟩
        simp [Scene.resumeParent, Scene.bury, out, other]
      · simp [Scene.resumeParent, Scene.bury]
      -- the buried process is another, so the argument of the parent is untouched
      · have result : ((j.bury r q).store.pcb q).syscall_args 1 = (k.store.pcb q).syscall_args 1 := by
          rw [← frame.args q]
          simp [Scene.bury]
        have elsewhere : ¬ resultAt (((j.bury r q).store.pcb q).syscall_args 1) a := by
          rw [result]
          exact fun here => out ⟨q, parent, asked, here⟩
        exact memory_report elsewhere
      · simp [Scene.resumeParent, Scene.bury, PCB.own]
    have closed : Scene.Within (ExitLists k r) [.pcb, .descriptor, .descriptor_ptr] (ExitMemory k r) (· = r)
        ((j.bury r q).resumeParent r q e) j' := by
      refine dropped.mono (fun h here => ?_) (by simp) (fun _ => False.elim) fun _ => id
      rw [descriptors, names] at here
      rcases here with rfl | ⟨d, o, open_, of, rfl⟩
      · exact .inr (.inr (.inr (.inl rfl)))
      · exact .inr (.inr (.inr (.inr (.inr (.inr ⟨d, o, open_, of, rfl⟩)))))
    refine (((given init reparents).trans resumed).trans closed).trans
      ⟨fun h out => ?_, fun p out => ?_, fun a _ => rfl, fun p _ => rfl⟩
    · simp only [ExitLists, not_or] at out
      simp [Scene.vanish, out]
    · simp only [List.mem_cons, List.not_mem_nil, or_false, not_or] at out
      simp [Scene.vanish, out]

theorem OpenDescriptor.within {o : Addr} {resource mq : Pointer}
    (opens : OpenDescriptor r o resource mq k (.done () k')) :
    Scene.Quiet (fun h => h = .descriptors r ∨ h = .descriptors_ptrs o) [.descriptor, .descriptor_ptr] r k k' := by
  cases opens with
  | refused full => exact .answer
  | opened des unspent ptr =>
    refine ⟨fun h out => ?_, fun p out => ?_, fun a _ => rfl, fun p other => ?_⟩
    · rw [not_or] at out
      simp [Scene.openDescriptor, out]
    · simp only [List.mem_cons, List.not_mem_nil, or_false, not_or] at out
      simp [Scene.openDescriptor, out]
    · simp [Scene.openDescriptor, PCB.own, other]

def OpenLists (global : Head) (object : Pool) (found : Pointer) (k : Scene) (r : Addr) (h : Head) : Prop :=
  h = .descriptors r ∨ h = global ∨ (∃ o, found = some o ∧ h = .descriptors_ptrs o) ∨
    ∃ o, (k.free object).head? = some o ∧ h.owner = some o

theorem OpenResource.within (opens : OpenResource r k (.done () k')) :
    Scene.Quiet (OpenLists .resources_list .resource (k.resource (k.intArg r 0)) k r)
      [.resource, .descriptor, .descriptor_ptr] r k k' := by
  cases opens with
  | taken | unknown | mistyped | shared => exact .answer
  | @creates x _ create absent top opens =>
    have made : Scene.Quiet (OpenLists .resources_list .resource (k.resource (k.intArg r 0)) k r)
        [.resource, .descriptor, .descriptor_ptr] r k (k.newResource x (k.intArg r 0) (k.intArg r 1)) := by
      refine ⟨fun h out => ?_, fun p out => ?_, fun a _ => rfl, fun p _ => rfl⟩
      · simp only [OpenLists, not_or] at out
        have new : h ≠ .descriptors_ptrs x := by
          rintro rfl
          exact out.2.2.2 ⟨x, top, rfl⟩
        simp [Scene.newResource, out, new]
      · simp only [List.mem_cons, List.not_mem_nil, or_false, not_or] at out
        simp [Scene.newResource, out]
    refine made.trans (opens.within.mono (fun h here => ?_) (by simp) (fun _ => id) fun _ => id)
    rcases here with rfl | rfl
    · exact .inl rfl
    · exact .inr (.inr (.inr ⟨x, top, rfl⟩))
  | @opens x _ old found type free opens =>
    refine opens.within.mono (fun h here => ?_) (by simp) (fun _ => id) fun _ => id
    rcases here with rfl | rfl
    · exact .inl rfl
    · exact .inr (.inr (.inl ⟨x, found, rfl⟩))

theorem OpenMessageQueue.within (opens : OpenMessageQueue r k (.done () k')) :
    Scene.Quiet (OpenLists .mq_list .message_queue (k.queue (k.intArg r 0)) k r)
      [.message_queue, .descriptor, .descriptor_ptr] r k k' := by
  cases opens with
  | taken | unknown | shared => exact .answer
  | @creates q _ create absent top opens =>
    have made : Scene.Quiet (OpenLists .mq_list .message_queue (k.queue (k.intArg r 0)) k r)
        [.message_queue, .descriptor, .descriptor_ptr] r k (k.newQueue q (k.intArg r 0)) := by
      refine ⟨fun h out => ?_, fun p out => ?_, fun a _ => rfl, fun p _ => rfl⟩
      · simp only [OpenLists, not_or] at out
        have own : h.owner ≠ some q := fun here => out.2.2.2 ⟨q, top, here⟩
        have new : h ≠ .descriptors_ptrs q ∧ h ≠ .messages q ∧ h ≠ .waiting_to_read q ∧ h ≠ .waiting_to_write q := by
          refine ⟨?_, ?_, ?_, ?_⟩ <;> rintro rfl <;> exact own rfl
        simp [Scene.newQueue, out, new]
      · simp only [List.mem_cons, List.not_mem_nil, or_false, not_or] at out
        simp [Scene.newQueue, out]
    refine made.trans (opens.within.mono (fun h here => ?_) (by simp) (fun _ => id) fun _ => id)
    rcases here with rfl | rfl
    · exact .inl rfl
    · exact .inr (.inr (.inr ⟨q, top, rfl⟩))
  | @opens q _ old found free opens =>
    refine opens.within.mono (fun h here => ?_) (by simp) (fun _ => id) fun _ => id
    rcases here with rfl | rfl
    · exact .inl rfl
    · exact .inr (.inr (.inl ⟨q, found, rfl⟩))

def CloseLists (which : Descriptor → Pointer) (k : Scene) (r : Addr) (h : Head) : Prop :=
  h = .descriptors r ∨ ∃ d o, d ∈ k.seq (.descriptors r) ∧ which (k.store.descriptor d) = some o ∧ h = .descriptors_ptrs o

theorem Close.within {object : Pool} {which : Descriptor → Pointer} (closes : Close object which r k (.done () k')) :
    Scene.Quiet (CloseLists which k r) [.descriptor, .descriptor_ptr] r k k' := by
  cases closes with
  | unknown absent => exact .answer
  | @closed d o e found kind ptr =>
    refine ⟨fun h out => ?_, fun p out => ?_, fun a _ => rfl, fun p _ => ?_⟩
    · rw [CloseLists, not_or] at out
      have other : h ≠ .descriptors_ptrs o := fun here => out.2 ⟨d, o, List.mem_of_find?_eq_some found, kind, here⟩
      simp [Scene.closeDescriptor, Scene.dropDescriptor, out.1, other]
    · simp only [List.mem_cons, List.not_mem_nil, or_false, not_or] at out
      simp [Scene.closeDescriptor, Scene.dropDescriptor, out]
    · simp [Scene.closeDescriptor, Scene.dropDescriptor, PCB.own]

theorem Destroy.within {global : Head} {find : Scene → Int → Pointer} (destroys : Destroy global find r k (.done () k')) :
    Scene.Quiet (· = global) [global.kind] r k k' := by
  cases destroys with
  | unknown | used => exact .answer
  | destroyed found closed =>
    refine ⟨fun h out => ?_, fun p out => ?_, fun a _ => rfl, fun p _ => ?_⟩
    · simp [Scene.destroy, out]
    · rw [List.mem_singleton] at out
      simp [Scene.destroy, out]
    · simp [Scene.destroy, PCB.own]

theorem Suspend.within {waiting : Addr → Head} {mq : Pointer} (suspends : Suspend r mq waiting k (.done () k')) :
    Scene.Quiet (fun h => h = .ready_list ∨ h = .waiting_list ∨ ∃ q, mq = some q ∧ h = waiting q) [.pcb_ptr] r k k' := by
  cases suspends with
  | @suspended w q n ptr found ready =>
    refine ⟨fun h out => ?_, fun p out => ?_, fun a _ => rfl, fun p _ => ?_⟩
    · simp only [not_or] at out
      have other : h ≠ waiting q := fun here => out.2.2 ⟨q, found, here⟩
      simp [Scene.dispatch, Scene.enqueue, Scene.block, out, other]
    · rw [List.mem_singleton] at out
      simp [Scene.dispatch, Scene.enqueue, Scene.block, out]
    · simp [Scene.dispatch, Scene.enqueue, Scene.block, PCB.own]

def QueueLists (found : Pointer) (h : Head) : Prop :=
  h = .ready_list ∨ h = .waiting_list ∨
    ∃ q, found = some q ∧ (h = .messages q ∨ h = .waiting_to_read q ∨ h = .waiting_to_write q)

theorem WakeWriters.within (wakes : WakeWriters q k j) : Scene.Quiet (QueueLists (some q)) [.pcb_ptr] r k j := by
  obtain ⟨rounds, -⟩ := wakes
  refine Scene.Within.rounds id rounds fun round => ?_
  cases round with
  | wake first writer =>
    refine ⟨fun h out => ?_, fun p out => ?_, fun a _ => rfl, fun p _ => ?_⟩
    · simp only [QueueLists, not_or] at out
      have other : h ≠ .waiting_to_write q := fun here => out.2.2 ⟨q, rfl, .inr (.inr here)⟩
      simp [Scene.wakeWriter, Scene.wakeWaiter, out, other]
    · rw [List.mem_singleton] at out
      simp [Scene.wakeWriter, Scene.wakeWaiter, out]
    · simp [Scene.wakeWriter, Scene.wakeWaiter, PCB.own]

theorem WakeReaders.within (wakes : WakeReaders q k j) : Scene.Quiet (QueueLists (some q)) [] r k j := by
  obtain ⟨rounds, -⟩ := wakes
  refine Scene.Within.rounds id rounds fun round => ?_
  cases round with
  | wake first writer =>
    refine ⟨fun h out => ?_, fun p out => ?_, fun a _ => rfl, fun p _ => ?_⟩
    · simp only [QueueLists, not_or] at out
      have other : h ≠ .waiting_to_read q := fun here => out.2.2 ⟨q, rfl, .inr (.inl here)⟩
      simp [Scene.wakeWaiter, out, other]
    · simp [Scene.wakeWaiter]
    · simp [Scene.wakeWaiter, PCB.own]

theorem Read.within (inv : Coherent c (some r) none k) (reads : Read r k (.done () k')) :
    Scene.Within (QueueLists (k.queue (k.intArg r 0))) [.pcb_ptr]
      (fun a => ∃ q x, k.queue (k.intArg r 0) = some q ∧ (k.seq (.messages q)).head? = some x ∧
        (k.store.message x).length ≤ k.intArg r 2 ∧ k.arg r 1 ≤ a ∧ a < k.arg r 1 + (k.store.message x).length)
      (· = r) k k' := by
  cases reads with
  | waits empty suspends =>
    refine suspends.within.mono (fun h here => ?_) (by simp) (fun _ => False.elim) fun _ => id
    rcases here with ready | waits | ⟨q, found, rfl⟩
    · exact .inl ready
    · exact .inr (.inl waits)
    · exact .inr (.inr ⟨q, found, .inr (.inl rfl)⟩)
  | short found first long => exact .answer
  | @takes q x j found first fits wakes user =>
    obtain ⟨lists, pools, memory, own⟩ := wakes.within (r := r)
    have apart : ∀ h, ¬ QueueLists (k.queue (k.intArg r 0)) h → ¬ QueueLists (some q) h ∧ h ≠ .messages q := by
      intro h out
      rw [found] at out
      exact ⟨out, fun here => out (.inr (.inr ⟨q, rfl, .inl here⟩))⟩
    have data : j.store.message = k.store.message := by
      obtain ⟨pcb, store, -⟩ := (wakes.woken (inv.moved (.take (inv.sound.first first)))).store
      rw [store]
      rfl
    refine ⟨fun h out => ?_, fun p out => ?_, fun a out => ?_, fun p other => ?_⟩
    · obtain ⟨others, messages⟩ := apart h out
      simpa [Scene.finishRead, messages] using lists h others
    · simpa [Scene.finishRead] using pools p out
    · have outside : ¬ (k.arg r 1 ≤ a ∧ a < k.arg r 1 + ((k.store.message x).length.toNat : Nat)) := by
        rintro ⟨low, high⟩
        refine out ⟨q, x, found, first, fits, low, ?_⟩
        omega
      have copied : (j.finishRead r q x (k.arg r 1)).store.memory a = j.store.memory a := by
        simp only [Scene.finishRead, Scene.store_answer, Scene.store_update, Store.memory_setPCB, data, copyOut_apply,
          if_neg outside]
      exact copied.trans (memory a id)
    · simpa [Scene.finishRead, PCB.own, other] using own p other

theorem Write.within (writes : Write c r k (.done () k')) :
    Scene.Quiet (QueueLists (k.queue (k.intArg r 0))) [.pcb_ptr, .message] r k k' := by
  cases writes with
  | tooLong | unknown => exact .answer
  | @waits q _ fits found full suspends =>
    refine suspends.within.mono (fun h here => ?_) (by simp) (fun _ => id) fun _ => id
    rcases here with ready | waits | ⟨q', same, rfl⟩
    · exact .inl ready
    · exact .inr (.inl waits)
    · exact .inr (.inr ⟨q', found.trans same, .inr (.inr rfl)⟩)
  | @writes q x j fits found room block user wakes =>
    obtain ⟨lists, pools, memory, own⟩ := wakes.within (r := r)
    refine ⟨fun h out => ?_, fun p out => ?_, fun a out => ?_, fun p other => ?_⟩
    · have messages : h ≠ .messages q := fun here => out (.inr (.inr ⟨q, found, .inl here⟩))
      rw [found] at out
      simpa [Scene.finishWrite, Scene.post, messages] using lists h out
    · simp only [List.mem_cons, List.not_mem_nil, or_false, not_or] at out
      simpa [Scene.finishWrite, Scene.post, out] using pools p (by simp)
    · simpa [Scene.finishWrite, Scene.post] using memory a out
    · simpa [Scene.finishWrite, Scene.post, PCB.own, other] using own p other

end

/-! ## The system calls -/

section
variable (m : Kernel) (r : Addr) (num : Int) (args : Nat → Int)

/-- The lists that a call of the process `r` may change. -/
def CallLists : Head → Prop
  | .ready_list => num ∈ [DSOS_CALL_PREEMPT, DSOS_CALL_FORK, DSOS_CALL_SPAWN, DSOS_CALL_WAIT, DSOS_CALL_EXIT,
      DSOS_CALL_SLEEP, DSOS_CALL_READ_MQ, DSOS_CALL_WRITE_MQ]
  | .waiting_list => num ∈ [DSOS_CALL_PREEMPT, DSOS_CALL_WAIT, DSOS_CALL_EXIT, DSOS_CALL_SLEEP, DSOS_CALL_READ_MQ,
      DSOS_CALL_WRITE_MQ]
  | .zombie_list => num ∈ [DSOS_CALL_WAIT, DSOS_CALL_EXIT]
  | .timer_list => num ∈ [DSOS_CALL_PREEMPT, DSOS_CALL_SLEEP]
  | .resources_list => num ∈ [DSOS_CALL_OPEN_RESOURCE, DSOS_CALL_DESTROY_RESOURCE]
  | .mq_list => num ∈ [DSOS_CALL_OPEN_MQ, DSOS_CALL_DESTROY_MQ]
  | .children q => num ∈ [DSOS_CALL_FORK, DSOS_CALL_SPAWN, DSOS_CALL_WAIT] ∧ q = r ∨ num = DSOS_CALL_EXIT ∧
      (q = r ∨ m.store.init_pcb = some q ∨ (m.store.pcb r).parent = some q)
  | .descriptors q => num ∈ [DSOS_CALL_OPEN_RESOURCE, DSOS_CALL_CLOSE_RESOURCE, DSOS_CALL_OPEN_MQ, DSOS_CALL_CLOSE_MQ,
      DSOS_CALL_EXIT] ∧ q = r
  | .descriptors_ptrs o =>
      num = DSOS_CALL_OPEN_RESOURCE ∧ m.resource (int32 (args 0)) = some o ∨
      num = DSOS_CALL_OPEN_MQ ∧ m.queue (int32 (args 0)) = some o ∨
      num ∈ [DSOS_CALL_CLOSE_RESOURCE, DSOS_CALL_CLOSE_MQ, DSOS_CALL_EXIT] ∧ ∃ d ∈ m.list (.descriptors r),
        (m.store.descriptor d).mq = some o ∨ (m.store.descriptor d).resource = some o
  | .messages q | .waiting_to_read q | .waiting_to_write q =>
      num ∈ [DSOS_CALL_READ_MQ, DSOS_CALL_WRITE_MQ] ∧ m.queue (int32 (args 0)) = some q

/-- The pools that a call may take blocks from or give them back to. -/
def CallPools : Pool → Prop
  | .pcb => num ∈ [DSOS_CALL_FORK, DSOS_CALL_SPAWN, DSOS_CALL_WAIT, DSOS_CALL_EXIT]
  | .pcb_ptr => num ∈ [DSOS_CALL_FORK, DSOS_CALL_SPAWN, DSOS_CALL_WAIT, DSOS_CALL_READ_MQ, DSOS_CALL_WRITE_MQ]
  | .timer_item => num ∈ [DSOS_CALL_PREEMPT, DSOS_CALL_SLEEP]
  | .resource => num ∈ [DSOS_CALL_OPEN_RESOURCE, DSOS_CALL_DESTROY_RESOURCE]
  | .descriptor | .descriptor_ptr => num ∈ [DSOS_CALL_OPEN_RESOURCE, DSOS_CALL_CLOSE_RESOURCE, DSOS_CALL_OPEN_MQ,
      DSOS_CALL_CLOSE_MQ, DSOS_CALL_EXIT]
  | .message_queue => num ∈ [DSOS_CALL_OPEN_MQ, DSOS_CALL_DESTROY_MQ]
  | .message => num = DSOS_CALL_WRITE_MQ

/-- The memory of the processes that a call of `r` may change: a buffer for a message, or the result of a wait. -/
def CallMemory (a : Int) : Prop :=
  (num = DSOS_CALL_READ_MQ ∧ ∃ q x, ReadsFrom m q args x ∧
    args 1 ≤ a ∧ a < args 1 + (m.store.message x).length) ∨
  (num = DSOS_CALL_WAIT ∧ resultAt (args 1) a) ∨
  (num = DSOS_CALL_EXIT ∧ ∃ q, (m.store.pcb r).parent = some q ∧ q ∈ m.list .waiting_list ∧
    (m.store.pcb q).syscall_num = DSOS_CALL_WAIT ∧ resultAt ((m.store.pcb q).syscall_args 1) a)

end

/-- The call changed nothing outside its lists, its pools, its memory and the process `r`. -/
structure StaysWithin (c : Config) (m m' : Kernel) (r : Addr) (num : Int) (args : Nat → Int) : Prop where
  lists : ∀ h, ¬ CallLists m r num args h → (∀ o, h.owner = some o → m.Allocated c o) → m'.list h = m.list h
  pools : ∀ x, ¬ CallPools num x.pool → (m'.Allocated c x ↔ m.Allocated c x)
  memory : ∀ a, ¬ CallMemory m r num args a → m'.store.memory a = m.store.memory a
  own : ∀ p, p ≠ r → m.Allocated c p → (m'.store.pcb p).own = (m.store.pcb p).own

/-- A free block `p` runs as a first process without lists, and nothing else is new. -/
structure StartsOver (c : Config) (m m' : Kernel) (p : Addr) : Prop where
  block : p.pool = .pcb ∧ ¬ m.Allocated c p
  allocated : ∀ x, m'.Allocated c x ↔ x = p ∨ m.Allocated c x
  lists : ∀ h, h ≠ .children p → h ≠ .descriptors p → m'.list h = m.list h
  empty : m'.list (.children p) = [] ∧ m'.list (.descriptors p) = []
  store : m'.store = { m.store.setPCB p fun _ => m'.store.pcb p with
    running := some p
    init_pcb := some p
    last_pid := m.store.last_pid + 1
    log_file := m.store.start_args.logfile }

/-- With somebody running the processor leaves the kernel as it is, with nobody left it starts over. -/
structure Departs (c : Config) (m m' : Kernel) : Prop where
  resumes : m.store.running ≠ none → m' = m
  restarts : m.store.running = none → ∃ p, StartsOver c m m' p

section
variable {c : Config} {m m' : Kernel} {k k' : Scene} {r : Addr} {num : Int} {args : Nat → Int}

theorem Shows.stays {F : Head → Prop} {ps : List Pool} {M : Int → Prop} {R : Addr → Prop} (shows : Shows c m k)
    (shows' : Shows c m' k') (within : Scene.Within F ps M R (k.enter r num args) k')
    (heads : ∀ h, F h → CallLists m r num args h ∨ ∃ o, h.owner = some o ∧ ¬ k.Live c o)
    (pools : ∀ p ∈ ps, CallPools num p) (memory : ∀ a, M a → CallMemory m r num args a)
    (processes : ∀ p, R p → p = r ∨ ¬ k.Live c p) : StaysWithin c m m' r num args where
  lists h out allocated := by
    rw [shows'.list, shows.list]
    refine within.lists h fun here => ?_
    rcases heads h here with listed | ⟨o, owner, dead⟩
    · exact out listed
    · exact dead ((shows.allocated o).mp (allocated o owner))
  pools x out := by
    have same := within.pools x.pool fun here => out (pools _ here)
    rw [shows'.allocated, shows.allocated]
    simp only [Scene.Live, Shape.Live, layout_poolOf, same, toShape_enter]
  memory a out := by
    rw [shows'.store, shows.store]
    exact within.memory a fun here => out (memory a here)
  own p other allocated := by
    rw [shows'.store, shows.store]
    have alive := (shows.allocated p).mp allocated
    refine (within.own p fun here => ?_).trans ?_
    · rcases processes p here with same | dead
      · exact other same
      · exact dead alive
    · simp [Scene.enter, PCB.own, other]

theorem Shows.readsFrom {q x : Addr} (shows : Shows c m k) : ReadsFrom m q args x ↔ k.queue (int32 (args 0)) = some q ∧
    (k.seq (.messages q)).head? = some x ∧ (k.store.message x).length ≤ int32 (args 2) := by
  rw [ReadsFrom, shows.queue, shows.list, shows.store, Option.mem_def]

theorem queueLists_call (stored : 0 < syscall_numarg num) (shows : Shows c m k)
    (reads : num ∈ [DSOS_CALL_READ_MQ, DSOS_CALL_WRITE_MQ]) {h : Head}
    (here : QueueLists ((k.enter r num args).queue ((k.enter r num args).intArg r 0)) h) : CallLists m r num args h := by
  rw [queue_enter stored, ← shows.queue] at here
  rcases here with rfl | rfl | ⟨q, found, rfl | rfl | rfl⟩
  · simp only [CallLists, List.mem_cons] at reads ⊢
    tauto
  · simp only [CallLists, List.mem_cons] at reads ⊢
    tauto
  · exact ⟨reads, found⟩
  · exact ⟨reads, found⟩
  · exact ⟨reads, found⟩

theorem closeLists_call {which : Descriptor → Pointer} (shows : Shows c m k)
    (closes : num = DSOS_CALL_CLOSE_RESOURCE ∨ num = DSOS_CALL_CLOSE_MQ) {h : Head}
    (here : CloseLists which (k.enter r num args) r h)
    (of : ∀ d o, which (k.store.descriptor d) = some o →
      (k.store.descriptor d).mq = some o ∨ (k.store.descriptor d).resource = some o) : CallLists m r num args h := by
  rcases here with rfl | ⟨d, o, open_, names, rfl⟩
  · refine ⟨?_, rfl⟩
    rcases closes with rfl | rfl <;> simp
  · refine .inr (.inr ⟨?_, d, ?_, ?_⟩)
    · rcases closes with rfl | rfl <;> simp
    · rw [shows.list]
      exact open_
    · rw [shows.store]
      exact of d o names

theorem handler_stays {H : Addr → Scene → Ending → Prop} (shows : Shows c m k) (shows' : Shows c m' k')
    (inv : Coherent c k.store.running none k) (runs : k.store.running = some r) (handler : Handles c num = some H)
    (ends : H r (k.enter r num args) (.done () k')) : StaysWithin c m m' r num args := by
  have entered := inv.entered runs num args
  have self : ∀ p, p = r → p = r ∨ ¬ k.Live c p := fun _ => .inl
  cases handler_entry handler with
  | preempt =>
    refine shows.stays shows' (Schedule.within ends) (fun h here => .inl ?_) (by simp [CallPools]) (fun _ => False.elim) self
    rcases here with rfl | rfl | rfl <;> simp [CallLists]
  | sleep =>
    refine shows.stays shows' (Sleep.within ends) (fun h here => .inl ?_) (by simp [CallPools]) (fun _ => False.elim) self
    rcases here with rfl | rfl | rfl <;> simp [CallLists]
  | fork | spawn =>
    have child := NewChild.within (by intros; rfl) (by intros; rfl) (fun p p' j other => by simp [Scene.setPCB,
      Scene.update, Store.pcb_setPCB, other]) ends
    refine shows.stays shows' child (fun h here => ?_) (by simp [CallPools]) (fun _ => False.elim) fun p new => ?_
    · rcases here with rfl | rfl | ⟨p, top, owner⟩
      · exact .inl (by simp [CallLists])
      · exact .inl (by simp [CallLists])
      -- the lists of the new process belong to a block that was free
      · exact .inr ⟨p, owner, (inv.sound.top top).2.2⟩
    · exact new.imp_right fun top => (inv.sound.top top).2.2
  | wait =>
    have result : (k.enter r DSOS_CALL_WAIT args).arg r 1 = args 1 := arg_enter (by decide)
    refine shows.stays shows' (Wait.within ends) (fun h here => .inl ?_) (by simp [CallPools]) (fun a here => ?_) self
    · rcases here with rfl | rfl | rfl | rfl <;> simp [CallLists]
    · rw [result] at here
      exact .inr (.inl ⟨rfl, here⟩)
  -- an exit reaches furthest: its heir, the objects of its descriptors, the result of its parent
  | exit =>
    have parent : ((k.enter r DSOS_CALL_EXIT args).store.pcb r).parent = (m.store.pcb r).parent := by
      simp [Scene.enter, shows.store]
    have pid : ((k.enter r DSOS_CALL_EXIT args).store.pcb r).pid = (k.store.pcb r).pid := by simp [Scene.enter]
    refine shows.stays shows' (Exit.within entered ends) (fun h here => .inl ?_) (by simp [CallPools]) (fun a here => ?_) self
    · rcases here with rfl | rfl | rfl | rfl | rfl | ⟨q, rfl, heir⟩ | ⟨d, o, open_, of, rfl⟩
      · simp [CallLists]
      · simp [CallLists]
      · simp [CallLists]
      · simp [CallLists]
      · simp [CallLists]
      · rw [parent] at heir
        refine .inr ⟨rfl, .inr ?_⟩
        rw [shows.store] at heir ⊢
        exact heir
      · refine .inr (.inr ⟨by simp, d, ?_, .inl ?_⟩)
        · rw [shows.list]
          exact open_
        · rw [shows.store]
          exact of
    · obtain ⟨q, named, awaits, stored⟩ := here
      rw [parent] at named
      rw [runs] at inv
      -- the result is stored through the argument of the parent that waits
      have asked := AwaitsDeath.of_enter inv (pid ▸ awaits)
      have blocked := AwaitsDeath.blocked inv asked
      have other : q ≠ r := by
        rintro rfl
        cases (inv.processes.not_waiting rfl).symm.trans blocked.1
      refine .inr (.inr ⟨rfl, q, named, shows.mem_list.mpr blocked.1, ?_, ?_⟩)
      · rw [shows.store]
        exact blocked.2
      · rw [shows.store]
        simpa [Scene.enter, other] using stored
  | openResource =>
    have id : (k.enter r DSOS_CALL_OPEN_RESOURCE args).intArg r 0 = int32 (args 0) := intArg_enter (by decide)
    refine shows.stays shows' (OpenResource.within ends) (fun h here => ?_) (by simp [CallPools]) (fun _ => False.elim) self
    rcases here with rfl | rfl | ⟨o, found, rfl⟩ | ⟨o, top, owner⟩
    · exact .inl (by simp [CallLists])
    · exact .inl (by simp [CallLists])
    · rw [id] at found
      exact .inl (.inl ⟨rfl, (shows.resource _).trans found⟩)
    · exact .inr ⟨o, owner, (inv.sound.top top).2.2⟩
  | closeResource =>
    refine shows.stays shows' (Close.within ends) (fun h here => .inl ?_) (by simp [CallPools]) (fun _ => False.elim) self
    exact closeLists_call shows (.inl rfl) here fun d o => .inr
  | destroyResource =>
    refine shows.stays shows' (Destroy.within ends) (fun h here => .inl ?_) (by simp [CallPools, Head.kind]) (fun _ => False.elim) self
    subst here
    simp [CallLists]
  | shutdown => cases ends
  | openMessageQueue =>
    refine shows.stays shows' (OpenMessageQueue.within ends) (fun h here => ?_) (by simp [CallPools]) (fun _ => False.elim) self
    rcases here with rfl | rfl | ⟨o, found, rfl⟩ | ⟨o, top, owner⟩
    · exact .inl (by simp [CallLists])
    · exact .inl (by simp [CallLists])
    · rw [queue_enter (by decide)] at found
      exact .inl (.inr (.inl ⟨rfl, (shows.queue _).trans found⟩))
    · exact .inr ⟨o, owner, (inv.sound.top top).2.2⟩
  | closeMessageQueue =>
    refine shows.stays shows' (Close.within ends) (fun h here => .inl ?_) (by simp [CallPools]) (fun _ => False.elim) self
    exact closeLists_call shows (.inr rfl) here fun d o => .inl
  | write =>
    exact shows.stays shows' (Write.within ends) (fun h here => .inl (queueLists_call (by decide) shows (by simp) here))
      (by simp [CallPools]) (fun _ => False.elim) self
  | read =>
    have buffer : (k.enter r DSOS_CALL_READ_MQ args).arg r 1 = args 1 := arg_enter (by decide)
    have size : (k.enter r DSOS_CALL_READ_MQ args).intArg r 2 = int32 (args 2) := intArg_enter (by decide)
    refine shows.stays shows' (Read.within entered ends)
      (fun h here => .inl (queueLists_call (by decide) shows (by simp) here)) (by simp [CallPools]) (fun a here => ?_) self
    obtain ⟨q, x, found, first, fits, bounds⟩ := here
    rw [queue_enter (by decide)] at found
    rw [size] at fits
    rw [buffer] at bounds
    refine .inl ⟨rfl, q, x, shows.readsFrom.mpr ⟨found, first, fits⟩, ?_⟩
    rw [shows.store]
    exact bounds
  | destroyMessageQueue =>
    refine shows.stays shows' (Destroy.within ends) (fun h here => .inl ?_) (by simp [CallPools, Head.kind]) (fun _ => False.elim) self
    subst here
    simp [CallLists]

theorem Reacts.stays (shows : Shows c m k) (shows' : Shows c m' k') (inv : Coherent c k.store.running none k)
    (runs : k.store.running = some r) (reacts : Reacts c k (.syscall num args) (.done () k')) :
    StaysWithin c m m' r num args := by
  cases reacts with
  | outOfRange running range =>
    -- the answer is not even stored
    constructor
    · intro h _ _
      rw [shows'.list, shows.list]
    · intro x _
      rw [shows'.allocated, shows.allocated]
    · intro a _
      rw [shows'.store, shows.store]
    · intro p _ _
      rw [shows'.store, shows.store]
  | @unknown _ _ r' running range absent =>
    cases runs.symm.trans running
    exact shows.stays shows' (F := fun _ => False) (M := fun _ => False) (.answer : Scene.Within _ [] _ _ _ _)
      (fun _ => False.elim) (by simp) (fun _ => False.elim) fun _ => .inl
  | handled running handler ends logged =>
    cases runs.symm.trans running
    exact handler_stays shows shows' inv runs handler ends

theorem Shows.starts_over {p : Addr} (shows : Shows c m k) (sound : k.Sound c) (pcb : (k.free .pcb).head? = some p)
    (shows' : Shows c m' (k.restart p)) : StartsOver c m m' p where
  block := by
    have fresh := sound.top pcb
    rw [shows.allocated]
    exact ⟨fresh.1, fresh.2.2⟩
  allocated x := by
    rw [shows'.allocated, shows.allocated]
    exact Scene.live_restart sound pcb
  lists h children descriptors := by
    rw [shows'.list, shows.list]
    simp [Scene.restart, children, descriptors]
  empty := by
    rw [shows'.list, shows'.list]
    simp [Scene.restart]
  store := by
    rw [shows'.store, shows.store]
    simp [Scene.restart, Store.setPCB]

theorem Step.departs (step : Step c m .proceed m') (shows : Shows c m k) (inv : Coherent c k.store.running none k) :
    Departs c m m' where
  resumes runs := by
    obtain ⟨r, runs⟩ := Option.ne_none_iff_exists'.mp runs
    obtain ⟨fuel, run⟩ := step
    by_cases set : (m.store.pcb r).cpu_state = .unset <;>
      simp_all [Event.code, proceed, Program.run_bind, DisastrOS.get, Program.get, Program.run, Outcome.bind]
  restarts idle := by
    obtain ⟨k', shows', reacts⟩ := step.reacts shows inv
    rw [shows.store] at idle
    cases reacts with
    | proceeds leaves =>
      cases leaves with
      | resumes running set => cases idle.symm.trans running
      | @restarts p _ pcb unspent => exact ⟨p, shows.starts_over inv.sound pcb shows'⟩

end

/-- Every system call stays within its lists, its pools, its memory and its caller. Only when nobody is left to
return to does its end reach further. -/
theorem calls_stay_within (c : Constants) {m m' : Kernel} {r : Addr} {num : Int} {args : Nat → Int}
    (reach : Reachable c.toConfig m) (runs : m.store.running = some r)
    (step : Step c.toConfig m (.syscall num args) m') :
    StaysWithin c.toConfig m m' r num args ∧ ∀ m'', Step c.toConfig m' .proceed m'' → Departs c.toConfig m' m'' := by
  obtain ⟨k, shows, inv, counted⟩ := reach.shows
  obtain ⟨k', shows', reacts⟩ := step.reacts shows inv
  refine ⟨?_, fun m'' proceed => ?_⟩
  · rw [shows.store] at runs
    exact reacts.stays shows shows' inv runs
  · exact proceed.departs shows' ((reacts.chain inv counted).coherent inv)

/-- The child creates a queue while the first process is ready. -/
def child_creates : Observed always fun m => m.store.running = some (block .pcb 1) ∧
    m.list .ready_list = [block .pcb 0] ∧
    ((trial_from constants.toConfig always [.syscall DSOS_CALL_OPEN_MQ (arguments [5, 1])] m).any
      fun m' => (m'.list .mq_list).length = 1) = true :=
  observe always [.syscall DSOS_CALL_SPAWN (arguments [1, 2]), .tick] (by decide +kernel)

theorem calls_stay_within_open : ∃ m m', Reachable constants.toConfig m ∧
    Step constants.toConfig m (.syscall DSOS_CALL_OPEN_MQ (arguments [5, 1])) m' ∧
    m'.list .ready_list = [block .pcb 0] ∧ (m'.list .mq_list).length = 1 := by
  obtain ⟨m, reached, runs, ready, creates⟩ := child_creates
  obtain ⟨m', step, created⟩ := trial_step creates
  have within := (calls_stay_within constants reached.reachable runs step).1
  have other : ¬ CallLists m (block .pcb 1) DSOS_CALL_OPEN_MQ (arguments [5, 1]) .ready_list := by
    change DSOS_CALL_OPEN_MQ ∉ _
    decide
  exact ⟨m, m', reached.reachable, step, (within.lists .ready_list other nofun).trans ready, created⟩

end DisastrOS
