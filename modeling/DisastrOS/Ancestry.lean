import DisastrOS.Lineage

/-! The processes form a forest, and one of its roots is `init`.

Whatever is forked, spawned, given away to `init` and reaped, the children lists
lead from a root to every process. The kernel plants a root when it starts, and
another one each time nobody is left to run and it starts again.
-/

set_option autoImplicit false

namespace DisastrOS

open Relation (ReflTransGen TransGen)

/-- `p` is in the children list of `q`. -/
def Kernel.ChildOf (m : Kernel) (q p : Addr) : Prop := ∃ e ∈ m.list (.children q), m.store.pcb_ptr e = some p

/-- A process that no process has created. -/
def Kernel.Root (c : Config) (m : Kernel) (p : Addr) : Prop :=
  m.Allocated c p ∧ p.pool = .pcb ∧ (m.store.pcb p).parent = none

/-- The children lists are a forest, whose inner nodes and roots have not exited. -/
structure Rooted (c : Config) (m : Kernel) : Prop where
  init : ∃ i, m.store.init_pcb = some i ∧ m.Root c i
  root : ∀ p, m.Allocated c p → p.pool = .pcb → (m.Root c p ↔ ∀ q, ¬ m.ChildOf q p)
  below : ∀ p, m.Allocated c p → p.pool = .pcb → ∃ i, m.Root c i ∧ ReflTransGen m.ChildOf i p
  allocated : ∀ q p, m.ChildOf q p → (m.Allocated c q ∧ q.pool = .pcb) ∧ m.Allocated c p ∧ p.pool = .pcb
  single : ∀ q q' p, m.ChildOf q p → m.ChildOf q' p → q = q'
  acyclic : ∀ p, ¬ TransGen m.ChildOf p p
  younger : ∀ q p, TransGen m.ChildOf q p → ¬ m.Root c q → (m.store.pcb q).pid < (m.store.pcb p).pid
  alive : ∀ q, m.Root c q ∨ (∃ p, m.ChildOf q p) → q ∉ m.list .zombie_list

section
variable {c : Config} {m : Kernel} {k : Scene} {runner : Pointer} {p q : Addr}

theorem Shows.childOf (shows : Shows c m k) :
    m.ChildOf q p ↔ ∃ e, k.place e = .linked (.children q) ∧ k.store.pcb_ptr e = some p := by
  simp only [Kernel.ChildOf, shows.mem_list, shows.store]

theorem Shows.root (shows : Shows c m k) : m.Root c p ↔ k.Live c p ∧ p.pool = .pcb ∧ (k.store.pcb p).parent = none := by
  simp only [Kernel.Root, shows.allocated, shows.store]

/-- A child and the process it is a child of. -/
structure Scene.Kinship (c : Config) (k : Scene) (q p : Addr) : Prop where
  child : k.Live c p ∧ p.pool = .pcb
  owner : k.Live c q ∧ q.pool = .pcb
  created : (k.store.pcb p).parent ≠ none
  active : k.place q ≠ .linked .zombie_list
  younger : (k.store.pcb q).parent = none ∨ (k.store.pcb q).pid < (k.store.pcb p).pid

theorem Shows.kinship (shows : Shows c m k) (inv : Coherent c runner none k) (lineage : k.Lineage)
    (child : m.ChildOf q p) : k.Kinship c q p := by
  obtain ⟨e, linked, names⟩ := shows.childOf.mp child
  obtain ⟨⟨p', names', alive, pool, created, -⟩, owner, kind, active⟩ := inv.tree.entry linked
  cases names.symm.trans names'
  exact ⟨⟨alive, pool⟩, ⟨owner, kind⟩, created, active, lineage.younger linked names⟩

theorem Shows.descendant (shows : Shows c m k) (inv : Coherent c runner none k) (lineage : k.Lineage)
    (path : TransGen m.ChildOf q p) :
    (k.store.pcb p).parent ≠ none ∧ ((k.store.pcb q).parent = none ∨ (k.store.pcb q).pid < (k.store.pcb p).pid) := by
  induction path with
  | single child =>
    have kin := shows.kinship inv lineage child
    exact ⟨kin.created, kin.younger⟩
  | tail _ child ih =>
    have kin := shows.kinship inv lineage child
    exact ⟨kin.created, ih.2.imp_right fun older => older.trans (kin.younger.resolve_left ih.1)⟩

theorem Shows.descends (shows : Shows c m k) (inv : Coherent c runner none k) (lineage : k.Lineage) {n : Nat}
    (alive : k.Live c p) (pool : p.pool = .pcb) (young : (k.store.pcb p).pid.toNat < n) :
    ∃ i, m.Root c i ∧ ReflTransGen m.ChildOf i p := by
  induction n generalizing p with
  | zero => exact absurd young (Nat.not_lt_zero _)
  | succ n ih =>
    by_cases planted : (k.store.pcb p).parent = none
    · exact ⟨p, shows.root.mpr ⟨alive, pool, planted⟩, .refl⟩
    obtain ⟨e, q, linked, names⟩ := inv.tree.child alive pool planted nofun
    have child : m.ChildOf q p := shows.childOf.mpr ⟨e, linked, names⟩
    have kin := shows.kinship inv lineage child
    rcases kin.younger with top | older
    · exact ⟨q, shows.root.mpr ⟨kin.owner.1, kin.owner.2, top⟩, .single child⟩
    · have range := inv.pids.range kin.owner.1 kin.owner.2
      obtain ⟨i, root, path⟩ := ih kin.owner.1 kin.owner.2 (by omega)
      exact ⟨i, root, path.tail child⟩

end

/-- In every reachable state the processes form a forest, and `init` is one of its roots. -/
theorem processes_rooted (c : Constants) {m : Kernel} (reach : Reachable c.toConfig m) : Rooted c.toConfig m := by
  obtain ⟨k, shows, inv, counted, lineage⟩ := reach.lineage
  constructor
  case init =>
    obtain ⟨i, init, alive, pool, planted⟩ := inv.tree.init
    exact ⟨i, by rw [shows.store, init], shows.root.mpr ⟨alive, pool, planted⟩⟩
  case root =>
    intro p allocated pool
    have alive := (shows.allocated p).mp allocated
    refine ⟨fun root q child => ?_, fun childless => ?_⟩
    · exact (shows.kinship inv lineage child).created (shows.root.mp root).2.2
    · by_contra other
      have created : (k.store.pcb p).parent ≠ none := fun planted => other (shows.root.mpr ⟨alive, pool, planted⟩)
      obtain ⟨e, q, linked, names⟩ := inv.tree.child alive pool created nofun
      exact childless q (shows.childOf.mpr ⟨e, linked, names⟩)
  case below =>
    intro p allocated pool
    exact shows.descends inv lineage ((shows.allocated p).mp allocated) pool (Nat.lt_succ_self _)
  case allocated =>
    intro q p child
    have kin := shows.kinship inv lineage child
    exact ⟨⟨(shows.allocated q).mpr kin.owner.1, kin.owner.2⟩, (shows.allocated p).mpr kin.child.1, kin.child.2⟩
  case single =>
    intro q q' p child child'
    obtain ⟨e, linked, names⟩ := shows.childOf.mp child
    obtain ⟨e', linked', names'⟩ := shows.childOf.mp child'
    cases inv.tree.unique linked linked' (names.trans names'.symm)
    simpa using linked.symm.trans linked'
  case acyclic =>
    intro p cycle
    obtain ⟨created, older⟩ := shows.descendant inv lineage cycle
    exact lt_irrefl _ (older.resolve_left created)
  case younger =>
    intro q p path below
    rw [shows.store]
    refine (shows.descendant inv lineage path).2.resolve_left fun planted => below (shows.root.mpr ?_)
    -- the first of the path has a child, so it is allocated
    have owner : k.Live c.toConfig q ∧ q.pool = .pcb := by
      obtain ⟨b, child, -⟩ := Relation.TransGen.head'_iff.mp path
      exact (shows.kinship inv lineage child).owner
    exact ⟨owner.1, owner.2, planted⟩
  case alive =>
    intro q stands zombie
    have dead := shows.mem_list.mp zombie
    rcases stands with root | ⟨p, child⟩
    · obtain ⟨alive, pool, planted⟩ := shows.root.mp root
      exact inv.tree.root alive pool planted dead
    · exact (shows.kinship inv lineage child).active dead

/-- The child of the first process has exited, and its own child has been given to `init`. -/
def adopted : Observed always fun m => (m.list (.children (block .pcb 0))).length = 2 ∧
    m.list .zombie_list = [block .pcb 1] ∧ m.store.running = some (block .pcb 0) :=
  observe always
    [.syscall DSOS_CALL_SPAWN (arguments [1, 2]), .tick, .syscall DSOS_CALL_SPAWN (arguments [1, 2]),
      .syscall DSOS_CALL_EXIT (arguments [7])] (by decide +kernel)

theorem processes_rooted_adopted : ∃ m, Reachable constants.toConfig m ∧ m.list .zombie_list = [block .pcb 1] ∧
    Rooted constants.toConfig m := by
  obtain ⟨m, reached, children, zombies, runs⟩ := adopted
  exact ⟨m, reached.reachable, zombies, processes_rooted constants reached.reachable⟩

end DisastrOS
