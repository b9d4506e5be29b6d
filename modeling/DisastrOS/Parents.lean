import DisastrOS.Lineage

/-! The `parent` field and the children lists.

A process is in the children of the process that its `parent` field names until
its parent exits: `internal_exit` moves the entries to `init` and leaves the
fields alone. What a wait may rely on fails with it.
-/

set_option autoImplicit false

namespace DisastrOS

open Refinement

def Scene.Parented (k : Scene) : Prop :=
  ∀ e q p, k.place e = .linked (.children q) → k.store.pcb_ptr e = some p → (k.store.pcb p).parent = some q

/-- Every process but `init` was created by another one. -/
def Scene.OneRoot (c : Config) (k : Scene) : Prop :=
  ∀ p, k.Live c p → p.pool = .pcb → (k.store.pcb p).parent = none → k.store.init_pcb = some p

section
variable {c : Config} {tag : Tag} {P P' : Phase}

theorem Move.parented (move : Move c tag P P') (inv : P.Coherent c) (kept : tag ≠ .adopted)
    (parented : P.scene.Parented) : P'.scene.Parented := by
  intro e q p linked names
  cases move.entry inv linked names with
  | stays there before =>
    obtain ⟨⟨p', names', alive, -⟩, -⟩ := inv.tree.entry there
    cases before.symm.trans names'
    rw [move.parent inv alive]
    exact parented e q p there before
  | born runs fresh pid parent => exact parent
  | adopted => exact absurd rfl kept

theorem Move.one_root (move : Move c tag P P') (inv : P.Coherent c) (kept : ∀ p, tag ≠ .restarted p)
    (root : P.scene.OneRoot c) : P'.scene.OneRoot c := by
  intro p alive pool orphan
  rw [move.init_pcb kept]
  rcases move.born inv pool alive with before | ⟨-, starts | ⟨somebody, parent⟩⟩
  · exact root p before pool ((move.parent inv before).symm.trans orphan)
  · exact absurd starts (kept p)
  · exact absurd (parent.symm.trans orphan) somebody

end

/-- No process exits while it has children. -/
def NoOrphans (m : Kernel) : Event → Prop
  | .syscall num _ => num = DSOS_CALL_EXIT → ∀ r ∈ m.store.running, m.list (.children r) = []
  | _ => True

instance : ∀ m e, Decidable (NoOrphans m e)
  | m, .syscall num args => by
    unfold NoOrphans
    infer_instance
  | _, .user _ => inferInstanceAs (Decidable True)
  | _, .tick => inferInstanceAs (Decidable True)
  | _, .proceed => inferInstanceAs (Decidable True)

/-- Nor does the kernel start again, which makes another process `init`. -/
def TreeKept (m : Kernel) : Event → Prop
  | .syscall num args => NoOrphans m (.syscall num args)
  | .proceed => m.store.running ≠ none
  | _ => True

instance : ∀ m e, Decidable (TreeKept m e)
  | m, .syscall num args => inferInstanceAs (Decidable (NoOrphans m (.syscall num args)))
  | _, .user _ => inferInstanceAs (Decidable True)
  | _, .tick => inferInstanceAs (Decidable True)
  | m, .proceed => inferInstanceAs (Decidable (m.store.running ≠ none))

section
variable {c : Config} {m : Kernel} {k k' : Scene} {e : Event}

theorem Does.no_orphans {j : Scene} (shows : Shows c m k) (keep : TreeKept m e)
    (does : Does c k e j .adopted) : False := by
  cases does with
  | adopts args j runs children =>
    refine children ?_
    rw [← shows.list]
    exact keep rfl _ (by rw [shows.store, runs]; rfl)

theorem Does.no_restart {j : Scene} {p : Addr} (shows : Shows c m k) (keep : TreeKept m e)
    (does : Does c k e j (.restarted p)) : False := by
  cases does with
  | restarts idle pcb => exact keep (by rw [shows.store, idle])

theorem Reacts.parented (shows : Shows c m k) (inv : Coherent c k.store.running none k) (counted : Counted c k)
    (keep : TreeKept m e) (holds : k.Parented ∧ k.OneRoot c) (reacts : Reacts c k e (.done () k')) :
    k'.Parented ∧ k'.OneRoot c := by
  refine ((reacts.chain inv counted).keeps (J := fun P => P.scene.Parented ∧ P.scene.OneRoot c) inv
    (fun does inv' move holds => ⟨move.parented inv' ?_ holds.1, move.one_root inv' ?_ holds.2⟩) holds).2
  · rintro rfl
    exact does.no_orphans shows keep
  · rintro p rfl
    exact does.no_restart shows keep

theorem Fresh.parented (fresh : Fresh c k) : k.Parented ∧ k.OneRoot c := by
  refine ⟨fun e q p linked => ?_, fun p alive pool orphan => ?_⟩
  · rw [fresh.place] at linked
    cases linked
  · rw [(fresh.live p).mp alive]
    exact fresh.init_pcb

end

/-- The child exits before its own child, which `init` adopts. -/
def orphaned : Observed always fun m => (m.list (.children (block .pcb 0))).any (fun e =>
    m.store.pcb_ptr e = some (block .pcb 2)) = true ∧
    (m.store.pcb (block .pcb 2)).parent = some (block .pcb 1) :=
  observe always
    [.syscall DSOS_CALL_SPAWN (arguments [1, 2]), .tick, .syscall DSOS_CALL_SPAWN (arguments [1, 2]),
      .syscall DSOS_CALL_EXIT (arguments [7])] (by decide +kernel)

end DisastrOS
