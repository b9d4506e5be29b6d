import Mathlib.Data.List.Basic
import Mathlib.Data.List.Count

/-! Waiting lines, and runs in which somebody waits.

In a step of a line some cut in at its front, some queue up at its end, and the
first one may be served. Who waits in the line moves up by one place when
somebody is served, and back by one for each that cuts in.
-/

set_option autoImplicit false

namespace DisastrOS.Refinement

section Line
variable {α : Type}

/-- One step of a line: those of `ahead` have cut in, and `served` has left at the front. -/
def Advances (before ahead : List α) (served : Option α) (after : List α) : Prop :=
  ∃ behind, served.toList ++ after = ahead ++ before ++ behind

namespace Advances
variable {before ahead after : List α} {served : Option α}

theorem refl : Advances before [] none before := ⟨[], by simp⟩

theorem joined (behind : List α) : Advances before [] none (before ++ behind) := ⟨behind, by simp⟩

theorem first {n : α} {rest : List α} (behind : List α) (line : ahead ++ before = n :: rest) :
    Advances before ahead (some n) (rest ++ behind) := ⟨behind, by simp [line]⟩

theorem waits {x : α} (advances : Advances before ahead served after) (member : x ∈ before)
    (unserved : served ≠ some x) : x ∈ after := by
  obtain ⟨behind, line⟩ := advances
  have whole : x ∈ served.toList ++ after := by
    rw [line]
    exact List.mem_append_left _ (List.mem_append_right _ member)
  rcases List.mem_append.mp whole with here | there
  · exact absurd (Option.mem_toList.mp here) unserved
  · exact there

variable [DecidableEq α]

theorem place {x : α} (advances : Advances before ahead served after) (member : x ∈ before)
    (polite : x ∉ ahead) (unserved : served ≠ some x) :
    after.idxOf x + served.toList.length = before.idxOf x + ahead.length := by
  obtain ⟨behind, line⟩ := advances
  have left : x ∉ served.toList := fun here => unserved (Option.mem_toList.mp here)
  have places := congrArg (List.idxOf x) line
  rw [List.idxOf_append_of_notMem left, List.idxOf_append_of_mem (List.mem_append_right _ member),
    List.idxOf_append_of_notMem polite] at places
  omega

theorem in_turn {x y : α} (advances : Advances before ahead served after) (first : before.idxOf x < before.idxOf y)
    (member : y ∈ before) (polite : y ∉ ahead) : served ≠ some y := by
  rintro rfl
  obtain ⟨behind, line⟩ := advances
  have places := congrArg (List.idxOf y) line
  rw [List.idxOf_append_of_mem (List.mem_append_right _ member), List.idxOf_append_of_notMem polite] at places
  simp at places
  omega

theorem in_order {x y : α} (advances : Advances before ahead served after) (first : before.idxOf x < before.idxOf y)
    (members : x ∈ before ∧ y ∈ before) (polite : x ∉ ahead ∧ y ∉ ahead) (unserved : served ≠ some x) :
    after.idxOf x < after.idxOf y := by
  have one := advances.place members.1 polite.1 unserved
  have other := advances.place members.2 polite.2 (advances.in_turn first members.2 polite.2)
  omega

end Advances
end Line

/-! ## Runs -/

section Runs
variable {σ ε : Type}

/-- A run from one state to another, all of whose states meet `ok`. -/
inductive RunWhile (step : σ → ε → σ → Prop) (ok : σ → Prop) (s : σ) : List ε → σ → Prop where
  | nil (here : ok s) : RunWhile step ok s [] s
  | snoc {s' s'' : σ} {es : List ε} {e : ε} (run : RunWhile step ok s es s') (last : step s' e s'')
      (here : ok s'') : RunWhile step ok s (es ++ [e]) s''

namespace RunWhile
variable {step : σ → ε → σ → Prop} {ok : σ → Prop} {s s' : σ} {es : List ε}

theorem single {e : ε} (here : ok s) (last : step s e s') (there : ok s') : RunWhile step ok s [e] s' :=
  snoc (nil here) last there

theorem starts (run : RunWhile step ok s es s') : ok s := by
  induction run with
  | nil here => exact here
  | snoc _ _ _ ih => exact ih

theorem ends (run : RunWhile step ok s es s') : ok s' := by
  cases run with
  | nil here => exact here
  | snoc _ _ here => exact here

/-- What every step keeps between two states that meet `ok` holds in the end. -/
theorem keeps {I : σ → Prop} (run : RunWhile step ok s es s')
    (kept : ∀ {s e s'}, ok s → I s → step s e s' → ok s' → I s') (start : I s) : I s' := by
  induction run with
  | nil => exact start
  | snoc run last here ih => exact kept run.ends ih last here

/-- What every step keeps may be said of each step and each state of the run. -/
theorem refine {step' : σ → ε → σ → Prop} {ok' I : σ → Prop} (run : RunWhile step ok s es s')
    (kept : ∀ {s e s'}, ok s → I s → step s e s' → ok s' → I s' ∧ step' s e s') (goal : ∀ {s}, ok s → I s → ok' s)
    (start : I s) : I s' ∧ RunWhile step' ok' s es s' := by
  induction run with
  | nil here => exact ⟨start, .nil (goal here start)⟩
  | snoc run last here ih =>
    obtain ⟨holds, refined⟩ := ih
    obtain ⟨holds', last'⟩ := kept run.ends holds last here
    exact ⟨holds', .snoc refined last' (goal here holds')⟩

/-- A rank that no step raises, and marked steps lower, bounds their number. -/
theorem ranked {I : σ → Prop} (run : RunWhile step ok s es s') (rank : σ → Nat) (marked : ε → Prop)
    [DecidablePred marked]
    (ranks : ∀ {s e s'}, ok s → I s → step s e s' → ok s' →
      I s' ∧ rank s' + (if marked e then 1 else 0) ≤ rank s) (start : I s) :
    I s' ∧ rank s' + es.countP (fun e => marked e) ≤ rank s := by
  induction run with
  | nil => exact ⟨start, by simp⟩
  | @snoc s' s'' es e run last here ih =>
    obtain ⟨kept, bound⟩ := ih
    obtain ⟨kept', drop⟩ := ranks run.ends kept last here
    refine ⟨kept', ?_⟩
    rw [List.countP_append, List.countP_singleton]
    simp only [decide_eq_true_eq]
    omega

/-- A run stays in the states that meet `I`, or leaves them once. -/
theorem splits {I : σ → Prop} (run : RunWhile step ok s es s') (start : I s) :
    RunWhile step (fun s => ok s ∧ I s) s es s' ∨
      ∃ es₁ e es₂ s₁ s₂, es = es₁ ++ e :: es₂ ∧ RunWhile step (fun s => ok s ∧ I s) s es₁ s₁ ∧
        step s₁ e s₂ ∧ ¬ I s₂ ∧ RunWhile step ok s₂ es₂ s' := by
  induction run with
  | nil here => exact .inl (.nil ⟨here, start⟩)
  | @snoc s' s'' es e run last here ih =>
    rcases ih with inside | ⟨es₁, e', es₂, s₁, s₂, rfl, before, leaves, out, after⟩
    · by_cases holds : I s''
      · exact .inl (.snoc inside last ⟨here, holds⟩)
      · exact .inr ⟨es, e, [], s', s'', rfl, inside, last, holds, .nil here⟩
    · exact .inr ⟨es₁, e', es₂ ++ [e], s₁, s₂, by simp, before, leaves, out, .snoc after last here⟩

end RunWhile
end Runs

end DisastrOS.Refinement
