import Mathlib.Logic.Relation
import DisastrOS.Refinement.Program

/-! Machines that answer events, and when two of them behave alike.

An event is answered, stops the machine or makes it loop. What comes of a list
of events is an outcome; related states of two machines in bisimulation have
the same outcomes, up to the relation.
-/

set_option autoImplicit false

namespace DisastrOS.Refinement

open Relation (ReflTransGen)

variable {S T ε E : Type}

theorem normal_unique {α : Type} {step : α → α → Prop} {s t t' : α} (unique : Relator.RightUnique step)
    (first : ReflTransGen step s t) (second : ReflTransGen step s t') (ends : ∀ u, ¬ step t u)
    (ends' : ∀ u, ¬ step t' u) : t = t' := by
  rcases ReflTransGen.total_of_right_unique unique first second with path | path
  · rcases path.cases_head with same | ⟨u, next, -⟩
    · exact same
    · exact absurd next (ends u)
  · rcases path.cases_head with same | ⟨u, next, -⟩
    · exact same.symm
    · exact absurd next (ends' u)

structure Machine (S ε E : Type) where
  answers : S → E → S → Prop
  stops : S → E → ε → Prop
  loops : S → E → Prop

/-- What comes of a list of events: the state after them all, or how the first one that was not answered ended. -/
inductive Machine.Unfolds (M : Machine S ε E) : S → List E → Outcome ε S Unit → Prop where
  | nil (s : S) : Unfolds M s [] (.done () s)
  | answered {s s' : S} {e : E} {es : List E} {o : Outcome ε S Unit} :
      M.answers s e s' → Unfolds M s' es o → Unfolds M s (e :: es) o
  | stopped {s : S} {e : E} {es : List E} {error : ε} : M.stops s e error → Unfolds M s (e :: es) (.fault error)
  | looping {s : S} {e : E} {es : List E} : M.loops s e → Unfolds M s (e :: es) .exhausted

def Machine.Does (M : Machine S ε E) (s : S) (e : E) : Outcome ε S Unit → Prop
  | .done _ s' => M.answers s e s'
  | .fault error => M.stops s e error
  | .exhausted => M.loops s e
  | .undefined => False

/-- With no event a machine does two things. -/
def Machine.Determined (M : Machine S ε E) : Prop :=
  ∀ s e o o', M.Does s e o → M.Does s e o' → o = o'

/-- Then no list of events has two outcomes. -/
theorem Machine.Determined.unfolds {M : Machine S ε E} (determined : M.Determined) {s : S} {es : List E}
    {o o' : Outcome ε S Unit} (first : M.Unfolds s es o) (second : M.Unfolds s es o') : o = o' := by
  induction first with
  | nil s =>
    cases second
    rfl
  | @answered s t e es o answers rest ih =>
    cases second with
    | answered answers' rest' =>
      cases determined s e (.done () _) (.done () _) answers answers'
      exact ih rest'
    | stopped stops => cases determined s e (.done () _) (.fault _) answers stops
    | looping loops => cases determined s e (.done () _) .exhausted answers loops
  | @stopped s e es error stops =>
    cases second with
    | answered answers => cases determined s e (.fault _) (.done () _) stops answers
    | stopped stops' => exact determined s e (.fault _) (.fault _) stops stops'
    | looping loops => cases determined s e (.fault _) .exhausted stops loops
  | @looping s e es loops =>
    cases second with
    | answered answers => cases determined s e .exhausted (.done () _) loops answers
    | stopped stops => cases determined s e .exhausted (.fault _) loops stops
    | looping => rfl

/-- The same outcome, in related states. -/
def Outcome.Matches (R : S → T → Prop) : Outcome ε S Unit → Outcome ε T Unit → Prop
  | .done _ s, .done _ t => R s t
  | .fault error, .fault error' => error = error'
  | .exhausted, .exhausted => True
  | _, _ => False

theorem Outcome.Matches.mono {R R' : S → T → Prop} {o : Outcome ε S Unit} {o' : Outcome ε T Unit} (same : o.Matches R o')
    (weaker : ∀ s t, R s t → R' s t) : o.Matches R' o' := by
  cases o with
  | done value s =>
    cases o' with
    | done value' t => exact weaker s t same
    | fault | undefined | exhausted => exact same
  | fault | undefined | exhausted => cases o' <;> exact same

/-- Related states answer an event alike, and stay related. -/
structure Machine.Bisimulates (M : Machine S ε E) (N : Machine T ε E) (R : S → T → Prop) : Prop where
  forth : ∀ {s t e s'}, R s t → M.answers s e s' → ∃ t', N.answers t e t' ∧ R s' t'
  back : ∀ {s t e t'}, R s t → N.answers t e t' → ∃ s', M.answers s e s' ∧ R s' t'
  stops : ∀ {s t e error}, R s t → (M.stops s e error ↔ N.stops t e error)
  loops : ∀ {s t e}, R s t → (M.loops s e ↔ N.loops t e)

namespace Machine.Bisimulates
variable {M : Machine S ε E} {N : Machine T ε E} {R : S → T → Prop} {s : S} {t : T} {es : List E}

theorem unfolds_forth (similar : Bisimulates M N R) (related : R s t) {o : Outcome ε S Unit} (unfolds : M.Unfolds s es o) :
    ∃ o', N.Unfolds t es o' ∧ o.Matches R o' := by
  induction unfolds generalizing t with
  | nil s => exact ⟨_, .nil t, related⟩
  | answered answers _ ih =>
    obtain ⟨t', answers', related'⟩ := similar.forth related answers
    obtain ⟨o', rest, same⟩ := ih related'
    exact ⟨o', .answered answers' rest, same⟩
  | stopped stops => exact ⟨_, .stopped ((similar.stops related).mp stops), rfl⟩
  | looping loops => exact ⟨_, .looping ((similar.loops related).mp loops), trivial⟩

theorem unfolds_back (similar : Bisimulates M N R) (related : R s t) {o' : Outcome ε T Unit} (unfolds : N.Unfolds t es o') :
    ∃ o, M.Unfolds s es o ∧ o.Matches R o' := by
  induction unfolds generalizing s with
  | nil t => exact ⟨_, .nil s, related⟩
  | answered answers _ ih =>
    obtain ⟨s', answers', related'⟩ := similar.back related answers
    obtain ⟨o, rest, same⟩ := ih related'
    exact ⟨o, .answered answers' rest, same⟩
  | stopped stops => exact ⟨_, .stopped ((similar.stops related).mpr stops), rfl⟩
  | looping loops => exact ⟨_, .looping ((similar.loops related).mpr loops), trivial⟩

end Machine.Bisimulates

/-- A machine that does something with each event, from the states in `I` on, does something with each list of them. -/
theorem Machine.unfolds_total {M : Machine S ε E} {I : S → Prop}
    (total : ∀ s, I s → ∀ e, (∃ s', M.answers s e s' ∧ I s') ∨ (∃ error, M.stops s e error) ∨ M.loops s e) {s : S}
    (holds : I s) (es : List E) : ∃ o, M.Unfolds s es o := by
  induction es generalizing s with
  | nil => exact ⟨_, .nil s⟩
  | cons e es ih =>
    rcases total s holds e with ⟨s', answers, holds'⟩ | ⟨error, stops⟩ | loops
    · obtain ⟨o, rest⟩ := ih holds'
      exact ⟨o, .answered answers rest⟩
    · exact ⟨_, .stopped stops⟩
    · exact ⟨_, .looping loops⟩

end DisastrOS.Refinement
