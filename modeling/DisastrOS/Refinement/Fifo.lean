import Mathlib.Data.List.Basic

/-! First-in first-out buffers, told by what goes in and what comes out.

A step appends at most one item and removes at most one. Whatever the steps are,
the items come out in the order in which they went in.
-/

set_option autoImplicit false

namespace DisastrOS.Refinement

variable {α : Type}

/-- One step of a buffer: `given` goes to its end, and `taken` leaves its front. -/
def Passes (before : List α) (given taken : Option α) (after : List α) : Prop :=
  before ++ given.toList = taken.toList ++ after

@[simp] theorem passes_none {before after : List α} : Passes before none none after ↔ before = after := by
  simp [Passes]

@[simp] theorem passes_given {before after : List α} {x : α} :
    Passes before (some x) none after ↔ before ++ [x] = after := by
  simp [Passes]

@[simp] theorem passes_taken {before after : List α} {x : α} :
    Passes before none (some x) after ↔ before = x :: after := by
  simp [Passes]

/-- A run of a buffer, with what each step gives and takes. -/
inductive Passing : List α → List (Option α × Option α) → List α → Prop where
  | start {first : List α} : Passing first [] first
  | step {first before after : List α} {steps : List (Option α × Option α)} {given taken : Option α} :
      Passing first steps before → Passes before given taken after →
      Passing first (steps ++ [(given, taken)]) after

/-- What was in the buffer and what was given is what was taken and what is left, in this order. -/
theorem Passing.conserves {first last : List α} {steps : List (Option α × Option α)}
    (passing : Passing first steps last) :
    first ++ steps.filterMap Prod.fst = steps.filterMap Prod.snd ++ last := by
  induction passing with
  | start => simp
  | @step before after steps given taken passing passes ih =>
    have fst : [(given, taken)].filterMap Prod.fst = given.toList := by cases given <;> rfl
    have snd : [(given, taken)].filterMap Prod.snd = taken.toList := by cases taken <;> rfl
    rw [List.filterMap_append, List.filterMap_append, fst, snd]
    calc first ++ (steps.filterMap Prod.fst ++ given.toList)
        = steps.filterMap Prod.snd ++ (before ++ given.toList) := by
          rw [← List.append_assoc, ih, List.append_assoc]
      _ = steps.filterMap Prod.snd ++ (taken.toList ++ after) := by rw [passes]
      _ = steps.filterMap Prod.snd ++ taken.toList ++ after := (List.append_assoc ..).symm

end DisastrOS.Refinement
