import DisastrOS.Refinement.Program

/-! Programs that only read.

A program that updates nothing and makes only quiet calls leaves the state as it
found it, whatever it answers and however often it loops.
-/

set_option autoImplicit false

namespace DisastrOS.Refinement

variable {σ ε : Type} {Op : Type → Type} {α β γ : Type}

/-- No update of the store, and no calls but those in `quiet`. -/
inductive Program.Reads (quiet : (β : Type) → Op β → Prop) : (α : Type) → Program σ ε Op α → Prop where
  | ret {α : Type} (value : α) : Reads quiet α (.ret value)
  | fail {α : Type} (error : ε) : Reads quiet α (.fail error)
  | load {α β : Type} {field : σ → β} {next : β → Program σ ε Op α}
      (rest : ∀ value, Reads quiet α (next value)) : Reads quiet α (.load field next)
  | call {α β : Type} {op : Op β} {next : β → Program σ ε Op α} (silent : quiet β op)
      (rest : ∀ value, Reads quiet α (next value)) : Reads quiet α (.call op next)
  | loop {α β γ : Type} {body : β → Program σ ε Op (β ⊕ γ)} {start : β} {next : γ → Program σ ε Op α}
      (rounds : ∀ value, Reads quiet (β ⊕ γ) (body value))
      (rest : ∀ value, Reads quiet α (next value)) : Reads quiet α (.loop body start next)

/-- A quiet call keeps the data. -/
def DataType.Still (D : DataType Op) (quiet : (β : Type) → Op β → Prop) : Prop :=
  ∀ (β : Type) (op : Op β) (data data' : D.Data) (value : β), quiet β op → D.exec op data = some (value, data') →
    data' = data

namespace Program.Reads
variable {quiet : (β : Type) → Op β → Prop}

theorem bind {program : Program σ ε Op α} {f : α → Program σ ε Op β} (first : Reads quiet α program)
    (rest : ∀ value, Reads quiet β (f value)) : Reads quiet β (program >>= f) := by
  change Reads quiet β (program.bind f)
  induction first with
  | ret value => exact rest value
  | fail error => exact .fail error
  | load next ih => exact .load fun value => ih value rest
  | call silent next ih => exact .call silent fun value => ih value rest
  | loop rounds next _ ih => exact .loop rounds fun value => ih value rest

theorem get (field : σ → β) : Reads quiet β (Program.get field : Program σ ε Op β) :=
  .load fun value => .ret value

theorem perform {op : Op β} (silent : quiet β op) : Reads quiet β (Program.perform op : Program σ ε Op β) :=
  .call silent fun value => .ret value

theorem iterate {body : β → Program σ ε Op (β ⊕ γ)} (start : β) (rounds : ∀ value, Reads quiet (β ⊕ γ) (body value)) :
    Reads quiet γ (.iterate body start) :=
  .loop rounds fun value => .ret value

theorem rounds_still {S : Type} {step : β → S → Outcome ε S (β ⊕ γ)}
    (still : ∀ value state answer state', step value state = .done answer state' → state' = state)
    {fuel : Nat} {value : β} {state state' : S} {result : γ}
    (ends : rounds step fuel value state = .done result state') : state' = state := by
  induction fuel generalizing value state with
  | zero => cases ends
  | succ fuel ih =>
    rw [rounds] at ends
    cases round : step value state with
    | done answer after =>
      have same := still value state answer after round
      subst same
      rw [round] at ends
      cases answer with
      | inl again => exact ih ends
      | inr last =>
        cases ends
        rfl
    | fault error | undefined | exhausted =>
      rw [round] at ends
      cases ends

/-- A program that only reads ends in the state it started from. -/
theorem run {D : DataType Op} (still : D.Still quiet) {fuel : Nat} {program : Program σ ε Op α}
    (reads : Reads quiet α program) {state state' : State σ D.Data} {value : α}
    (ends : program.run D fuel state = .done value state') : state' = state := by
  induction reads generalizing state state' with
  | ret value =>
    cases ends
    rfl
  | fail error => cases ends
  | load next ih => exact ih _ ends
  | @call _ _ op next silent rest ih =>
    rw [Program.run] at ends
    cases answer : D.exec op state.data with
    | none =>
      rw [answer] at ends
      cases ends
    | some result =>
      rw [answer] at ends
      have same := still _ op state.data result.2 result.1 silent answer
      have after := ih _ ends
      rw [same] at after
      exact after
  | @loop _ _ _ body start next bodies rest rounds ih =>
    rw [Program.run] at ends
    cases outcome : Refinement.rounds (fun value state => (body value).run D fuel state) fuel start state with
    | done result after =>
      rw [outcome] at ends
      -- the loop first, then what follows it
      have same : after = state := by
        apply rounds_still _ outcome
        intro value state answer state' round
        exact rounds value round
      have rest_still := ih result ends
      rw [same] at rest_still
      exact rest_still
    | fault error | undefined | exhausted =>
      rw [outcome] at ends
      cases ends

end Program.Reads

end DisastrOS.Refinement
