import Mathlib.Logic.Function.Basic

/-! Programs over a store and an abstract data type, and data refinement.

A program reads and writes a store, may fail with an error, calls the
operations of a data type and loops. Nothing here fixes the store, the errors
or the operations: a data type is given by a state and one function per
operation, so one program text runs on a concrete representation and on an
abstract one. A call outside the contract of the data type has no result.
-/

set_option autoImplicit false

namespace DisastrOS.Refinement

universe u

inductive Program (σ ε : Type) (Op : Type → Type) : Type → Type 1 where
  | ret {α : Type} (value : α) : Program σ ε Op α
  | fail {α : Type} (error : ε) : Program σ ε Op α
  | load {α β : Type} (field : σ → β) (next : β → Program σ ε Op α) : Program σ ε Op α
  | store {α : Type} (update : σ → σ) (next : Program σ ε Op α) : Program σ ε Op α
  | call {α β : Type} (op : Op β) (next : β → Program σ ε Op α) : Program σ ε Op α
  | loop {α β γ : Type} (body : β → Program σ ε Op (β ⊕ γ)) (start : β)
      (next : γ → Program σ ε Op α) : Program σ ε Op α

variable {σ ε : Type} {Op : Type → Type} {α β γ : Type}

namespace Program

def bind {α β : Type} : Program σ ε Op α → (α → Program σ ε Op β) → Program σ ε Op β
  | .ret value, f => f value
  | .fail error, _ => .fail error
  | .load field next, f => .load field fun value => bind (next value) f
  | .store update next, f => .store update (bind next f)
  | .call op next, f => .call op fun value => bind (next value) f
  | .loop body start next, f => .loop body start fun value => bind (next value) f

instance : Monad (Program σ ε Op) where
  pure := .ret
  bind := .bind

def get (field : σ → β) : Program σ ε Op β := .load field .ret
def modify (update : σ → σ) : Program σ ε Op Unit := .store update (.ret ())
def perform (op : Op β) : Program σ ε Op β := .call op .ret

def iterate (body : β → Program σ ε Op (β ⊕ γ)) (start : β) : Program σ ε Op γ :=
  .loop body start .ret

end Program

structure State (σ μ : Type) where
  store : σ
  data : μ

/-- `undefined` is a call outside the contract; `exhausted` is a loop that was
given fewer iterations than it asked for. -/
inductive Outcome (ε S α : Type) where
  | done (value : α) (state : S)
  | fault (error : ε)
  | undefined
  | exhausted

def Outcome.bind {S : Type} (outcome : Outcome ε S α) (f : α → S → Outcome ε S β) :
    Outcome ε S β :=
  match outcome with
  | .done value state => f value state
  | .fault error => .fault error
  | .undefined => .undefined
  | .exhausted => .exhausted

/-- A data type with operations `Op`; `none` is a call outside the contract. -/
structure DataType (Op : Type → Type) where
  Data : Type
  exec : {β : Type} → Op β → Data → Option (β × Data)

def rounds {S : Type} (step : β → S → Outcome ε S (β ⊕ γ)) : Nat → β → S → Outcome ε S γ
  | 0, _, _ => .exhausted
  | fuel + 1, value, state => (step value state).bind fun
      | .inl again, state => rounds step fuel again state
      | .inr result, state => .done result state

def Program.run (D : DataType Op) (fuel : Nat) {α : Type} :
    Program σ ε Op α → State σ D.Data → Outcome ε (State σ D.Data) α
  | .ret value, state => .done value state
  | .fail error, _ => .fault error
  | .load field next, state => (next (field state.store)).run D fuel state
  | .store update next, state => next.run D fuel { state with store := update state.store }
  | .call op next, state =>
      match D.exec op state.data with
      | some (value, data) => (next value).run D fuel { state with data := data }
      | none => .undefined
  | .loop body start next, state =>
      (rounds (fun value state => (body value).run D fuel state) fuel start state).bind
        fun value state => (next value).run D fuel state

section Run
variable (D : DataType Op) (fuel : Nat)

@[simp] theorem Program.run_pure (value : α) (state : State σ D.Data) :
    (pure value : Program σ ε Op α).run D fuel state = .done value state := rfl

theorem Outcome.bind_assoc {S : Type} (outcome : Outcome ε S α) (f : α → S → Outcome ε S β)
    (g : β → S → Outcome ε S γ) :
    (outcome.bind f).bind g = outcome.bind fun value state => (f value state).bind g := by
  cases outcome <;> rfl

theorem Program.run_bind (program : Program σ ε Op α) (f : α → Program σ ε Op β)
    (state : State σ D.Data) :
    (program >>= f).run D fuel state =
      (program.run D fuel state).bind fun value state => (f value).run D fuel state := by
  change (program.bind f).run D fuel state = _
  induction program generalizing state with
  | ret value => rfl
  | fail error => rfl
  | load field next ih => exact ih _ f state
  | store update next ih => exact ih f _
  | call op next ih =>
    simp only [Program.bind, Program.run]
    cases D.exec op state.data with
    | none => rfl
    | some result => exact ih _ f _
  | loop body start next _ ih =>
    simp only [Program.bind, Program.run, Outcome.bind_assoc]
    congr 1
    funext value state
    exact ih value f state

end Run

/-! ## More fuel changes no result -/

def Outcome.Extends {S : Type} (less more : Outcome ε S α) : Prop :=
  less = .exhausted ∨ more = less

theorem Outcome.Extends.bind {S : Type} {less more : Outcome ε S α}
    {f g : α → S → Outcome ε S β} (first : less.Extends more)
    (rest : ∀ value state, (f value state).Extends (g value state)) :
    (less.bind f).Extends (more.bind g) := by
  rcases first with rfl | rfl
  · exact .inl rfl
  · cases more with
    | done value state => exact rest value state
    | fault error => exact .inr rfl
    | undefined => exact .inr rfl
    | exhausted => exact .inr rfl

theorem rounds_extends {S : Type} {f g : β → S → Outcome ε S (β ⊕ γ)} {less more : Nat}
    (fuel : less ≤ more) (step : ∀ value state, (f value state).Extends (g value state))
    (value : β) (state : S) :
    (rounds f less value state).Extends (rounds g more value state) := by
  induction less generalizing more value state with
  | zero => exact .inl rfl
  | succ less ih =>
    obtain ⟨more, rfl⟩ : ∃ n, more = n + 1 := ⟨more - 1, by omega⟩
    apply (step value state).bind
    intro answer state
    cases answer with
    | inl again => exact ih (Nat.le_of_succ_le_succ fuel) again state
    | inr result => exact .inr rfl

theorem Program.run_extends (D : DataType Op) {less more : Nat} (fuel : less ≤ more)
    (program : Program σ ε Op α) (state : State σ D.Data) :
    (program.run D less state).Extends (program.run D more state) := by
  induction program generalizing state with
  | ret value => exact .inr rfl
  | fail error => exact .inr rfl
  | load field next ih => exact ih _ state
  | store update next ih => exact ih _
  | call op next ih =>
    simp only [Program.run]
    cases D.exec op state.data with
    | none => exact .inr rfl
    | some result => exact ih _ _
  | loop body start next bodies ih =>
    exact (rounds_extends fuel (fun value state => bodies value state) start state).bind
      fun value state => ih value state

/-! ## Data refinement -/

/-- Every call inside the contract of the abstract type has the same answer on
the concrete one, and leaves related representations. -/
structure Refines (C A : DataType Op) (R : C.Data → A.Data → Prop) : Prop where
  sim : ∀ {β : Type} (op : Op β) (c : C.Data) (a a' : A.Data) (value : β),
    R c a → A.exec op a = some (value, a') → ∃ c', C.exec op c = some (value, c') ∧ R c' a'

def Outcome.Simulates {C A : Type} (R : C → A → Prop)
    (concrete : Outcome ε (State σ C) α) (abstract : Outcome ε (State σ A) α) : Prop :=
  match abstract with
  | .done value state => ∃ data, concrete = .done value ⟨state.store, data⟩ ∧ R data state.data
  | .fault error => concrete = .fault error
  | .exhausted => concrete = .exhausted
  | .undefined => True

theorem Outcome.Simulates.bind {C A : Type} {R : C → A → Prop}
    {concrete : Outcome ε (State σ C) α} {abstract : Outcome ε (State σ A) α}
    {f : α → State σ C → Outcome ε (State σ C) β} {g : α → State σ A → Outcome ε (State σ A) β}
    (first : concrete.Simulates R abstract)
    (rest : ∀ value store c a, R c a → (f value ⟨store, c⟩).Simulates R (g value ⟨store, a⟩)) :
    (concrete.bind f).Simulates R (abstract.bind g) := by
  cases abstract with
  | done value state =>
    obtain ⟨data, rfl, related⟩ := first
    exact rest value _ _ _ related
  | fault error => cases first; rfl
  | exhausted => cases first; rfl
  | undefined => trivial

theorem rounds_simulates {C A : Type} {R : C → A → Prop}
    {f : β → State σ C → Outcome ε (State σ C) (β ⊕ γ)}
    {g : β → State σ A → Outcome ε (State σ A) (β ⊕ γ)}
    (step : ∀ value store c a, R c a → (f value ⟨store, c⟩).Simulates R (g value ⟨store, a⟩))
    (fuel : Nat) (value : β) (store : σ) (c : C) (a : A) (related : R c a) :
    (rounds f fuel value ⟨store, c⟩).Simulates R (rounds g fuel value ⟨store, a⟩) := by
  induction fuel generalizing value store c a with
  | zero => exact rfl
  | succ fuel ih =>
    apply (step value store c a related).bind
    intro answer store c a related
    cases answer with
    | inl again => exact ih again store c a related
    | inr result => exact ⟨c, rfl, related⟩

/-- A program cannot tell a data type from one that refines it. -/
theorem Refines.run {C A : DataType Op} {R : C.Data → A.Data → Prop} (refines : Refines C A R)
    (fuel : Nat) (program : Program σ ε Op α) (store : σ) (c : C.Data) (a : A.Data)
    (related : R c a) :
    (program.run C fuel ⟨store, c⟩).Simulates R (program.run A fuel ⟨store, a⟩) := by
  induction program generalizing store c a with
  | ret value => exact ⟨c, rfl, related⟩
  | fail error => exact rfl
  | load field next ih => exact ih _ store c a related
  | store update next ih => exact ih _ c a related
  | call op next ih =>
    simp only [Program.run]
    cases answer : A.exec op a with
    | none => trivial
    | some result =>
      obtain ⟨c', found, related'⟩ := refines.sim op c a result.2 result.1 related answer
      rw [found]
      exact ih _ store c' result.2 related'
  | loop body start next bodies ih =>
    exact (rounds_simulates (fun value store c a => bodies value store c a) fuel start store c a
      related).bind fun value store c a => ih value store c a

/-! ## Weakest preconditions -/

/-- What an outcome must satisfy: `Q` when it is done, `E` when it fails or, with
no error, when its fuel is exhausted. A run that leaves the contract satisfies
nothing. -/
def Outcome.Sat {S : Type} (outcome : Outcome ε S α) (Q : α → S → Prop) (E : Option ε → Prop) :
    Prop :=
  match outcome with
  | .done value state => Q value state
  | .fault error => E (some error)
  | .undefined => False
  | .exhausted => E none

theorem Outcome.Sat.mono {S : Type} {outcome : Outcome ε S α} {Q Q' : α → S → Prop}
    {E E' : Option ε → Prop} (sat : outcome.Sat Q E)
    (post : ∀ value state, Q value state → Q' value state)
    (fault : ∀ error, E error → E' error) : outcome.Sat Q' E' := by
  cases outcome with
  | done value state => exact post value state sat
  | fault error => exact fault (some error) sat
  | undefined => exact sat
  | exhausted => exact fault none sat

theorem Outcome.Sat.done {S : Type} {outcome : Outcome ε S α} {Q : α → S → Prop}
    (sat : outcome.Sat Q fun _ => False) : ∃ value state, outcome = .done value state ∧ Q value state := by
  cases outcome with
  | done value state => exact ⟨value, state, rfl, sat⟩
  | fault error => exact sat.elim
  | undefined => exact sat.elim
  | exhausted => exact sat.elim

theorem Outcome.sat_bind {S : Type} (outcome : Outcome ε S α) (f : α → S → Outcome ε S β)
    (Q : β → S → Prop) (E : Option ε → Prop) :
    (outcome.bind f).Sat Q E ↔ outcome.Sat (fun value state => (f value state).Sat Q E) E := by
  cases outcome <;> rfl

/-- With this fuel `program` ends in a state in `Q` or abnormally as `E` allows. -/
def wp (D : DataType Op) (fuel : Nat) (program : Program σ ε Op α)
    (Q : α → State σ D.Data → Prop) (E : Option ε → Prop) (state : State σ D.Data) : Prop :=
  (program.run D fuel state).Sat Q E

section Rules
variable {D : DataType Op} {fuel : Nat} {Q : β → State σ D.Data → Prop} {E : Option ε → Prop}
  {state : State σ D.Data}

@[simp] theorem wp_pure (value : β) :
    wp D fuel (pure value : Program σ ε Op β) Q E state ↔ Q value state := Iff.rfl

@[simp] theorem wp_fail (error : ε) :
    wp D fuel (.fail error : Program σ ε Op β) Q E state ↔ E (some error) := Iff.rfl

@[simp] theorem wp_bind (program : Program σ ε Op α) (f : α → Program σ ε Op β) :
    wp D fuel (program >>= f) Q E state ↔
      wp D fuel program (fun value state => wp D fuel (f value) Q E state) E state := by
  unfold wp
  rw [Program.run_bind, Outcome.sat_bind]

@[simp] theorem wp_get (field : σ → β) :
    wp D fuel (.get field : Program σ ε Op β) Q E state ↔ Q (field state.store) state := Iff.rfl

@[simp] theorem wp_modify {Q : Unit → State σ D.Data → Prop} (update : σ → σ) :
    wp D fuel (.modify update : Program σ ε Op Unit) Q E state ↔
      Q () { state with store := update state.store } := Iff.rfl

theorem wp_perform (op : Op β) :
    wp D fuel (.perform op : Program σ ε Op β) Q E state ↔
      ∃ value data, D.exec op state.data = some (value, data) ∧
        Q value { state with data := data } := by
  simp only [wp, Program.perform, Program.run]
  cases D.exec op state.data with
  | none => simp [Outcome.Sat]
  | some result =>
    constructor
    · intro holds
      exact ⟨_, _, rfl, holds⟩
    · rintro ⟨value, data, same, holds⟩
      cases same
      exact holds

@[simp] theorem wp_ite {c : Prop} [Decidable c] (p q : Program σ ε Op β) :
    wp D fuel (if c then p else q) Q E state ↔
      if c then wp D fuel p Q E state else wp D fuel q Q E state := by
  split <;> rfl

theorem wp_mono {Q' : β → State σ D.Data → Prop} {E' : Option ε → Prop} {program : Program σ ε Op β}
    (holds : wp D fuel program Q E state) (post : ∀ value state, Q value state → Q' value state)
    (fault : ∀ error, E error → E' error) : wp D fuel program Q' E' state :=
  Outcome.Sat.mono holds post fault

/-- A loop with an invariant that bounds the rounds left, below the fuel at the start. -/
theorem wp_iterate {body : α → Program σ ε Op (α ⊕ β)} (I : Nat → α → State σ D.Data → Prop)
    (round : ∀ n value state, I n value state →
      wp D fuel (body value) (fun answer next => match answer with
        | .inl again => ∃ m < n, I m again next
        | .inr result => Q result next) E state)
    {n : Nat} (enough : n < fuel) (start : α) (init : I n start state) :
    wp D fuel (.iterate body start : Program σ ε Op β) Q E state := by
  have all : ∀ limit n value state, n < limit → I n value state →
      (rounds (fun value state => (body value).run D fuel state) limit value state).Sat Q E := by
    intro limit
    induction limit with
    | zero => intro n value state small; omega
    | succ limit ih =>
      intro n value state small holds
      simp only [rounds, Outcome.sat_bind]
      refine Outcome.Sat.mono (round n value state holds) (fun answer next after => ?_) fun _ h => h
      cases answer with
      | inl again =>
        obtain ⟨m, less, holds⟩ := after
        exact ih m again next (by omega) holds
      | inr result => exact after
  simp only [wp, Program.iterate, Program.run, Outcome.sat_bind]
  exact Outcome.Sat.mono (all fuel n start state enough init) (fun _ _ h => h) fun _ h => h

/-- A loop whose rounds never answer on the right exhausts any fuel. -/
theorem wp_iterate_forever {body : α → Program σ ε Op (α ⊕ β)}
    (I : α → State σ D.Data → Prop)
    (round : ∀ value state, I value state →
      wp D fuel (body value) (fun answer next => match answer with
        | .inl again => I again next
        | .inr _ => False) E state)
    (never : E none) (start : α) (init : I start state) :
    wp D fuel (.iterate body start : Program σ ε Op β) Q E state := by
  have all : ∀ n value state, I value state →
      (rounds (fun value state => (body value).run D fuel state) n value state).Sat Q E := by
    intro n
    induction n with
    | zero => intro value state holds; exact never
    | succ n ih =>
      intro value state holds
      simp only [rounds, Outcome.sat_bind]
      refine Outcome.Sat.mono (round value state holds) (fun answer next after => ?_) fun _ h => h
      cases answer with
      | inl again => exact ih again next after
      | inr result => exact after.elim
  simp only [wp, Program.iterate, Program.run, Outcome.sat_bind]
  exact Outcome.Sat.mono (all fuel start state init) (fun _ _ h => h) fun _ h => h

end Rules

end DisastrOS.Refinement
