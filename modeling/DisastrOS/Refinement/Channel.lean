import Mathlib.Data.List.DropRight

/-! Bounded channels whose parties wait for an item or for room.

A party that stops waiting takes no item with it: it is only told to go on. Who
waits is therefore decided by the last item that was passed.
-/

set_option autoImplicit false

namespace DisastrOS.Refinement

/-- The items under way, and who waits for one or for room, each in order. -/
structure Channel (α π : Type) where
  items : List α
  receivers : List π
  senders : List π

namespace Channel

variable {α π : Type} {capacity : Nat}

inductive Act (α π : Type) where
  | send (item : α)
  | receive (item : α)
  | awaitItem (party : π)
  | awaitRoom (party : π)

namespace Act

def sent : Act α π → Option α
  | .send item => some item
  | _ => none

def received : Act α π → Option α
  | .receive item => some item
  | _ => none

def receiver : Act α π → Option π
  | .awaitItem party => some party
  | _ => none

def sender : Act α π → Option π
  | .awaitRoom party => some party
  | _ => none

end Act

def empty : Channel α π := ⟨[], [], []⟩

/-- An item needs room, and only for want of an item or of room does a party wait. -/
def Allows (capacity : Nat) (C : Channel α π) : Act α π → Prop
  | .send _ => C.items.length < capacity
  | .receive item => C.items.head? = some item
  | .awaitItem _ => C.items = []
  | .awaitRoom _ => C.items.length = capacity

/-- An item sends all receivers on, and the room it leaves all senders. -/
def act (C : Channel α π) : Act α π → Channel α π
  | .send item => { C with items := C.items ++ [item], receivers := [] }
  | .receive _ => { C with items := C.items.tail, senders := [] }
  | .awaitItem party => { C with receivers := C.receivers ++ [party] }
  | .awaitRoom party => { C with senders := C.senders ++ [party] }

/-- What a step that may act does to the channel. -/
def Follows (capacity : Nat) (C : Channel α π) (step : Option (Act α π)) (C' : Channel α π) : Prop :=
  match step with
  | none => C' = C
  | some a => C.Allows capacity a ∧ C' = C.act a

/-- The actions of a channel since it was empty. -/
inductive Runs (capacity : Nat) : List (Act α π) → Channel α π → Prop where
  | start : Runs capacity [] empty
  | act {acts : List (Act α π)} {C : Channel α π} {a : Act α π} :
      Runs capacity acts C → C.Allows capacity a → Runs capacity (acts ++ [a]) (C.act a)

theorem Runs.follows {acts : List (Act α π)} {C C' : Channel α π} {step : Option (Act α π)}
    (runs : Runs capacity acts C) (follows : C.Follows capacity step C') : Runs capacity (acts ++ step.toList) C' := by
  cases step with
  | none =>
    obtain rfl := follows
    simpa using runs
  | some a =>
    obtain ⟨allowed, rfl⟩ := follows
    exact runs.act allowed

/-- Who waits for an item has done so since the last one was sent. -/
theorem Runs.receivers {acts : List (Act α π)} {C : Channel α π} (runs : Runs capacity acts C) :
    C.receivers = (acts.rtakeWhile fun a => a.sent.isNone).filterMap Act.receiver := by
  induction runs with
  | start => rfl
  | @act acts C a runs allowed ih =>
    cases a with
    | send item =>
      rw [List.rtakeWhile_concat_neg _ _ _ Bool.false_ne_true]
      rfl
    | receive item | awaitRoom party =>
      rw [List.rtakeWhile_concat_pos _ _ _ rfl, List.filterMap_append, ← ih]
      exact (List.append_nil _).symm
    | awaitItem party =>
      rw [List.rtakeWhile_concat_pos _ _ _ rfl, List.filterMap_append, ← ih]
      rfl

/-- Who waits for room has done so since the last item was received. -/
theorem Runs.senders {acts : List (Act α π)} {C : Channel α π} (runs : Runs capacity acts C) :
    C.senders = (acts.rtakeWhile fun a => a.received.isNone).filterMap Act.sender := by
  induction runs with
  | start => rfl
  | @act acts C a runs allowed ih =>
    cases a with
    | receive item =>
      rw [List.rtakeWhile_concat_neg _ _ _ Bool.false_ne_true]
      rfl
    | send item | awaitItem party =>
      rw [List.rtakeWhile_concat_pos _ _ _ rfl, List.filterMap_append, ← ih]
      exact (List.append_nil _).symm
    | awaitRoom party =>
      rw [List.rtakeWhile_concat_pos _ _ _ rfl, List.filterMap_append, ← ih]
      rfl

end Channel

end DisastrOS.Refinement
