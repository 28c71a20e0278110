import Mathlib.Data.List.Basic
import Mathlib.Data.Int.Order.Basic

namespace StateFlow.Mailbox

/-- A bounded queue with its history. A capacity below one sets no bound. -/
structure Queue (A : Type) (capacity : Int) where
  accepted : List A
  taken : List A
  waiting : List A
  ledger : accepted = taken ++ waiting
  bounded : 0 < capacity → (waiting.length : Int) ≤ capacity

section Operations
variable {A : Type} {capacity : Int}

def Queue.fresh : Queue A capacity where
  accepted := []
  taken := []
  waiting := []
  ledger := rfl
  bounded positive := by rw [List.length_nil]; omega

/-- There is room in a queue without a bound or below its bound. -/
def Queue.HasRoom (box : Queue A capacity) : Prop :=
  0 < capacity → (box.waiting.length : Int) < capacity

instance (box : Queue A capacity) : Decidable box.HasRoom :=
  inferInstanceAs (Decidable (_ → _))

/-- An offer never waits. A full queue refuses it. -/
def Queue.offer (box : Queue A capacity) (item : A) : Option (Queue A capacity) :=
  if room : box.HasRoom then
    some {
      accepted := box.accepted ++ [item]
      taken := box.taken
      waiting := box.waiting ++ [item]
      ledger := by rw [box.ledger, List.append_assoc]
      bounded := by
        intro positive
        have space := room positive
        simp only [List.length_append, List.length_singleton]
        omega }
  else none

/-- The oldest item leaves the queue first. -/
def Queue.take (box : Queue A capacity) : Option (A × Queue A capacity) :=
  match held : box.waiting with
  | [] => none
  | item :: rest =>
      some (item, {
        accepted := box.accepted
        taken := box.taken ++ [item]
        waiting := rest
        ledger := by rw [box.ledger, held, List.append_assoc]; rfl
        bounded := by
          intro positive
          have space := box.bounded positive
          rw [held, List.length_cons] at space
          omega })

variable {box next : Queue A capacity} {item : A}

theorem offer_eq_some (offered : box.offer item = some next) :
    next.accepted = box.accepted ++ [item] ∧ next.taken = box.taken ∧
      next.waiting = box.waiting ++ [item] := by
  unfold Queue.offer at offered
  split at offered
  · cases offered
    exact ⟨rfl, rfl, rfl⟩
  · cases offered

theorem take_eq_none : box.take = none ↔ box.waiting = [] := by
  unfold Queue.take
  split <;> simp_all

theorem take_eq_some (taken : box.take = some (item, next)) :
    box.waiting = item :: next.waiting ∧ next.accepted = box.accepted ∧
      next.taken = box.taken ++ [item] := by
  unfold Queue.take at taken
  split at taken
  · cases taken
  · rename_i held
    cases taken
    exact ⟨held, rfl, rfl⟩

end Operations

end StateFlow.Mailbox
