import Mathlib.Data.List.Basic

namespace StateFlow.Delivery

variable {A B : Type} (events : List A) (convert : A → Option B)

/-- The items of the events between two positions of a log. -/
def between (first last : Nat) : List B := ((events.take last).drop first).filterMap convert

/-- The items of the events behind a position. -/
def remaining (position : Nat) : List B := (events.drop position).filterMap convert

/-- An attempt delivers items in order. It stays after a part of them, and it moves over events
that it has delivered in full. -/
inductive Attempts : Nat → List (List B) → Nat → Prop
  | done (position : Nat) : Attempts position [] position
  | aborted {position last : Nat} {delivered : List B} {rest : List (List B)}
      (part : delivered <+: remaining events convert position)
      (later : Attempts position rest last) : Attempts position (delivered :: rest) last
  | committed {position next last : Nat} {delivered : List B} {rest : List (List B)}
      (forward : position ≤ next) (whole : delivered = between events convert position next)
      (later : Attempts next rest last) : Attempts position (delivered :: rest) last

variable {events convert} {first middle last : Nat} {deliveries : List (List B)}

theorem between_self (position : Nat) : between events convert position position = [] := by
  unfold between
  rw [List.drop_take_self]
  rfl

/-- The events between two positions split at a position between them. -/
theorem between_append (start : first ≤ middle) (finish : middle ≤ last) :
    between events convert first middle ++ between events convert middle last =
      between events convert first last := by
  have length : last - first = (middle - first) + (last - middle) := by omega
  have skipped : first + (middle - first) = middle := by omega
  unfold between
  rw [List.drop_take, List.drop_take, List.drop_take, length, List.take_add, List.drop_drop,
    skipped, List.filterMap_append]

theorem between_earlier (position next : Nat) :
    between events convert position next <+: remaining events convert position := by
  unfold between remaining
  rw [List.drop_take]
  exact (List.take_prefix _ _).filterMap _

namespace Attempts

theorem forward (attempts : Attempts events convert first deliveries last) : first ≤ last := by
  induction attempts with
  | done position => exact Nat.le_refl position
  | aborted part later ih => exact ih
  | committed forward whole later ih => exact Nat.le_trans forward ih

/-- The attempts deliver the items of all events between their ends, in order. -/
theorem delivers (attempts : Attempts events convert first deliveries last) :
    (between events convert first last).Sublist deliveries.flatten := by
  induction attempts with
  | done position =>
      rw [between_self]
      exact List.Sublist.refl _
  | @aborted position last delivered rest part later ih =>
      rw [List.flatten_cons]
      exact ih.trans (List.sublist_append_right _ _)
  | @committed position next last delivered rest forward whole later ih =>
      rw [List.flatten_cons, ← between_append forward later.forward, whole]
      exact (List.Sublist.refl _).append ih

/-- Each attempt delivers in order from a position that the attempts reach. -/
theorem ordered (attempts : Attempts events convert first deliveries last) :
    ∀ delivered ∈ deliveries, ∃ position, first ≤ position ∧ position ≤ last ∧
      delivered <+: remaining events convert position := by
  induction attempts with
  | done position => exact fun _ member => absurd member List.not_mem_nil
  | @aborted position last delivered rest part later ih =>
      intro other member
      rcases List.mem_cons.mp member with same | listed
      · exact ⟨position, Nat.le_refl _, later.forward, same ▸ part⟩
      · exact ih other listed
  | @committed position next last delivered rest forward whole later ih =>
      intro other member
      rcases List.mem_cons.mp member with same | listed
      · refine ⟨position, Nat.le_refl _, Nat.le_trans forward later.forward, ?_⟩
        rw [same, whole]
        exact between_earlier position next
      · obtain ⟨reached, start, finish, part⟩ := ih other listed
        exact ⟨reached, Nat.le_trans forward start, finish, part⟩

end Attempts

end StateFlow.Delivery
