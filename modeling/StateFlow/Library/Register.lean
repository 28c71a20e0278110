import Mathlib.Data.List.MinMax
import StateFlow.Library.Effect

namespace StateFlow.Register
open Effect

variable {α β : Type} [LinearOrder β]

/-- A register keeps the item of the higher rank, and the held one among equals. -/
def keep (rank : α → β) : Option α → α → Option α
  | none, item => some item
  | some held, item => if rank held < rank item then some item else some held

/-- A register that starts empty ends with an item of the highest rank. -/
theorem foldl_keep (rank : α → β) (items : List α) :
    items.foldl (keep rank) none = items.argmax rank := by
  have same : keep rank = List.argAux fun later earlier => rank earlier < rank later := by
    funext held item
    cases held <;> rfl
  rw [same]
  rfl

/-- Every register keeps an item that it held or that it met. -/
theorem mem_of_keep {rank : α → β} {held : Option α} {item kept : α}
    (ends : keep rank held item = some kept) : kept = item ∨ held = some kept := by
  cases held with
  | none => exact Or.inl (Option.some.inj ends).symm
  | some first =>
      simp only [keep] at ends
      split at ends
      · exact Or.inl (Option.some.inj ends).symm
      · exact Or.inr ends

/-- An item wins over the items of lower ranks and over itself. -/
def Wins (rank : α → β) (items : List α) (winner : α) : Prop :=
  winner ∈ items ∧ ∀ item ∈ items, rank item ≤ rank winner

theorem wins_of_argmax {rank : α → β} {items : List α} {winner : α}
    (best : items.argmax rank = some winner) : Wins rank items winner :=
  ⟨List.argmax_mem best, fun _ member => List.le_of_mem_argmax member best⟩

theorem exists_wins (rank : α → β) {items : List α} (nonempty : items ≠ []) :
    ∃ winner, Wins rank items winner := by
  cases best : items.argmax rank with
  | none => exact absurd (List.argmax_eq_none.mp best) nonempty
  | some winner => exact ⟨winner, wins_of_argmax best⟩

/-- The order of the items does not matter when their ranks are apart. -/
theorem argmax_of_wins {rank : α → β} {items delivered : List α} {winner : α}
    (apart : ∀ first ∈ items, ∀ second ∈ items, rank first = rank second → first = second)
    (wins : Wins rank items winner) (order : delivered.Perm items) :
    delivered.argmax rank = some winner := by
  cases best : delivered.argmax rank with
  | none =>
      rw [List.argmax_eq_none.mp best] at order
      exact absurd (order.mem_iff.mpr wins.1) List.not_mem_nil
  | some other =>
      have wonOther := wins_of_argmax best
      have member := order.mem_iff.mp wonOther.1
      have equal : rank other = rank winner :=
        le_antisymm (wins.2 other member) (wonOther.2 winner (order.mem_iff.mpr wins.1))
      rw [apart other member winner wins.1 equal]

section Runs
variable {ε σ γ : Type} {rank : α → β} {deliver : α → EStateM ε σ γ} {Allowed : α → Prop}
  {Holds : Option α → σ → Prop}

/-- One delivery moves the register of the allowed items. -/
def Delivers (rank : α → β) (deliver : α → EStateM ε σ γ) (Allowed : α → Prop)
    (Holds : Option α → σ → Prop) : Prop :=
  ∀ held item, (∀ kept ∈ held, Allowed kept) → Allowed item →
    Returns (Holds held) (deliver item) fun _ => Holds (keep rank held item)

theorem allowed_keep {held : Option α} {item : α} (heldAllowed : ∀ kept ∈ held, Allowed kept)
    (allowed : Allowed item) : ∀ kept ∈ keep rank held item, Allowed kept := by
  intro kept ends
  rcases mem_of_keep ends with same | old
  · exact same ▸ allowed
  · exact heldAllowed kept old

theorem allowed_foldl {held : Option α} {items : List α}
    (heldAllowed : ∀ kept ∈ held, Allowed kept) (allowed : ∀ item ∈ items, Allowed item) :
    ∀ kept ∈ items.foldl (keep rank) held, Allowed kept := by
  induction items generalizing held with
  | nil => exact heldAllowed
  | cons item rest ih =>
      exact ih (allowed_keep heldAllowed (allowed item List.mem_cons_self))
        fun later member => allowed later (List.mem_cons_of_mem _ member)

/-- A sequence of deliveries moves the register through all its items. -/
theorem returns_items (delivers : Delivers rank deliver Allowed Holds) (items : List α)
    (held : Option α) (heldAllowed : ∀ kept ∈ held, Allowed kept)
    (allowed : ∀ item ∈ items, Allowed item) :
    Returns (Holds held) (items.mapM deliver) fun _ => Holds (items.foldl (keep rank) held) := by
  induction items generalizing held with
  | nil => exact returns_pure fun _ start => start
  | cons item rest ih =>
      have here := allowed item List.mem_cons_self
      rw [List.mapM_cons]
      apply returns_bind (delivers held item heldAllowed here)
      intro result
      apply returns_bind (ih _ (allowed_keep heldAllowed here)
        fun later member => allowed later (List.mem_cons_of_mem _ member))
      intro results
      exact returns_pure fun _ ends => ends

/-- The batches of a delivery do not matter. -/
theorem returns_batches (delivers : Delivers rank deliver Allowed Holds) (batches : List (List α))
    (held : Option α) (heldAllowed : ∀ kept ∈ held, Allowed kept)
    (allowed : ∀ item ∈ batches.flatten, Allowed item) :
    Returns (Holds held) (batches.mapM fun batch => batch.mapM deliver)
      fun _ => Holds (batches.flatten.foldl (keep rank) held) := by
  induction batches generalizing held with
  | nil => exact returns_pure fun _ start => start
  | cons batch rest ih =>
      have here : ∀ item ∈ batch, Allowed item := fun item member =>
        allowed item (List.mem_append_left _ member)
      rw [List.mapM_cons]
      apply returns_bind (returns_items delivers batch held heldAllowed here)
      intro result
      apply returns_bind (ih _ (allowed_foldl heldAllowed here)
        fun later member => allowed later (List.mem_append_right _ member))
      intro results
      refine returns_pure fun _ ends => ?_
      rw [List.flatten_cons, List.foldl_append]
      exact ends

/-- Every order and every batching of the items ends with the winner. -/
theorem returns_winner (delivers : Delivers rank deliver Allowed Holds) {items : List α}
    {batches : List (List α)} {winner : α}
    (apart : ∀ first ∈ items, ∀ second ∈ items, rank first = rank second → first = second)
    (allowed : ∀ item ∈ items, Allowed item) (wins : Wins rank items winner)
    (order : batches.flatten.Perm items) :
    Returns (Holds none) (batches.mapM fun batch => batch.mapM deliver)
      fun _ => Holds (some winner) := by
  have ran := returns_batches delivers batches none (fun _ absent => by cases absent)
    fun item member => allowed item (order.mem_iff.mp member)
  rw [foldl_keep, argmax_of_wins apart wins order] at ran
  exact ran

end Runs

end StateFlow.Register
