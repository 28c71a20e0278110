import StateFlow.Library.Simulation

namespace StateFlow.Effect

variable {ε σ α β ι : Type}

/-- A property of computations that pure results have and that sequences keep. -/
structure ProgramLogic (ε σ : Type) where
  holds : {α : Type} → EStateM ε σ α → Prop
  pure : ∀ {α : Type} (value : α), holds (pure value)
  throw : ∀ {α : Type} (error : ε), holds (throw error : EStateM ε σ α)
  lift : ∀ {α : Type} (result : Except ε α), holds (lift result)
  bind : ∀ {α β : Type} {program : EStateM ε σ α} {next : α → EStateM ε σ β}, holds program →
    (∀ value, holds (next value)) → holds (program >>= next)

namespace ProgramLogic
variable (logic : ProgramLogic ε σ)

theorem seq {program : EStateM ε σ Unit} {next : EStateM ε σ β} (first : logic.holds program)
    (rest : logic.holds next) : logic.holds (do program; next) :=
  logic.bind first fun _ => rest

theorem ite {condition : Prop} [Decidable condition] {first second : EStateM ε σ α}
    (positive : condition → logic.holds first) (negative : ¬ condition → logic.holds second) :
    logic.holds (if condition then first else second) := by
  split
  · exact positive ‹_›
  · exact negative ‹_›

theorem forM {items : List ι} {body : ι → EStateM ε σ PUnit}
    (each : ∀ item, logic.holds (body item)) : logic.holds (items.forM body) := by
  induction items with
  | nil => exact logic.pure PUnit.unit
  | cons item rest ih => exact logic.bind (each item) fun _ => ih

/-- The computations inside a frame. -/
def within (frame : Frame σ) : ProgramLogic ε σ where
  holds := Within frame
  pure := within_pure
  throw := within_throw
  lift := within_lift
  bind := within_bind

/-- The computations that respect a relation of states. -/
def respects (related : σ → σ → Prop) : ProgramLogic ε σ where
  holds := Respects related
  pure := respects_pure
  throw := respects_throw
  lift := respects_lift
  bind := respects_bind

end ProgramLogic

end StateFlow.Effect
