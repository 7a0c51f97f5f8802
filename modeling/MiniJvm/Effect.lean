/-!
Computations that keep their state when they fail, run one after the other. A sequence succeeds exactly
when each part does, and it fails in the first part that fails, with the state that part leaves.
-/

namespace MiniJvm.Effect

variable {ε σ α β : Type}

theorem bind_ok {first : EStateM ε σ α} {next : α → EStateM ε σ β} {s t : σ} {b : β} :
    (first >>= next) s = .ok b t ↔ ∃ a u, first s = .ok a u ∧ next a u = .ok b t := by
  show EStateM.bind first next s = .ok b t ↔ _
  unfold EStateM.bind
  cases first s <;> simp [and_assoc]

theorem bind_error {first : EStateM ε σ α} {next : α → EStateM ε σ β} {s t : σ} {e : ε} :
    (first >>= next) s = .error e t ↔
      first s = .error e t ∨ ∃ a u, first s = .ok a u ∧ next a u = .error e t := by
  show EStateM.bind first next s = .error e t ↔ _
  unfold EStateM.bind
  cases first s <;> simp [and_assoc]

theorem pure_ok {a b : α} {s t : σ} :
    (pure a : EStateM ε σ α) s = .ok b t ↔ a = b ∧ s = t := by
  show EStateM.pure a s = .ok b t ↔ _
  simp [EStateM.pure]

theorem map_ok {f : α → β} {run : EStateM ε σ α} {s t : σ} {b : β} :
    (f <$> run) s = .ok b t ↔ ∃ a, run s = .ok a t ∧ f a = b := by
  show EStateM.map f run s = .ok b t ↔ _
  unfold EStateM.map
  cases run s <;> simp [and_assoc, and_comm]

theorem ite_ok {p : Prop} [Decidable p] {first second : EStateM ε σ α} {s t : σ} {a : α} :
    (if p then first else second) s = .ok a t ↔ p ∧ first s = .ok a t ∨ ¬ p ∧ second s = .ok a t := by
  by_cases holds : p
  · simp [holds]
  · simp [holds]

theorem except_bind_ok {first : Except ε α} {next : α → Except ε β} {b : β} :
    (first >>= next) = .ok b ↔ ∃ a, first = .ok a ∧ next a = .ok b := by
  cases first <;> simp [bind, Except.bind]

end MiniJvm.Effect
