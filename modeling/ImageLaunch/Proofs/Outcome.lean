/-!
# ImageLaunch.Proofs.Outcome

When a computation that may fail succeeds: in sequence if each part does, under other names for
its failures if it did before.
-/

namespace ImageLaunch

variable {ε ε' α β : Type}

/-- A computation that goes on from another's result succeeds if both do. -/
theorem bind_eq_ok_iff {result : Except ε α} {next : α → Except ε β} {value : β} :
    (result >>= next) = .ok value ↔ ∃ first, result = .ok first ∧ next first = .ok value := by
  cases result <;> simp [bind, Except.bind]

/-- A result that is made into another is there if the first one is. -/
theorem map_eq_ok_iff {result : Except ε α} {f : α → β} {value : β} :
    result.map f = .ok value ↔ ∃ first, result = .ok first ∧ f first = value := by
  cases result <;> simp [Except.map]

/-- Another name for its failures does not change what succeeds. -/
theorem mapError_eq_ok_iff {x : Except ε α} {f : ε → ε'} {a : α} :
    x.mapError f = .ok a ↔ x = .ok a := by
  cases x with
  | ok value =>
      constructor <;>
      · intro h
        cases h
        rfl
  | error failure => exact iff_of_false nofun nofun

end ImageLaunch
