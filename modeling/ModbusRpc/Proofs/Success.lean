import Mathlib.Logic.Basic

/-! # Computations that may fail

A computation that may fail succeeds if each of its steps does, and otherwise fails as the first of
its steps that does. The lemmas peel a step off, whatever the faults are. What holds of the faults
of all steps holds of the faults of the whole.
-/

namespace ModbusRpc

variable {ε ε' α β : Type} {x y : Except ε α} {f : α → Except ε β} {a : α} {b : β}
  {e : ε}

theorem bind_eq_ok_iff : (x >>= f) = .ok b ↔ ∃ a, x = .ok a ∧ f a = .ok b := by
  cases x <;> simp [bind, Except.bind]

theorem bind_eq_error_iff :
    (x >>= f) = .error e ↔ x = .error e ∨ ∃ a, x = .ok a ∧ f a = .error e := by
  cases x <;> simp [bind, Except.bind]

theorem ite_eq_ok_iff {p : Prop} [Decidable p] :
    (if p then x else .error e) = .ok a ↔ p ∧ x = .ok a := by
  split <;> simp [*]

@[simp] theorem mapError_ok {g : ε → ε'} : (Except.ok a : Except ε α).mapError g = .ok a := rfl

@[simp] theorem mapError_error {g : ε → ε'} :
    (Except.error e : Except ε α).mapError g = .error (g e) := rfl

theorem mapError_eq_ok_iff {g : ε → ε'} : x.mapError g = .ok a ↔ x = .ok a := by
  cases x <;> simp

def FaultsAre (P : ε → Prop) (x : Except ε α) : Prop := ∀ e, x = .error e → P e

namespace FaultsAre

variable {P : ε → Prop}

theorem ok : FaultsAre P (.ok a : Except ε α) := nofun

theorem error (h : P e) : FaultsAre P (.error e : Except ε α) := by
  rintro _ ⟨⟩
  exact h

theorem bind (hx : FaultsAre P x) (hf : ∀ a, FaultsAre P (f a)) : FaultsAre P (x >>= f) :=
  fun e he => (bind_eq_error_iff.mp he).elim (hx e) fun ⟨a, _, ha⟩ => hf a e ha

theorem ite {p : Prop} [Decidable p] (hx : FaultsAre P x) (hy : FaultsAre P y) :
    FaultsAre P (if p then x else y) := by
  split
  · exact hx
  · exact hy

theorem map {g : α → β} (hx : FaultsAre P x) : FaultsAre P (x.map g) := by
  cases x with
  | ok a => exact .ok
  | error e => exact .error (hx e rfl)

theorem mapError {Q : ε' → Prop} {g : ε → ε'} (h : ∀ e, x = .error e → Q (g e)) :
    FaultsAre Q (x.mapError g) := by
  intro _ he
  cases hx : x with
  | ok a => rw [hx] at he; cases he
  | error e =>
    rw [hx] at he
    cases he
    exact h e hx

end FaultsAre

end ModbusRpc
