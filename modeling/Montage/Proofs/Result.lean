import Mathlib.Tactic.Lemma
import Montage.Failure

/-!
# Results

How results are taken apart: a computation of two steps gives a value just when both steps do, and
fails as the first of them that fails.
-/

namespace Montage

variable {α β ε : Type}

/-- A computation in two parts succeeds if both do. -/
lemma bind_eq_ok_iff {x : Except ε α} {f : α → Except ε β} {b : β} :
    x >>= f = .ok b ↔ ∃ a, x = .ok a ∧ f a = .ok b := by
  cases x with
  | error e => simp [bind, Except.bind]
  | ok a => simp [bind, Except.bind]

/-- A computation in two parts fails if the first does, or the second after it. -/
lemma bind_eq_error_iff {x : Except ε α} {f : α → Except ε β} {e : ε} :
    x >>= f = .error e ↔ x = .error e ∨ ∃ a, x = .ok a ∧ f a = .error e := by
  cases x with
  | error e => simp [bind, Except.bind]
  | ok a => simp [bind, Except.bind]

lemma map_eq_error_iff {x : Except ε α} {f : α → β} {e : ε} :
    x.map f = .error e ↔ x = .error e := by
  cases x <;> simp [Except.map]

/-- What does not succeed fails. -/
lemma not_exists_ok_iff {x : Except ε α} : (¬ ∃ a, x = .ok a) ↔ ∃ e, x = .error e := by
  cases x <;> simp

@[simp] lemma pure_eq_ok_iff {a b : α} : (pure a : Except ε α) = .ok b ↔ a = b := by
  simp [pure, Except.pure]

@[simp] lemma orNumberFailure_eq_ok_iff {x : Except NumberFault α} {a : α} :
    orNumberFailure x = .ok a ↔ x = .ok a := by
  cases x <;> simp [orNumberFailure]

/-- Number arithmetic fails with its own fault, as a failure. -/
@[simp] lemma orNumberFailure_eq_error_iff {x : Except NumberFault α} {e : Failure} :
    orNumberFailure x = .error e ↔ ∃ f, x = .error f ∧ e = .number f := by
  cases x <;> simp [orNumberFailure, eq_comm]

end Montage
