import Mathlib.Data.List.Basic
import Montage.Session

/-!
# Parts of runs

What a part of a run gives in a session, and the session it leaves behind.
-/

namespace Montage

/-- What a part of a run gives in a session, and the session after it. -/
def Run.on {α : Type} (part : Run α) (s : Session) : Except Failure α × Session := part.run.run s

namespace Run

variable {α β : Type} {part : Run α} {s : Session} {P Q : Except Failure α → Session → Prop}

/-- A part of a run gives a result and leaves a session behind that have a property. -/
def Ensures (part : Run α) (s : Session) (Q : Except Failure α → Session → Prop) : Prop :=
  Q (part.on s).1 (part.on s).2

lemma Ensures.mono (h : part.Ensures s P) (hPQ : ∀ r s', P r s' → Q r s') : part.Ensures s Q :=
  hPQ _ _ h

/-! ### One part after another -/

/-- A run goes on with the state that its first part leaves, unless this fails. -/
lemma on_bind (part : Run α) (next : α → Run β) (s : Session) :
    (part >>= next).on s = match part.on s with
      | (.ok a, s') => (next a).on s'
      | (.error e, s') => (.error e, s') := by
  unfold on
  rw [ExceptT.run_bind, StateT.run_bind]
  rcases part.run.run s with ⟨_ | a, s'⟩ <;> rfl

lemma on_get_bind (next : Session → Run β) (s : Session) :
    (get >>= next).on s = (next s).on s := rfl

lemma discard_bind (part : Run α) (next : Unit → Run β) :
    (discard part >>= next) = part >>= fun _ => next () := by
  rw [discard, map_const]
  exact bind_map_left _ _ _

lemma on_discard (part : Run α) (s : Session) :
    (discard part).on s = (((part.on s).1.map fun _ => ()), (part.on s).2) := by
  have hbind : discard part = part >>= fun _ => pure () := by
    rw [← discard_bind, bind_pure]
  rw [hbind, on_bind]
  rcases part.on s with ⟨_ | a, s'⟩ <;> rfl

/-! ### Failures -/

lemma on_tryCatch (part : Run α) (handle : Failure → Run α) (s : Session) :
    on (tryCatch part handle) s = match part.on s with
      | (.ok a, s') => (.ok a, s')
      | (.error e, s') => (handle e).on s' := by
  unfold on ExceptT.run StateT.run
  simp only [tryCatch, tryCatchThe, MonadExceptOf.tryCatch, ExceptT.tryCatch, ExceptT.mk, bind,
    StateT.bind]
  rcases part s with ⟨_ | a, s'⟩ <;> rfl

/-- Looking at how a part ends does not fail. -/
lemma on_observing (part : Run α) (s : Session) :
    on (observing part) s = (.ok (part.on s).1, (part.on s).2) := by
  rw [observing, on_tryCatch, on_bind]
  rcases part.on s with ⟨_ | a, s'⟩ <;> rfl

/-- Whether a failure in a part is reported, is decided on what the part gives as a whole. -/
lemma on_reporting (part : Run α) (report : Problem → Run Unit) (s : Session) :
    (reporting part report).on s = (orReport (part.on s).1 report).on (part.on s).2 := by
  rw [reporting, on_bind, on_observing]

end Run

end Montage
