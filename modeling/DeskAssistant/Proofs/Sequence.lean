import Mathlib.Tactic.Common

/-!
# Steps that keep a state

Opening a window, reading a session and completing a prompt are made of steps that can fail and that
change a state, which is kept when they fail. One equation for each way to put such steps together
says what a step does to its state, so that no later proof opens the monad.
-/

set_option autoImplicit false
set_option relaxedAutoImplicit false

namespace DeskAssistant.Sequence

variable {ε σ α β : Type} (state : σ)

/-- Two steps in a row: the second starts where the first has ended well. -/
theorem bind_apply (first : ExceptT ε (StateM σ) α) (next : α → ExceptT ε (StateM σ) β) :
    (first >>= next) state =
      match first state with
      | (.ok value, after) => next value after
      | (.error fault, after) => (.error fault, after) := by
  cases hfirst : first state with
  | mk outcome after =>
    simp only [bind, ExceptT.bind, ExceptT.mk, StateT.bind, hfirst]
    cases outcome <;> rfl

/-- Two steps that end well have both ended well. -/
theorem exists_of_bind_eq_ok {state after : σ} {first : ExceptT ε (StateM σ) α}
    {next : α → ExceptT ε (StateM σ) β} {value : β}
    (h : (first >>= next) state = (.ok value, after)) :
    ∃ middle between, first state = (.ok middle, between) ∧
      next middle between = (.ok value, after) := by
  rw [bind_apply] at h
  rcases hfirst : first state with ⟨outcome, between⟩
  rw [hfirst] at h
  cases outcome with
  | ok middle => exact ⟨middle, between, rfl, h⟩
  | error fault => cases h

theorem pure_apply (value : α) :
    (pure value : ExceptT ε (StateM σ) α) state = (.ok value, state) := rfl

theorem map_apply (change : α → β) (step : ExceptT ε (StateM σ) α) :
    (change <$> step) state = ((step state).1.map change, (step state).2) := by
  rw [← bind_pure_comp, bind_apply]
  rcases step state with ⟨outcome, after⟩
  cases outcome <;> rfl

/-- A step that is caught: its failure is handled in the state that it has left. -/
theorem tryCatch_apply (step : ExceptT ε (StateM σ) α) (handle : ε → ExceptT ε (StateM σ) α) :
    (tryCatch step handle) state =
      match step state with
      | (.ok value, after) => (.ok value, after)
      | (.error fault, after) => handle fault after := by
  cases hstep : step state with
  | mk outcome after =>
    simp only [tryCatch, tryCatchThe, MonadExceptOf.tryCatch, ExceptT.tryCatch, ExceptT.mk, bind,
      StateT.bind, hstep]
    cases outcome <;> rfl

end DeskAssistant.Sequence
