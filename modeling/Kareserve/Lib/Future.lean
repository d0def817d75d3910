/-
asyncio futures, each with the one task that awaits it.

# Cancelling a task that awaits a future

`task.cancel()` cancels the awaited future if that is still pending, and
everyone who holds the future can see it. If the future is already done,
though its task has not run since, there is nothing to cancel: the task
is marked instead (`mustCancel`) and raises `CancelledError` when it next
runs, without reading the future. To the holder of the future nothing has
changed, and a result in it is lost.

# Results

A waiter whose future holds a result either will return it or has, or has
lost it (`Waiter.delivered_or_lost`). Nothing the task does afterwards
turns one into the other but a cancellation before it runs
(`Waiter.Delivered.resume`, `Waiter.Lost.cancel`, `Waiter.Lost.resume`).
-/
import Mathlib.Data.Bool.Basic

namespace Asyncio

variable {α ε : Type*}

-- ============================================================== futures

/-- `asyncio.Future`, with results in `α` and exceptions in `ε`. -/
inductive Future (α ε : Type*) where
  | pending
  | cancelled
  | result (value : α)
  | exception (error : ε)
  deriving DecidableEq

/-- `done()`. -/
def Future.done : Future α ε → Bool
  | .pending => false
  | _ => true

def Future.hasResult : Future α ε → Bool
  | .result _ => true
  | _ => false

theorem Future.hasResult_eq_false {future : Future α ε} :
    future.hasResult = false ↔ ∀ value, future ≠ .result value := by
  cases future with
  | result value =>
      exact iff_of_false Bool.noConfusion fun hne => hne value rfl
  | _ => exact iff_of_true rfl fun value hvalue => by cases hvalue

/-- The task that awaits a future, `none` for a `CancelledError`. -/
inductive Task (α ε : Type*) where
  | awaiting (mustCancel : Bool)
  | returned (value : α)
  | raised (error : Option ε)
  deriving DecidableEq

/-- A task can have been marked, or have run on, only if the future is
done, and it returns what the future holds. -/
def Task.Fits : Task α ε → Future α ε → Prop
  | .awaiting mustCancel, future => mustCancel = true → future.done = true
  | .returned value, future => future = .result value
  | .raised _, future => future.done = true

/-- A future and the task that awaits it. -/
structure Waiter (α ε : Type*) where
  future : Future α ε
  task : Task α ε
  fits : task.Fits future

namespace Waiter

/-- `await loop.create_future()`. -/
def start : Waiter α ε :=
  ⟨.pending, .awaiting false, fun h => Bool.noConfusion h⟩

/-- A task cannot have run on past a pending future. -/
theorem awaiting_of_pending {w : Waiter α ε} (h : w.future = .pending) :
    w.task = .awaiting false := by
  obtain ⟨future, task, hfits⟩ := w
  dsimp only at h
  subst h
  cases task with
  | awaiting mustCancel =>
      cases mustCancel with
      | false => rfl
      | true => exact absurd (hfits rfl) Bool.false_ne_true
  | returned value => cases hfits
  | raised error => cases hfits

-- =============================================================== steps

/-- `set_result`; `none` is its `InvalidStateError`. -/
def setResult (w : Waiter α ε) (value : α) : Option (Waiter α ε) :=
  if w.future.done then none
  else some ⟨.result value, .awaiting false, fun h => Bool.noConfusion h⟩

/-- `set_exception`, where `done()` does not hold. -/
def failIfPending (w : Waiter α ε) (error : ε) : Waiter α ε :=
  if w.future.done then w
  else ⟨.exception error, .awaiting false, fun h => Bool.noConfusion h⟩

/-- `cancel()` on the task, while it awaits the future. -/
def cancel (w : Waiter α ε) : Option (Waiter α ε) :=
  match w.task with
  | .awaiting _ =>
      if h : w.future.done then some ⟨w.future, .awaiting true, fun _ => h⟩
      else some ⟨.cancelled, .awaiting false, fun h => Bool.noConfusion h⟩
  | _ => none

/-- The task runs, where the future has woken it. -/
def resume (w : Waiter α ε) : Option (Waiter α ε) :=
  match w.task with
  | .awaiting mustCancel =>
      match w.future with
      | .pending => none
      | .cancelled => some ⟨.cancelled, .raised none, rfl⟩
      | .exception error =>
          some ⟨.exception error,
            .raised (if mustCancel then none else some error), rfl⟩
      | .result value =>
          if mustCancel then some ⟨.result value, .raised none, rfl⟩
          else some ⟨.result value, .returned value, rfl⟩
  | _ => none

-- ============================================================= results

/-- The result is returned to a task that continues, now or when it next
runs. -/
def Delivered (w : Waiter α ε) (value : α) : Prop :=
  w.future = .result value
    ∧ (w.task = .awaiting false ∨ w.task = .returned value)

/-- The result is in the future and the task raises, or has raised,
without reading it. -/
def Lost (w : Waiter α ε) (value : α) : Prop :=
  w.future = .result value
    ∧ (w.task = .awaiting true ∨ ∃ error, w.task = .raised error)

/-- What becomes of a result. -/
theorem delivered_or_lost {w : Waiter α ε} {value : α}
    (h : w.future = .result value) : w.Delivered value ∨ w.Lost value := by
  obtain ⟨future, task, hfits⟩ := w
  dsimp only at h
  subst h
  cases task with
  | awaiting mustCancel =>
      cases mustCancel with
      | false => exact Or.inl ⟨rfl, Or.inl rfl⟩
      | true => exact Or.inr ⟨rfl, Or.inl rfl⟩
  | returned value' =>
      injection hfits with hvalue
      subst hvalue
      exact Or.inl ⟨rfl, Or.inr rfl⟩
  | raised error => exact Or.inr ⟨rfl, Or.inr ⟨error, rfl⟩⟩

theorem Delivered.not_lost {w : Waiter α ε} {value value' : α}
    (h : w.Delivered value) : ¬ w.Lost value' := by
  intro hlost
  obtain ⟨-, htask | htask⟩ := h
  · obtain ⟨-, htask' | ⟨error, htask'⟩⟩ := hlost
    · rw [htask] at htask'
      cases htask'
    · rw [htask] at htask'
      cases htask'
  · obtain ⟨-, htask' | ⟨error, htask'⟩⟩ := hlost
    · rw [htask] at htask'
      cases htask'
    · rw [htask] at htask'
      cases htask'

theorem pending_of_not_done {future : Future α ε}
    (h : ¬ future.done = true) : future = .pending := by
  cases future with
  | pending => rfl
  | _ => exact absurd rfl h

/-- A pending future takes a result, and the task stays as it is. -/
theorem setResult_of_pending {w : Waiter α ε} (h : w.future = .pending)
    (value : α) : ∃ w', w.setResult value = some w'
      ∧ w'.future = .result value ∧ w'.task = w.task := by
  unfold setResult
  rw [h]
  exact ⟨_, rfl, rfl, (awaiting_of_pending h).symm⟩

/-- The future after `cancel()`. -/
theorem cancel_eq_some {w w' : Waiter α ε} (h : w.cancel = some w') :
    (w.future = .pending ∧ w'.future = .cancelled)
      ∨ (w'.future = w.future ∧ w'.task = .awaiting true) := by
  unfold cancel at h
  cases htask : w.task with
  | awaiting mustCancel =>
      rw [htask] at h
      dsimp only at h
      split at h
      case isTrue hdone =>
        injection h with h
        subst h
        exact Or.inr ⟨rfl, rfl⟩
      case isFalse hdone =>
        injection h with h
        subst h
        exact Or.inl ⟨pending_of_not_done hdone, rfl⟩
  | returned value =>
      rw [htask] at h
      cases h
  | raised error =>
      rw [htask] at h
      cases h

/-- A cancelled task awaits no pending future. -/
theorem cancel_ne_pending {w w' : Waiter α ε} (h : w.cancel = some w') :
    w'.future ≠ .pending := by
  intro hpending
  obtain ⟨_, hcancelled⟩ | ⟨_, htask⟩ := cancel_eq_some h
  · rw [hpending] at hcancelled
    cases hcancelled
  · rw [awaiting_of_pending hpending] at htask
    cases htask

/-- Running the task leaves the future as it is, and wakes it only where
the future is done. -/
theorem resume_eq_some {w w' : Waiter α ε} (h : w.resume = some w') :
    w'.future = w.future ∧ w.future ≠ .pending := by
  unfold resume at h
  cases htask : w.task with
  | awaiting mustCancel =>
      rw [htask] at h
      cases hf : w.future with
      | pending =>
          rw [hf] at h
          cases h
      | cancelled =>
          rw [hf] at h
          injection h with h
          rw [← h]
          exact ⟨rfl, fun hne => by cases hne⟩
      | exception error =>
          rw [hf] at h
          injection h with h
          rw [← h]
          exact ⟨rfl, fun hne => by cases hne⟩
      | result value =>
          rw [hf] at h
          dsimp only at h
          split at h
          all_goals
            injection h with h
            rw [← h]
            exact ⟨rfl, fun hne => by cases hne⟩
  | returned value =>
      rw [htask] at h
      cases h
  | raised error =>
      rw [htask] at h
      cases h

/-- A task that runs on a result returns it, or raises if it is marked. -/
theorem resume_of_result {w w' : Waiter α ε} {value : α}
    (hf : w.future = .result value) (h : w.resume = some w') :
    (w.task = .awaiting false ∧ w'.task = .returned value) ∨
      (w.task = .awaiting true ∧ w'.task = .raised none) := by
  unfold resume at h
  cases htask : w.task with
  | awaiting mustCancel =>
      rw [htask, hf] at h
      cases mustCancel with
      | false =>
          injection h with h
          rw [← h]
          exact Or.inl ⟨rfl, rfl⟩
      | true =>
          injection h with h
          rw [← h]
          exact Or.inr ⟨rfl, rfl⟩
  | returned value' =>
      rw [htask] at h
      cases h
  | raised error =>
      rw [htask] at h
      cases h

/-- The future after a failure that found it pending or left it. -/
theorem failIfPending_future (w : Waiter α ε) (error : ε) :
    (w.failIfPending error).future
      = if w.future.done then w.future else .exception error := by
  unfold failIfPending
  split <;> rfl

/-- Without a result there is nothing to lose. -/
theorem not_lost {w : Waiter α ε} (h : ∀ value, w.future ≠ .result value)
    (value : α) : ¬ w.Lost value := fun hlost => h value hlost.1

/-- A result is lost by a cancellation that comes after it. -/
theorem cancel_lost {w w' : Waiter α ε} {value : α}
    (hf : w.future = .result value) (h : w.cancel = some w') :
    w'.Lost value := by
  obtain ⟨hpending, -⟩ | ⟨hfuture, htask⟩ := cancel_eq_some h
  · rw [hf] at hpending
    cases hpending
  · exact ⟨hfuture.trans hf, Or.inl htask⟩

/-- A result that is not lost when the task runs is returned. -/
theorem Delivered.resume {w w' : Waiter α ε} {value : α}
    (hw : w.Delivered value) (h : w.resume = some w') :
    w'.Delivered value := by
  obtain ⟨hf, htask | htask⟩ := hw
  · unfold Waiter.resume at h
    rw [htask, hf] at h
    injection h with h
    rw [← h]
    exact ⟨rfl, Or.inr rfl⟩
  · unfold Waiter.resume at h
    rw [htask] at h
    cases h

/-- A lost result stays lost. -/
theorem Lost.resume {w w' : Waiter α ε} {value : α} (hw : w.Lost value)
    (h : w.resume = some w') : w'.Lost value := by
  obtain ⟨hf, htask | ⟨error, htask⟩⟩ := hw
  · unfold Waiter.resume at h
    rw [htask, hf] at h
    injection h with h
    rw [← h]
    exact ⟨rfl, Or.inr ⟨none, rfl⟩⟩
  · unfold Waiter.resume at h
    rw [htask] at h
    cases h

end Waiter

end Asyncio
