/-
Dispatch/Proofs/Call/Wording.lean

What a backend writes in a failure makes no difference to a call.

A failure has a category and a text.  The category decides whether the permit of an attempt is
settled or given back, and whether the call ends or waits for its next attempt.  The text goes into
the error that the call ends with, and nowhere else.

So two calls that get failures of the same categories at the same times are the same call until
they end, and they end with errors that differ in that text at most: `Call.Alike` has no case in
between.
-/
import Dispatch.Resilience.Call

namespace Dispatch

/-- Results that are equal, or errors that are related. -/
inductive UpTo {ε α : Type} (R : ε → ε → Prop) : Except ε α → Except ε α → Prop
  | ok (a : α) : UpTo R (.ok a) (.ok a)
  | error {e e' : ε} (h : R e e') : UpTo R (.error e) (.error e')

/-- Failures that differ in their text at most. -/
def Failure.Alike (f f' : Failure) : Prop := f.category = f'.category

/-- Errors of calls that differ in the text of a failure at most. -/
inductive CallError.Alike : CallError → CallError → Prop
  | same (e : CallError) : Alike e e
  | retriesExhausted (backend : String) (attempts : Nat) {f f' : Failure} (h : f.Alike f') :
      Alike (.retriesExhausted backend attempts f) (.retriesExhausted backend attempts f')
  | backend (backend : String) {f f' : Failure} (h : f.Alike f') :
      Alike (.backend backend f) (.backend backend f')

theorem CallError.Alike.code_eq {e e' : CallError} (h : e.Alike e') : e.code = e'.code := by
  cases h with
  | same => rfl
  | retriesExhausted => rfl
  | backend backend hf => exact congrArg (fun category => "backend_" ++ category.name) hf

/-- Calls that are the same, or over with errors that are alike. -/
inductive Call.Alike {α : Type} : Call α → Call α → Prop
  | same (c : Call α) : Alike c c
  | failed (c : Call α) {e e' : CallError} (h : e.Alike e') :
      Alike (c.finish (.error e)) (c.finish (.error e'))

namespace Call

variable {α : Type} {f f' : Failure}

theorem settleFailure_congr (h : f.Alike f') (now : Nat) (b : Breakers) (permit : Permit) :
    settleFailure now b permit f = settleFailure now b permit f' := by
  rw [settleFailure, settleFailure, show f.category = f'.category from h]

/-- The category of a failure decides how a call goes on. -/
theorem alike_afterFailure (h : f.Alike f') (plan : CallPlan) (now : Nat) (c : Call α) :
    (c.afterFailure plan now f).Alike (c.afterFailure plan now f') := by
  unfold afterFailure
  rw [show f.category = f'.category from h]
  split
  · exact .failed c (.backend _ h)
  · split
    · exact .failed c (.retriesExhausted _ _ h)
    · exact .same _

/-- Steps of a call that make no difference beyond the text of a failure. -/
def StepAlike (step step' : CallPlan → Breakers → Call α → Breakers × Call α) : Prop :=
  ∀ plan b c, (step plan b c).1 = (step' plan b c).1 ∧
    (step plan b c).2.Alike (step' plan b c).2

theorem StepAlike.refl (step : CallPlan → Breakers → Call α → Breakers × Call α) :
    StepAlike step step := fun _ _ _ => ⟨rfl, .same _⟩

/-- **Outcomes that are alike leave the same breakers, and calls that are alike.** -/
theorem stepAlike_complete {outcome outcome' : Except Failure α}
    (h : UpTo Failure.Alike outcome outcome') (now : Nat) :
    StepAlike (fun plan b c => c.complete plan now outcome b)
      (fun plan b c => c.complete plan now outcome' b) := by
  intro plan b c
  cases h with
  | ok value => exact ⟨rfl, .same _⟩
  | @error f f' hf =>
    show (c.complete plan now (.error f) b).1 = (c.complete plan now (.error f') b).1 ∧
      (c.complete plan now (.error f) b).2.Alike (c.complete plan now (.error f') b).2
    unfold complete
    cases c.stage with
    | running a => exact ⟨settleFailure_congr hf now b a.permit, alike_afterFailure hf plan now c⟩
    | _ => exact ⟨rfl, .same c⟩

end Call

end Dispatch
