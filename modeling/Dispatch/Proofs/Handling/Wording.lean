/-
Dispatch/Proofs/Handling/Wording.lean

What a backend writes in a failure does not get out of a handling.

The error of a call goes three ways: it is counted under its code, it decides whether another
candidate is called, and if it is the last one, the caller is told of it.  None of them needs the
text of a failure.  The first two go by code and category, and what the caller is told has a kind
and the name of a backend; the text stays with the cause of the error.

So two handlings whose calls are alike are at the same stage, or both have failed and tell their
callers the same (`HandlingStage.Alike`), and what all tasks share is equal.  Any number of
handlings stay so in every schedule, as long as the same happens otherwise (`Handlings.Alike.run`),
and what their callers get is then the same to them (`Handlings.Alike.result`).
-/
import Mathlib.Data.List.Forall2
import Dispatch.Proofs.Call.Wording
import Dispatch.Proofs.Handling.Concurrent

namespace Dispatch

/-! ### Errors -/

/-- Errors that tell callers the same: they differ in their causes at most. -/
structure HandlingError.Alike (e e' : HandlingError) : Prop where
  kind : e.kind = e'.kind
  backend : e.backend = e'.backend

namespace HandlingError

theorem Alike.refl (e : HandlingError) : e.Alike e := ⟨rfl, rfl⟩

theorem Alike.code_eq {e e' : HandlingError} (h : e.Alike e') : e.code = e'.code := by
  rw [code, code, h.kind]

theorem Alike.message_eq {e e' : HandlingError} (h : e.Alike e') : e.message = e'.message := by
  rw [message, message, h.kind, h.backend]

/-- Callers are told the same of calls that are alike. -/
theorem alike_ofCall {e e' : CallError} (h : e.Alike e') : (ofCall e).Alike (ofCall e') := by
  cases h with
  | same => exact .refl _
  | retriesExhausted => exact ⟨rfl, rfl⟩
  | backend backend hf => exact ⟨congrArg ErrorKind.backend hf, rfl⟩

end HandlingError

theorem CallError.Alike.failsOver_eq {e e' : CallError} (h : e.Alike e') :
    e.failsOver = e'.failsOver := by
  cases h with
  | same => rfl
  | retriesExhausted => rfl
  | backend backend hf =>
    rw [failsOver, failsOver, show _ = _ from hf]

/-- A call is counted under its code. -/
theorem Metrics.recordCall_eq {outcome outcome' : Except CallError Response}
    (h : UpTo CallError.Alike outcome outcome') (m : Metrics) (backend : String)
    (elapsed : Duration) : m.recordCall backend elapsed outcome
      = m.recordCall backend elapsed outcome' := by
  cases h with
  | ok response => rfl
  | error he => rw [recordCall, recordCall, he.code_eq]

/-! ### Results -/

theorem rel_refl {α : Type} {R : α → α → Prop} (h : ∀ a, R a a) (x : Option α) :
    Option.Rel R x x := by
  cases x with
  | none => exact .none
  | some a => exact .some (h a)

/-- Results that callers cannot tell apart: the same response, or errors with the same code, the
same text and the same backend. -/
inductive SameToCaller :
    Except HandlingError TaskResponse → Except HandlingError TaskResponse → Prop
  | response (response : TaskResponse) : SameToCaller (.ok response) (.ok response)
  | error {e e' : HandlingError} (hcode : e.code = e'.code) (hmessage : e.message = e'.message)
      (hbackend : e.backend = e'.backend) : SameToCaller (.error e) (.error e')

theorem SameToCaller.refl (result : Except HandlingError TaskResponse) :
    SameToCaller result result := by
  cases result with
  | ok response => exact .response response
  | error e => exact .error rfl rfl rfl

/-! ### Stages -/

/-- Stages that are the same, or errors that tell callers the same. -/
inductive HandlingStage.Alike : HandlingStage → HandlingStage → Prop
  | same (stage : HandlingStage) : Alike stage stage
  | failed {e e' : HandlingError} (h : e.Alike e') :
      Alike (.finished (.error e)) (.finished (.error e'))

/-- The result that a handling has come to. -/
def HandlingStage.result? : HandlingStage → Option (Except HandlingError TaskResponse)
  | .finished result => some result
  | _ => none

/-- Stages that are alike have results that callers cannot tell apart, or none. -/
theorem HandlingStage.rel_result? {stage stage' : Option HandlingStage}
    (h : Option.Rel HandlingStage.Alike stage stage') :
    Option.Rel SameToCaller (stage.bind result?) (stage'.bind result?) := by
  cases h with
  | none => exact .none
  | some hstage =>
    cases hstage with
    | same stage => exact rel_refl SameToCaller.refl _
    | failed he => exact .some (.error he.code_eq he.message_eq he.backend)

namespace Handling

variable {d : Dispatcher} {r : TaskRequest} {now : Nat} {history : Conversation} {reason : Reason}
  {s : Shared} {stage stage' : HandlingStage}

/-- What a step leaves, up to what callers are not told. -/
def LeavesAlike (x x' : Shared × HandlingStage) : Prop := x.1 = x'.1 ∧ x.2.Alike x'.2

theorem LeavesAlike.refl (x : Shared × HandlingStage) : LeavesAlike x x := ⟨rfl, .same _⟩

theorem leavesAlike_fail {e e' : CallError} (h : e.Alike e') :
    LeavesAlike (fail (.ofCall e) s) (fail (.ofCall e') s) := by
  have he := HandlingError.alike_ofCall h
  refine ⟨?_, .failed he⟩
  rw [fail, fail, he.code_eq]

theorem leavesAlike_callNext {e e' : CallError} (h : e.Alike e') (names : List String) :
    LeavesAlike (callNext d r now history reason (some e) s names)
      (callNext d r now history reason (some e') s names) := by
  induction names with
  | nil => exact leavesAlike_fail h
  | cons name rest ih =>
    rw [callNext, callNext]
    split
    · exact ih
    · exact .refl _

/-- A call that is over leads on by its code and category. -/
theorem leavesAlike_settleCall {c c' : Call Response} (h : c.Alike c') (current : CandidateCall)
    (rest : List String) :
    LeavesAlike (settleCall d r now history reason { current with call := c } rest s)
      (settleCall d r now history reason { current with call := c' } rest s) := by
  cases h with
  | same => exact .refl _
  | failed c he =>
    unfold settleCall
    simp only [Call.finish, Metrics.recordCall_eq (.error he), he.failsOver_eq]
    split
    · exact leavesAlike_callNext he rest
    · exact leavesAlike_fail he

/-- **Steps of a call that are alike leave a handling alike.** -/
theorem leavesAlike_callStep
    {step step' : CallPlan → Breakers → Call Response → Breakers × Call Response}
    (h : Call.StepAlike step step') (hstage : stage.Alike stage') :
    LeavesAlike (callStep d r now step s stage) (callStep d r now step' s stage') := by
  cases hstage with
  | failed he => exact ⟨rfl, .failed he⟩
  | same =>
    cases stage with
    | calling history reason current rest =>
      let plan := s.guards.plan current.backend d.config.history.callTimeout r.factor
      obtain ⟨hbreakers, hcall⟩ := h plan s.guards.breakers current.call
      unfold callStep Guards.withBreakers
      simp only
      rw [hbreakers]
      exact leavesAlike_settleCall hcall current rest
    | _ => exact .refl _

theorem leavesAlike_answered (answer : StoreAnswer) (hstage : stage.Alike stage') :
    LeavesAlike (answered d r now answer s stage) (answered d r now answer s stage') := by
  cases hstage with
  | same => exact .refl _
  | failed he => exact ⟨rfl, .failed he⟩

theorem leavesAlike_cancel (hstage : stage.Alike stage') :
    LeavesAlike (cancel s stage) (cancel s stage') := by
  cases hstage with
  | same => exact .refl _
  | failed he => exact ⟨rfl, .failed he⟩

/-- The store is asked the same. -/
theorem request?_eq (hstage : stage.Alike stage') : request? r stage = request? r stage' := by
  cases hstage <;> rfl

end Handling

/-! ### Any number of handlings -/

/-- The same happens, up to the text of a failure. -/
inductive HandlingTurn.Alike : HandlingTurn → HandlingTurn → Prop
  | same (t : HandlingTurn) : Alike t t
  | call (i now : Nat) {f f' : CallPlan → Breakers → Call Response → Breakers × Call Response}
      (h : Call.StepAlike f f') : Alike (.call i now f) (.call i now f')

namespace Handlings

/-- Handlings that share the same and are at stages that are alike. -/
structure Alike (w w' : Handlings) : Prop where
  shared : w.shared = w'.shared
  log : w.log = w'.log
  stage : ∀ i, Option.Rel HandlingStage.Alike (w.stage i) (w'.stage i)

/-- The result that one of the handlings has come to. -/
def result? (w : Handlings) (i : Nat) : Option (Except HandlingError TaskResponse) :=
  (w.stage i).bind HandlingStage.result?

variable {d : Dispatcher} {tasks : Nat → TaskRequest} {w w' : Handlings}

theorem Alike.refl (w : Handlings) : w.Alike w := ⟨rfl, rfl, fun _ => rel_refl .same _⟩

theorem Alike.result (h : w.Alike w') (i : Nat) :
    Option.Rel SameToCaller (w.result? i) (w'.result? i) :=
  HandlingStage.rel_result? (h.stage i)

/-- The store serves both the same. -/
theorem Alike.serve (h : w.Alike w') (client : Option Nat) (call : StoreCall) (now : Timestamp) :
    (w.serve client call now).Alike (w'.serve client call now) :=
  ⟨h.shared, congrArg (StoreLog.serve · client call now) h.log, h.stage⟩

/-- One of the handlings comes to stages that are alike. -/
theorem Alike.advance (h : w.Alike w') (i : Nat) {next next' : Shared × HandlingStage}
    (hnext : Handling.LeavesAlike next next') : (w.advance i next).Alike (w'.advance i next') := by
  refine ⟨hnext.1, h.log, fun j => ?_⟩
  by_cases hj : j = i
  · subst hj
    rw [advance_stage_self, advance_stage_self]
    exact .some hnext.2
  · rw [advance_stage_of_ne w hj, advance_stage_of_ne w' hj]
    exact h.stage j

/-- A handling has begun in both or in neither. -/
theorem Alike.stage_cases (h : w.Alike w') (i : Nat) : (w.stage i = none ∧ w'.stage i = none) ∨
    ∃ stage stage', w.stage i = some stage ∧ w'.stage i = some stage' ∧ stage.Alike stage' := by
  have hi := h.stage i
  cases hw : w.stage i <;> cases hw' : w'.stage i <;> rw [hw, hw'] at hi <;> cases hi
  · exact .inl ⟨rfl, rfl⟩
  · exact .inr ⟨_, _, rfl, rfl, ‹_›⟩

/-- The call of a handling takes a step. -/
theorem Alike.callStep (h : w.Alike w') (i now : Nat)
    {f f' : CallPlan → Breakers → Call Response → Breakers × Call Response}
    (hf : Call.StepAlike f f') :
    (w.step d tasks (.call i now f)).Alike (w'.step d tasks (.call i now f')) := by
  obtain ⟨hw, hw'⟩ | ⟨stage, stage', hw, hw', hstage⟩ := h.stage_cases i
  · simpa only [Handlings.step, hw, hw'] using h
  · simp only [Handlings.step, hw, hw', h.shared]
    exact h.advance i (Handling.leavesAlike_callStep hf hstage)

/-- **Turns that are alike leave handlings alike.** -/
theorem Alike.step (h : w.Alike w') {t t' : HandlingTurn} (ht : t.Alike t') :
    (w.step d tasks t).Alike (w'.step d tasks t') := by
  cases ht with
  | call i now hf => exact h.callStep i now hf
  | same =>
    cases t with
    | begin i now =>
      obtain ⟨hw, hw'⟩ | ⟨stage, stage', hw, hw', hstage⟩ := h.stage_cases i
      · simp only [Handlings.step, hw, hw', h.shared]
        exact h.advance i (.refl _)
      · simpa only [Handlings.step, hw, hw'] using h
    | store i now =>
      obtain ⟨hw, hw'⟩ | ⟨stage, stage', hw, hw', hstage⟩ := h.stage_cases i
      · simpa only [Handlings.step, hw, hw'] using h
      · -- both wait for the same, and the logs are equal, so they get the same answer
        simp only [Handlings.step, hw, hw', h.shared, h.log, Handling.request?_eq hstage]
        cases Handling.request? (tasks i) stage' with
        | none => exact h
        | some call =>
          exact (h.serve (some i) call _).advance i (Handling.leavesAlike_answered _ hstage)
    | call i now f => exact h.callStep i now (.refl f)
    | cancel i =>
      obtain ⟨hw, hw'⟩ | ⟨stage, stage', hw, hw', hstage⟩ := h.stage_cases i
      · simpa only [Handlings.step, hw, hw'] using h
      · simp only [Handlings.step, hw, hw', h.shared]
        exact h.advance i (Handling.leavesAlike_cancel hstage)
    | other call now => exact h.serve none call now

/-- **Handlings that differ in the text of failures only stay alike.** -/
theorem Alike.run {ts ts' : List HandlingTurn} (hts : List.Forall₂ HandlingTurn.Alike ts ts')
    (h : w.Alike w') : (w.run d tasks ts).Alike (w'.run d tasks ts') := by
  induction hts generalizing w w' with
  | nil => exact h
  | cons ht _ ih => exact ih (h.step ht)

end Handlings

end Dispatch
