/-
Dispatch/Proofs/Handling/Admission.lean

A task asks for admission once.

Of all the steps of a handling only the first asks the limiter, and a handling begins once.  What a
candidate does, how often it is called, and what the store answers can only change breakers and
metrics (`Handling.limiter_callStep` and its like).  So whatever any number of handlings do, the
limiter has taken one attempt for each of those that have begun, and nothing else
(`Handlings.limiter_run`).

What an attempt does to the buckets is a matter of the limiter (`Limiter.acquire_eq`,
`Limiter.turned`).  A handling whose caller is refused ends at once: the limiter and one counter of
errors are all that it touches, and no later turn of it does anything (`Handlings.step_of_isOver`).
-/
import Dispatch.Proofs.Handling.Concurrent
import Dispatch.Proofs.Limiter.Attempts

namespace Dispatch

/-! ### The limiter while a handling goes on -/

namespace Handling

variable {d : Dispatcher} {r : TaskRequest} {now : Nat} {history : Conversation} {reason : Reason}
  {s : Shared}

theorem guards_callNext {last : Option CallError} {names : List String} :
    (callNext d r now history reason last s names).1.guards = s.guards := by
  induction names with
  | nil =>
    unfold callNext
    cases last with
    | some e => rfl
    | none => rfl
  | cons name rest ih =>
    unfold callNext
    split
    · exact ih
    · rfl

theorem guards_settleCall {current : CandidateCall} {rest : List String} :
    (settleCall d r now history reason current rest s).1.guards = s.guards := by
  unfold settleCall
  split
  · simp only
    split
    · rfl
    · split
      · exact guards_callNext
      · rfl
  all_goals rfl

theorem guards_route : (route d r now history s).1.guards = s.guards := by
  unfold route
  split
  · rfl
  · exact guards_callNext

theorem guards_answered {answer : StoreAnswer} {stage : HandlingStage} :
    (answered d r now answer s stage).1.guards = s.guards := by
  cases stage with
  | opening =>
    rw [answered]
    split
    · exact guards_route
    · rfl
  | storing version reply =>
    rw [answered]
    split <;> rfl
  | reloading reply =>
    rw [answered]
    split <;> rfl
  | storingAgain version reply =>
    rw [answered]
    split <;> rfl
  | calling history reason current rest => rfl
  | finished result => rfl
  | cancelled => rfl
  | crashed fault => rfl

/-- A step of a call can only change breakers. -/
theorem limiter_callStep {step : CallPlan → Breakers → Call Response → Breakers × Call Response}
    {stage : HandlingStage} :
    (callStep d r now step s stage).1.guards.limiter = s.guards.limiter := by
  cases stage with
  | calling history reason current rest =>
    let plan := s.guards.plan current.backend d.config.history.callTimeout r.factor
    let stepped := s.guards.withBreakers fun b => step plan b current.call
    show (settleCall d r now history reason { current with call := stepped.2 } rest
      { s with guards := stepped.1 }).1.guards.limiter = _
    rw [guards_settleCall]
    rfl
  | opening => rfl
  | storing version reply => rfl
  | reloading reply => rfl
  | storingAgain version reply => rfl
  | finished result => rfl
  | cancelled => rfl
  | crashed fault => rfl

theorem limiter_cancel {stage : HandlingStage} :
    (cancel s stage).1.guards.limiter = s.guards.limiter := by
  cases stage <;> rfl

theorem limiter_begin :
    (begin r now s).1.guards.limiter = (s.guards.limiter.acquire r.caller now).1 := by
  unfold begin Guards.admission
  simp only
  cases (s.guards.limiter.acquire r.caller now).2 <;> rfl

end Handling

/-! ### The limiter in a run -/

/-- The handling whose turn it is. -/
def HandlingTurn.handling? : HandlingTurn → Option Nat
  | begin i _ | store i _ | call i .. | cancel i => some i
  | other .. => none

/-- A handling that begins and asks for admission. -/
structure Asking where
  handling : Nat
  now : Nat
  deriving DecidableEq, Repr

namespace Handlings

variable (d : Dispatcher) (tasks : Nat → TaskRequest)

/-- The handling that begins in a turn, if one does: each begins once. -/
def asking? (w : Handlings) : HandlingTurn → Option Asking
  | .begin i now => if (w.stage i).isNone then some { handling := i, now } else none
  | .store .. | .call .. | .cancel _ | .other .. => none

/-- The handlings that begin in a run. -/
def askings (w : Handlings) : List HandlingTurn → List Asking
  | [] => []
  | t :: ts => (w.asking? t).toList ++ (w.step d tasks t).askings ts

/-- What the limiter is asked when a handling begins. -/
def attempt (a : Asking) : LimiterTurn := .acquire (tasks a.handling).caller a.now

variable {d tasks} {w : Handlings} {t : HandlingTurn} {ts : List HandlingTurn} {i : Nat}

theorem asking?_begin (h : w.stage i = none) (now : Nat) :
    w.asking? (.begin i now) = some { handling := i, now } := by
  rw [asking?, h]
  rfl

/-- Only a handling that begins asks the limiter. -/
theorem limiter_step (w : Handlings) (t : HandlingTurn) :
    (w.step d tasks t).shared.guards.limiter
      = w.shared.guards.limiter.run ((w.asking? t).toList.map (attempt tasks)) := by
  cases t with
  | begin i now =>
    cases hstage : w.stage i with
    | none =>
      rw [asking?_begin hstage, step, hstage]
      exact Handling.limiter_begin
    | some stage =>
      rw [asking?, step, hstage]
      rfl
  | store i now =>
    rw [step]
    split
    · rfl
    · split
      · rfl
      · exact congrArg Guards.limiter Handling.guards_answered
  | call i now f =>
    rw [step]
    split
    · rfl
    · exact Handling.limiter_callStep
  | cancel i =>
    rw [step]
    split
    · rfl
    · exact Handling.limiter_cancel
  | other call now => rfl

/-- **Over a run the limiter takes one attempt for each handling that begins**, and nothing else. -/
theorem limiter_run (w : Handlings) (ts : List HandlingTurn) :
    (w.run d tasks ts).shared.guards.limiter
      = w.shared.guards.limiter.run ((w.askings d tasks ts).map (attempt tasks)) := by
  induction ts generalizing w with
  | nil => rfl
  | cons t ts ih =>
    show ((w.step d tasks t).run d tasks ts).shared.guards.limiter = _
    rw [ih, limiter_step, askings, List.map_append, Limiter.run, Limiter.run, Limiter.run,
      List.foldl_append]

/-! ### A handling begins once -/

/-- A turn leaves a handling where it is, or is a turn of its own and leads to some stage. -/
theorem stage_step_cases (w : Handlings) (t : HandlingTurn) (i : Nat) :
    (w.step d tasks t).stage i = w.stage i ∨
      t.handling? = some i ∧ ((w.step d tasks t).stage i).isSome = true := by
  -- all that a turn does to the stages is to advance the handling whose turn it is
  have hadvance : ∀ {v : Handlings} {j : Nat} {next : Shared × HandlingStage},
      v.stage = w.stage → t.handling? = some j →
        (v.advance j next).stage i = w.stage i ∨
          t.handling? = some i ∧ ((v.advance j next).stage i).isSome = true := by
    intro v j next hv ht
    by_cases hij : i = j
    · subst hij
      rw [advance_stage_self]
      exact Or.inr ⟨ht, rfl⟩
    · rw [advance_stage_of_ne _ hij, hv]
      exact Or.inl rfl
  cases t with
  | begin j now =>
    rw [step]
    split
    · exact hadvance rfl rfl
    · exact Or.inl rfl
  | store j now =>
    rw [step]
    split
    · exact Or.inl rfl
    · split
      · exact Or.inl rfl
      · exact hadvance rfl rfl
  | call j now f =>
    rw [step]
    split
    · exact Or.inl rfl
    · exact hadvance rfl rfl
  | cancel j =>
    rw [step]
    split
    · exact Or.inl rfl
    · exact hadvance rfl rfl
  | other call now => exact Or.inl rfl

theorem isSome_stage_step (h : (w.stage i).isSome = true) (t : HandlingTurn) :
    ((w.step d tasks t).stage i).isSome = true := by
  rcases stage_step_cases w t i with heq | ⟨-, hsome⟩
  · rw [heq]
    exact h
  · exact hsome

theorem stage_begin (h : w.stage i = none) (now : Nat) :
    w.step d tasks (.begin i now)
      = w.advance i (Handling.begin (tasks i) now w.shared) := by
  rw [step, h]

theorem limiter_begin (h : w.stage i = none) (now : Nat) :
    (w.step d tasks (.begin i now)).shared.guards.limiter
      = (w.shared.guards.limiter.acquire (tasks i).caller now).1 := by
  rw [stage_begin h]
  exact Handling.limiter_begin

theorem of_asking? {a : Asking} (h : w.asking? t = some a) :
    t = .begin a.handling a.now ∧ w.stage a.handling = none := by
  cases t with
  | begin i now =>
    rw [asking?] at h
    split at h
    · next hnone =>
      cases h
      exact ⟨rfl, Option.isNone_iff_eq_none.mp hnone⟩
    · cases h
  | store i now => cases h
  | call i now f => cases h
  | cancel i => cases h
  | other call now => cases h

/-- Who has begun does not begin again. -/
theorem stage_of_mem_askings {a : Asking} (h : a ∈ w.askings d tasks ts) :
    w.stage a.handling = none := by
  induction ts generalizing w with
  | nil => cases h
  | cons t ts ih =>
    rcases List.mem_append.mp h with h | h
    · exact (of_asking? (Option.mem_toList.mp h)).2
    · cases hstage : w.stage a.handling with
      | none => rfl
      | some stage =>
        have hsome : ((w.step d tasks t).stage a.handling).isSome = true :=
          isSome_stage_step (by rw [hstage]; rfl) t
        rw [ih h] at hsome
        cases hsome

theorem nodup_askings (w : Handlings) (ts : List HandlingTurn) :
    ((w.askings d tasks ts).map Asking.handling).Nodup := by
  induction ts generalizing w with
  | nil => exact List.nodup_nil
  | cons t ts ih =>
    rw [askings]
    cases ha : w.asking? t with
    | none => exact ih _
    | some a =>
      -- who begins now has a stage from now on, and only who has none begins later
      obtain ⟨rfl, hnone⟩ := of_asking? ha
      refine List.nodup_cons.mpr ⟨fun hin => ?_, ih _⟩
      obtain ⟨b, hb, heq⟩ := List.mem_map.mp hin
      have hstage := stage_of_mem_askings hb
      rw [heq, stage_begin hnone, advance_stage_self] at hstage
      cases hstage

/-! ### A handling that is over -/

/-- No turn of a handling that is over does anything. -/
theorem step_of_isOver {stage : HandlingStage} (hstage : w.stage i = some stage)
    (hover : Handling.isOver stage = true) (ht : t.handling? = some i) :
    w.step d tasks t = w := by
  have hself : w.advance i (w.shared, stage) = w := by
    rw [advance, ← hstage, Function.update_eq_self]
  cases t with
  | begin j now =>
    cases ht
    rw [step, hstage]
  | store j now =>
    cases ht
    have hrequest : Handling.request? (tasks i) stage = none := by
      cases stage <;> first | rfl | cases hover
    rw [step, hstage]
    simp only [hrequest]
  | call j now f =>
    cases ht
    have hcall : Handling.callStep d (tasks i) now f w.shared stage = (w.shared, stage) := by
      cases stage <;> first | rfl | cases hover
    rw [step, hstage]
    simp only [hcall, hself]
  | cancel j =>
    cases ht
    have hcancel : Handling.cancel w.shared stage = (w.shared, stage) := by
      cases stage <;> first | rfl | cases hover
    rw [step, hstage]
    simp only [hcancel, hself]
  | other call now => cases ht

end Handlings

/-! ### What a task costs -/

/-- The bucket of a caller is as it was; or it has had the time to fill up, and is not kept. -/
def Limiter.Spares (l l' : Limiter Float) (caller : String) (now : Nat) : Prop :=
  l'.buckets.get? caller = l.buckets.get? caller ∨
    ∃ b, l.buckets.get? caller = some b ∧ l.refillTime.nanos ≤ now - b.countedAt ∧
      l'.buckets.get? caller = none

/-- An attempt of one caller spends nothing of the others. -/
theorem Limiter.spares_acquire (l : Limiter Float) {caller other : String} (h : other ≠ caller)
    (now : Nat) : l.Spares (l.acquire caller now).1 other now := by
  have hby : (LimiterTurn.acquire caller now).isBy other = false := by
    simpa [LimiterTurn.isBy] using Ne.symm h
  have hturned := l.turned other (.acquire caller now)
  change l.Turned other _ ((l.acquire caller now).1.buckets.get? other) at hturned
  unfold Spares
  generalize (l.acquire caller now).1.buckets.get? other = x at hturned ⊢
  cases hturned with
  | tried hby' => exact absurd (hby.symm.trans hby') Bool.false_ne_true
  | untouched _ => exact Or.inl rfl
  | forgotten _ hb hidle => exact Or.inr ⟨_, hb, hidle, rfl⟩

/-- What is left of the bucket of a caller that has tried. -/
theorem Limiter.get?_acquire_self (l : Limiter Float) (caller : String) (now : Nat) :
    (l.acquire caller now).1.buckets.get? caller = some (spent (l.counted caller now)) := by
  rw [acquire_eq, Table.get?_insert_self]

namespace Handling

/-- A handling whose caller is refused counts the error and ends. -/
theorem begin_of_refused {r : TaskRequest} {now : Nat} {s : Shared} {retryAfter : Duration}
    (h : (s.guards.limiter.acquire r.caller now).2 = .error retryAfter) :
    begin r now s
      = ({ guards := { s.guards with limiter := (s.guards.limiter.acquire r.caller now).1 }
           metrics := s.metrics.recordTaskError "rate_limited" },
          .finished (.error (.ofCall (.rateLimited retryAfter)))) := by
  -- the handling is counted in and out again
  have hmetrics : ((s.metrics.track).recordTaskError "rate_limited").untrack
      = s.metrics.recordTaskError "rate_limited" := by
    show { s.metrics.recordTaskError "rate_limited" with active := s.metrics.active + 1 - 1 } = _
    rw [Int.add_sub_cancel]
    rfl
  rw [← hmetrics]
  unfold begin Guards.admission
  simp only [h]
  rfl

theorem begin_of_admitted {r : TaskRequest} {now : Nat} {s : Shared}
    (h : (s.guards.limiter.acquire r.caller now).2 = .ok ()) :
    begin r now s
      = ({ guards := { s.guards with limiter := (s.guards.limiter.acquire r.caller now).1 }
           metrics := s.metrics.track }, .opening) := by
  unfold begin Guards.admission
  simp only [h]
  rfl

end Handling

namespace Handlings

section

variable (tasks : Nat → TaskRequest)

/-- A handling has begun and was refused: an error is counted, and nothing is spent. -/
structure Refused (w begun : Handlings) (i now : Nat) (retryAfter : Duration) : Prop where
  stage : begun.stage = Function.update w.stage i
    (some (.finished (.error (.ofCall (.rateLimited retryAfter)))))
  code : (HandlingError.ofCall (.rateLimited retryAfter)).code = "rate_limited"
  log : begun.log = w.log
  breakers : begun.shared.guards.breakers = w.shared.guards.breakers
  metrics : begun.shared.metrics = w.shared.metrics.recordTaskError "rate_limited"
  bucket : begun.shared.guards.limiter.buckets.get? (tasks i).caller
    = some (w.shared.guards.limiter.counted (tasks i).caller now)

/-- A handling has begun and was admitted for one token of its caller. -/
structure Admitted (w begun : Handlings) (i now : Nat) : Prop where
  stage : begun.stage = Function.update w.stage i (some .opening)
  log : begun.log = w.log
  breakers : begun.shared.guards.breakers = w.shared.guards.breakers
  metrics : begun.shared.metrics = w.shared.metrics.track
  bucket : ∃ b, b = w.shared.guards.limiter.counted (tasks i).caller now ∧
    TokenCount.hasToken b.tokens = true ∧
    begun.shared.guards.limiter.buckets.get? (tasks i).caller
      = some { b with tokens := TokenCount.sub b.tokens (TokenCount.ofNat 1) }

variable {d : Dispatcher} {tasks} {w : Handlings} {i now : Nat}

theorem refused (h : w.stage i = none) {retryAfter : Duration}
    (hrefused : (w.shared.guards.limiter.acquire (tasks i).caller now).2 = .error retryAfter) :
    Refused tasks w (w.step d tasks (.begin i now)) i now retryAfter := by
  rw [stage_begin h, Handling.begin_of_refused hrefused]
  refine ⟨rfl, rfl, rfl, rfl, rfl, ?_⟩
  show (w.shared.guards.limiter.acquire (tasks i).caller now).1.buckets.get? _ = _
  rw [Limiter.get?_acquire_self, Limiter.spent]
  rw [Limiter.acquire_eq, Limiter.answer] at hrefused
  split at hrefused
  · cases hrefused
  · next hnot => rw [if_neg hnot]

theorem admitted (h : w.stage i = none)
    (hadmitted : (w.shared.guards.limiter.acquire (tasks i).caller now).2 = .ok ()) :
    Admitted tasks w (w.step d tasks (.begin i now)) i now := by
  rw [stage_begin h, Handling.begin_of_admitted hadmitted]
  refine ⟨rfl, rfl, rfl, rfl, _, rfl, ?_⟩
  rw [Limiter.acquire_eq, Limiter.answer] at hadmitted
  split at hadmitted
  · next htoken =>
    refine ⟨htoken, ?_⟩
    show (w.shared.guards.limiter.acquire (tasks i).caller now).1.buckets.get? _ = _
    rw [Limiter.get?_acquire_self, Limiter.spent, if_pos htoken]
  · cases hadmitted

/-- A refused handling stays where it is. -/
theorem Refused.stage_run {begun : Handlings} {retryAfter : Duration}
    (h : Refused tasks w begun i now retryAfter) (turns : List HandlingTurn) :
    (begun.run d tasks turns).stage i
      = some (.finished (.error (.ofCall (.rateLimited retryAfter)))) := by
  have hstage : begun.stage i = some (.finished (.error (.ofCall (.rateLimited retryAfter)))) := by
    rw [h.stage, Function.update_self]
  clear h
  induction turns generalizing begun with
  | nil => exact hstage
  | cons t ts ih =>
    refine ih ?_
    by_cases ht : t.handling? = some i
    · rw [step_of_isOver hstage rfl ht]
      exact hstage
    · rw [(stage_step_cases begun t i).resolve_right fun hown => ht hown.1]
      exact hstage

end

/-- **A task asks for admission once.**  If its caller is refused, the handling ends as
`rate_limited`; of all that is shared only one counter of errors is touched, no token is spent, and
no turn of it does anything ever after, so that no backend is called.  If its caller is admitted,
one token is taken from its bucket.  Nothing is taken from the others.  Whatever any handlings do
after that, the limiter takes attempts for those that have not begun yet, and for nothing else. -/
theorem admission_once (d : Dispatcher) (tasks : Nat → TaskRequest) (w : Handlings) (i now : Nat)
    (hw : w.stage i = none) (turns : List HandlingTurn) :
    let begun := w.step d tasks (.begin i now)
    let later := begun.run d tasks turns
    let asked := begun.askings d tasks turns
    let answer := (w.shared.guards.limiter.acquire (tasks i).caller now).2
    (∀ retryAfter, answer = .error retryAfter →
      Refused tasks w begun i now retryAfter ∧
        ∀ t : HandlingTurn, t.handling? = some i → later.step d tasks t = later) ∧
    (answer = .ok () → Admitted tasks w begun i now) ∧
    (∀ other, other ≠ (tasks i).caller →
      w.shared.guards.limiter.Spares begun.shared.guards.limiter other now) ∧
    later.shared.guards.limiter
      = begun.shared.guards.limiter.run (asked.map (attempt tasks)) ∧
    (∀ a ∈ asked, a.handling ≠ i) ∧ (asked.map Asking.handling).Nodup := by
  intro begun later asked answer
  have hbegun : begun = w.advance i (Handling.begin (tasks i) now w.shared) := stage_begin hw now
  refine ⟨?_, admitted hw, ?_, limiter_run begun turns, ?_, nodup_askings begun turns⟩
  · intro retryAfter hrefused
    have h : Refused tasks w begun i now retryAfter := refused hw hrefused
    exact ⟨h, fun t ht => step_of_isOver (h.stage_run turns) rfl ht⟩
  · intro other hother
    rw [show begun.shared.guards.limiter = _ from limiter_begin hw now]
    exact Limiter.spares_acquire _ hother now
  · rintro a ha rfl
    have hnone := stage_of_mem_askings ha
    rw [hbegun, advance_stage_self] at hnone
    cases hnone

namespace Example

/-- Every caller has one token. -/
def dispatcher : Dispatcher where
  config := {
    routing := { defaultBackend := "a" }
    resilience := { limit := { capacity := 1 } } }
  registry := Table.empty.insert "a" {}

/-- Every task has the same caller. -/
def tasks : Nat → TaskRequest := fun _ => {
  caller := "c"
  task := { id := "t", kind := .research, payload := "p" }
  freshId := "x"
  factor := fun _ => { mant := 1, exp := 0 } }

def start : Handlings := { shared := dispatcher.shared }

/-- The first task has asked for admission. -/
def afterOne : Handlings := start.step dispatcher tasks (.begin 0 0)

end Example

open Example in
/-- A caller with one token is admitted, and refused at once after that. -/
theorem admission_of_two :
    start.stage 0 = none ∧ Admitted tasks start afterOne 0 0 ∧ afterOne.stage 1 = none ∧
      ∃ retryAfter, Refused tasks afterOne (afterOne.step dispatcher tasks (.begin 1 0)) 1 0
        retryAfter := by
  have hstart : start.stage 0 = none := rfl
  have hone : afterOne.stage 1 = none := rfl
  have hlimiter : afterOne.shared.guards.limiter
      = (start.shared.guards.limiter.acquire (tasks 0).caller 0).1 := by
    rw [afterOne, limiter_begin hstart]
  have hgranted : (start.shared.guards.limiter.acquire (tasks 0).caller 0).2.isOk = true := by
    decide +kernel
  have hempty : ((start.shared.guards.limiter.acquire (tasks 0).caller 0).1.acquire
      (tasks 1).caller 0).2.isOk = false := by
    decide +kernel
  rw [← hlimiter] at hempty
  obtain ⟨-, hfirst, -⟩ := admission_once dispatcher tasks start 0 0 hstart []
  obtain ⟨hsecond, -⟩ := admission_once dispatcher tasks afterOne 1 0 hone []
  refine ⟨hstart, ?_, hone, ?_⟩
  · cases hanswer : (start.shared.guards.limiter.acquire (tasks 0).caller 0).2 with
    | ok u => exact hfirst hanswer
    | error e =>
      rw [hanswer] at hgranted
      cases hgranted
  · cases hanswer : (afterOne.shared.guards.limiter.acquire (tasks 1).caller 0).2 with
    | ok u =>
      rw [hanswer] at hempty
      cases hempty
    | error e => exact ⟨e, (hsecond e hanswer).1⟩

end Handlings

end Dispatch
