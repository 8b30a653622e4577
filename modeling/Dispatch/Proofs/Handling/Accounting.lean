/-
Dispatch/Proofs/Handling/Accounting.lean

What a handling leaves in the metrics.

A handling finds the metrics in any state at every turn, whatever other tasks have recorded
meanwhile.  What it adds to them is a list of records (`Handling.records`): the call that is over
by then, if one is, and at the end its own error and the guard that it drops.  `metrics_act` says
that a turn does to the metrics what its records say and nothing else.

Over a run the records have a simple form (`recorded_eq`): the calls that have returned, in order,
and then, once the handling is over, the end.  Nothing is recorded twice, for a handling that is
over takes no more turns, and nothing is left out, for every turn that ends a handling closes it.
-/
import Dispatch.Proofs.Handling.Turn
import Dispatch.Proofs.Metrics.Totals

namespace Dispatch

namespace Handling

variable (d : Dispatcher) (r : TaskRequest) (holder : Nat)

/-! ### Records -/

/-- How the end of a handling is recorded: an error is counted, and the guard is dropped. -/
def closing : HandlingStage → List MetricsTurn
  | .finished (.error e) => [.taskError e.code, .drop holder]
  | .finished (.ok _) | .cancelled | .crashed _ => [.drop holder]
  | .opening | .calling .. | .storing .. | .reloading _ | .storingAgain .. => []

/-- How a call is recorded after a step, if it has returned. -/
def returned (now : Nat) (current : CandidateCall) : List MetricsTurn :=
  match current.call.stage with
  | .finished outcome =>
    [.call current.backend (Duration.saturating (now - current.since)) outcome]
  | .ready | .running _ | .waiting _ | .cancelled | .crashed _ => []

/-- The call that is recorded in a turn, if one is. -/
def callRecord (t : TaskTurn) (stage : HandlingStage) : List MetricsTurn :=
  match t.event, stage with
  | .step f, .calling _ _ current _ =>
    returned t.now { current with call := stepped d r t f current }
  | _, _ => []

/-- What a handling records in a turn. -/
def records (t : TaskTurn) (stage : HandlingStage) : List MetricsTurn :=
  callRecord d r t stage ++ if isOver stage then [] else closing holder (act d r t stage)

/-- What a handling records in turns one after another. -/
def recorded : List TaskTurn → HandlingStage → List MetricsTurn
  | [], _ => []
  | t :: turns, stage => records d r holder t stage ++ recorded turns (act d r t stage)

/-- The calls among what a handling records. -/
def callRecords : List TaskTurn → HandlingStage → List MetricsTurn
  | [], _ => []
  | t :: turns, stage => callRecord d r t stage ++ callRecords turns (act d r t stage)

/-- All that a handling records, from the guard that it gets when it begins. -/
def account (now : Nat) (s : Shared) (turns : List TaskTurn) : List MetricsTurn :=
  let start := (begin r now s).2
  .track holder :: closing holder start ++ recorded d r holder turns start

/-! ### What a step does to the metrics -/

section

variable {d r holder} {now : Nat} {history : Conversation} {reason : Reason} {s : Shared}

theorem metrics_callNext {last : Option CallError} {names : List String} :
    (callNext d r now history reason last s names).1.metrics
      = s.metrics.performAll (closing holder (callNext d r now history reason last s names).2) := by
  induction names with
  | nil =>
    unfold callNext
    cases last with
    | some e => rfl
    | none => rfl
  | cons name rest ih =>
    unfold callNext
    split
    · exact ih
    · rfl

theorem metrics_settleCall {current : CandidateCall} {rest : List String} :
    (settleCall d r now history reason current rest s).1.metrics
      = s.metrics.performAll (returned now current
          ++ closing holder (settleCall d r now history reason current rest s).2) := by
  unfold settleCall returned
  cases current.call.stage with
  | finished outcome =>
    cases outcome with
    | ok response => rfl
    | error e =>
      simp only
      split
      · exact metrics_callNext
      · rfl
  | ready => rfl
  | running a => rfl
  | waiting w => rfl
  | cancelled => rfl
  | crashed fault => rfl

theorem metrics_route : (route d r now history s).1.metrics
    = s.metrics.performAll (closing holder (route d r now history s).2) := by
  unfold route
  split
  · rfl
  · exact metrics_callNext

theorem metrics_answered {answer : StoreAnswer} {stage : HandlingStage}
    (h : isOver stage = false) : (answered d r now answer s stage).1.metrics
      = s.metrics.performAll (closing holder (answered d r now answer s stage).2) := by
  cases stage with
  | opening =>
    rw [answered]
    split
    · exact metrics_route
    · rfl
  | storing version reply =>
    rw [answered]
    split <;> rfl
  | reloading reply =>
    rw [answered]
    split <;> rfl
  | storingAgain version reply =>
    rw [answered]
    split <;> rfl
  | calling history reason current rest => rfl
  | finished result => cases h
  | cancelled => cases h
  | crashed fault => cases h

/-- A handling is counted when it begins; if its caller is refused, it is over at once. -/
theorem metrics_begin : (begin r now s).1.metrics
    = s.metrics.performAll (.track holder :: closing holder (begin r now s).2) := by
  unfold begin
  simp only
  split <;> rfl

/-- **A turn does to the metrics what its records say.** -/
theorem metrics_act (t : TaskTurn) (stage : HandlingStage) :
    (leaves d r t stage).metrics = t.shared.metrics.performAll (records d r holder t stage) := by
  obtain ⟨now, shared, event⟩ := t
  cases hover : isOver stage with
  | true =>
    cases stage with
    | finished result => cases event <;> rfl
    | cancelled => cases event <;> rfl
    | crashed fault => cases event <;> rfl
    | _ => cases hover
  | false =>
    rw [records, hover, if_neg Bool.false_ne_true]
    cases event with
    | answer a => exact metrics_answered hover
    | cancel => cases stage <;> first | rfl | cases hover
    | step f =>
      cases stage with
      | calling history reason current rest => exact metrics_settleCall
      | _ => first | rfl | cases hover

/-! ### What a run records -/

theorem callRecord_of_isOver {t : TaskTurn} {stage : HandlingStage} (h : isOver stage = true) :
    callRecord d r t stage = [] := by
  obtain ⟨now, shared, event⟩ := t
  cases stage with
  | finished result => cases event <;> rfl
  | cancelled => cases event <;> rfl
  | crashed fault => cases event <;> rfl
  | _ => cases h

theorem recorded_of_isOver (holder : Nat) {stage : HandlingStage} (h : isOver stage = true)
    (turns : List TaskTurn) :
    recorded d r holder turns stage = [] ∧ callRecords d r turns stage = [] := by
  induction turns with
  | nil => exact ⟨rfl, rfl⟩
  | cons t turns ih =>
    rw [recorded, callRecords, records, callRecord_of_isOver h, h, (act_of_isOver h).1, ih.1, ih.2]
    exact ⟨rfl, rfl⟩

theorem closing_of_not_isOver {stage : HandlingStage} (h : isOver stage = false) :
    closing holder stage = [] := by
  cases stage <;> first | rfl | cases h

/-- **A run records the calls that have returned, and then its end.** -/
theorem recorded_eq (turns : List TaskTurn) {stage : HandlingStage} (h : isOver stage = false) :
    recorded d r holder turns stage
      = callRecords d r turns stage ++ closing holder (run d r turns stage) := by
  induction turns generalizing stage with
  | nil => exact (closing_of_not_isOver h).symm
  | cons t turns ih =>
    show records d r holder t stage ++ recorded d r holder turns (act d r t stage)
      = callRecord d r t stage ++ callRecords d r turns (act d r t stage)
        ++ closing holder (run d r turns (act d r t stage))
    rw [records, h, if_neg Bool.false_ne_true]
    cases hact : isOver (act d r t stage) with
    | true =>
      obtain ⟨hrecorded, hcalls⟩ := recorded_of_isOver (d := d) (r := r) holder hact turns
      rw [hrecorded, hcalls, run_of_isOver hact]
      simp
    | false => rw [closing_of_not_isOver hact, ih hact, List.append_nil, List.append_assoc]

/-- So does all of a handling, after it was counted. -/
theorem account_eq (now : Nat) (s : Shared) (turns : List TaskTurn) :
    account d r holder now s turns
      = .track holder :: (callRecords d r turns (begin r now s).2
          ++ closing holder (run d r turns (begin r now s).2)) := by
  unfold account
  simp only
  cases h : isOver (begin r now s).2 with
  | true =>
    obtain ⟨hrecorded, hcalls⟩ := recorded_of_isOver (d := d) (r := r) holder h turns
    rw [hrecorded, hcalls, run_of_isOver h]
    simp
  | false =>
    rw [closing_of_not_isOver h, recorded_eq turns h]
    rfl

end

end Handling

/-! ### Calls, errors and guards of a run -/

/-- The outcomes of the calls of a backend that have returned. -/
def endedAt (backend : String) (marks : List HandlingMark) : List (Except CallError Response) :=
  marks.filterMap fun
    | .ended b outcome => if b = backend then some outcome else none
    | _ => none

/-- The code of the error that a handling has ended with. -/
def HandlingStage.errorCode? : HandlingStage → Option String
  | .finished (.error e) => some e.code
  | _ => none

namespace Handling

variable {d : Dispatcher} {r : TaskRequest} {holder : Nat} {stage : HandlingStage}

theorem endedAt_begun (backend : String) (stage : HandlingStage) :
    endedAt backend (begun stage) = [] := by
  cases stage <;> rfl

/-- A call is recorded in a turn exactly if it has returned in it. -/
theorem outcomesOf_callRecord (t : TaskTurn) (stage : HandlingStage) (backend : String) :
    outcomesOf (callRecord d r t stage) backend = endedAt backend (marks d r t stage) := by
  obtain ⟨now, shared, event⟩ := t
  cases event with
  | cancel => rfl
  | answer a =>
    cases stage with
    | opening =>
      unfold marks
      simp only
      split
      · exact (endedAt_begun backend _).symm
      · rfl
    | _ => rfl
  | step f =>
    cases stage with
    | calling history reason current rest =>
      unfold callRecord marks returned
      simp only
      cases (stepped d r _ f current).stage with
      | finished outcome =>
        show _ = endedAt backend ([.ended current.backend outcome] ++ begun _)
        rw [endedAt, List.filterMap_append]
        exact (List.append_nil _).symm.trans (congrArg _ (endedAt_begun backend _).symm)
      | _ => rfl
    | _ => rfl

theorem outcomesOf_callRecords (turns : List TaskTurn) (stage : HandlingStage) (backend : String) :
    outcomesOf (callRecords d r turns stage) backend
      = endedAt backend (trace d r turns stage) := by
  induction turns generalizing stage with
  | nil => rfl
  | cons t turns ih =>
    rw [callRecords, trace, outcomesOf, List.filterMap_append, endedAt, List.filterMap_append]
    exact congrArg₂ (· ++ ·) (outcomesOf_callRecord t stage backend) (ih _)

theorem eq_call_of_mem_callRecord {t : TaskTurn} {x : MetricsTurn}
    (h : x ∈ callRecord d r t stage) :
    ∃ backend elapsed outcome, x = .call backend elapsed outcome := by
  unfold callRecord returned at h
  split at h
  · split at h
    · exact ⟨_, _, _, List.mem_singleton.mp h⟩
    all_goals cases h
  · cases h

theorem eq_call_of_mem_callRecords {turns : List TaskTurn} {x : MetricsTurn}
    (h : x ∈ callRecords d r turns stage) :
    ∃ backend elapsed outcome, x = .call backend elapsed outcome := by
  induction turns generalizing stage with
  | nil => cases h
  | cons t turns ih =>
    rcases List.mem_append.mp h with h | h
    · exact eq_call_of_mem_callRecord h
    · exact ih h

/-- Calls are no failed tasks. -/
theorem codesOf_callRecords (turns : List TaskTurn) (stage : HandlingStage) :
    codesOf (callRecords d r turns stage) = [] := by
  refine List.filterMap_eq_nil_iff.mpr fun x hx => ?_
  obtain ⟨_, _, _, rfl⟩ := eq_call_of_mem_callRecords hx
  rfl

/-- Calls need no guards. -/
theorem run_of_calls {calls : List MetricsTurn}
    (h : ∀ x ∈ calls, ∃ backend elapsed outcome, x = .call backend elapsed outcome) (w : Metered) :
    w.run calls = { w with metrics := w.metrics.performAll calls } := by
  induction calls generalizing w with
  | nil => rfl
  | cons x calls ih =>
    obtain ⟨backend, elapsed, outcome, rfl⟩ := h x List.mem_cons_self
    exact ih (fun y hy => h y (List.mem_cons_of_mem _ hy)) _

theorem outcomesOf_closing (stage : HandlingStage) (backend : String) :
    outcomesOf (closing holder stage) backend = [] := by
  cases stage with
  | finished result => cases result <;> rfl
  | _ => rfl

theorem codesOf_closing (holder : Nat) (stage : HandlingStage) :
    codesOf (closing holder stage) = stage.errorCode?.toList := by
  cases stage with
  | finished result => cases result <;> rfl
  | _ => rfl

/-- Whoever has the only guard drops it when it is over. -/
theorem run_closing (m : Metrics) (holder : Nat) (stage : HandlingStage) :
    ({ metrics := m, guards := [holder] } : Metered).run (closing holder stage)
      = { metrics := m.performAll (closing holder stage)
          guards := if isOver stage then [] else [holder] } := by
  have hdrop (m : Metrics) : ({ metrics := m, guards := [holder] } : Metered).step (.drop holder)
      = { metrics := m.untrack, guards := [] } := by
    simp [Metered.step, Metrics.perform]
  cases stage with
  | finished result =>
    cases result with
    | ok response => exact hdrop m
    | error e => exact hdrop (m.recordTaskError e.code)
  | cancelled => exact hdrop m
  | crashed fault => exact hdrop m
  | _ => rfl

/-- All that a handling records is done to the metrics, for it drops the guard that it has. -/
theorem run_account (d : Dispatcher) (r : TaskRequest) (holder now : Nat) (s : Shared)
    (turns : List TaskTurn) (m : Metrics) :
    ({ metrics := m } : Metered).run (account d r holder now s turns)
      = { metrics := m.performAll (account d r holder now s turns)
          guards := if isOver (run d r turns (begin r now s).2) then [] else [holder] } := by
  rw [account_eq]
  show ((({ metrics := m } : Metered).step (.track holder)).run (callRecords d r turns _ ++ _)) = _
  rw [Metered.run, List.foldl_append]
  show ((Metered.run _ (callRecords d r turns _)).run _) = _
  rw [run_of_calls fun x hx => eq_call_of_mem_callRecords hx]
  refine (run_closing _ holder _).trans ?_
  simp only [Metrics.performAll, List.foldl_cons, List.foldl_append]
  rfl

/-- A handling is accounted for in the metrics. -/
structure Accounted (d : Dispatcher) (r : TaskRequest) (now : Nat) (s : Shared)
    (turns : List TaskTurn) : Prop where
  /-- It begins with a guard, and if it is not admitted, it is over. -/
  begins : ∀ holder, (begin r now s).1.metrics
    = s.metrics.performAll (.track holder :: closing holder (begin r now s).2)
  /-- At every turn it adds its records to whatever the metrics are by then. -/
  turn : ∀ holder before t after, turns = before ++ t :: after →
    (leaves d r t (run d r before (begin r now s).2)).metrics
      = t.shared.metrics.performAll (records d r holder t (run d r before (begin r now s).2))
  /-- It drops no guard but the one that it has, so all of its records count. -/
  lawful : ∀ holder m, (({ metrics := m } : Metered).run (account d r holder now s turns)).metrics
    = m.performAll (account d r holder now s turns)
  /-- It records the calls that have returned. -/
  calls : ∀ holder backend, outcomesOf (account d r holder now s turns) backend
    = endedAt backend (trace d r turns (begin r now s).2)
  /-- It records an error exactly if it ends with one. -/
  codes : ∀ holder, codesOf (account d r holder now s turns)
    = (run d r turns (begin r now s).2).errorCode?.toList
  /-- Whatever others do in between, it has one of the guards that are out while it goes on, and
  none when it is over. -/
  guard : ∀ holder all, all.filter (MetricsTurn.isGuardOf holder)
      = (account d r holder now s turns).filter (MetricsTurn.isGuardOf holder) →
    (({} : Metered).run all).guards.count holder
      = if isOver (run d r turns (begin r now s).2) then 0 else 1

theorem accounted (d : Dispatcher) (r : TaskRequest) (now : Nat) (s : Shared)
    (turns : List TaskTurn) : Accounted d r now s turns where
  begins holder := metrics_begin
  turn holder before t after _ := metrics_act t _
  lawful holder m := by rw [run_account]
  calls holder backend := by
    rw [account_eq, ← outcomesOf_callRecords]
    show List.filterMap _ (callRecords d r turns _ ++ closing holder _) = _
    rw [List.filterMap_append]
    exact (congrArg _ (outcomesOf_closing ..)).trans (List.append_nil _)
  codes holder := by
    rw [account_eq, ← codesOf_closing holder]
    show List.filterMap _ (callRecords d r turns _ ++ closing holder _) = _
    rw [List.filterMap_append]
    exact congrArg (· ++ _) (codesOf_callRecords ..)
  guard holder all hall := by
    have hcount (turns : List MetricsTurn) :=
      Metered.count_guards_run holder (rfl : ({} : Metered).guards.count holder = _) turns
    rw [hcount, hall, ← hcount, run_account]
    split <;> simp

/-- **Metrics add up.**  However metrics are used, what they show agrees with what was recorded, and
the active tasks are those whose guards have not been dropped.  And whatever happens to a handling,
it records every call of a candidate that has returned, an error exactly if it ends with one, and
its guard is there exactly while it goes on. -/
theorem metrics_add_up :
    (∀ turns, (({} : Metered).run turns).AddUp turns) ∧
    ∀ d r now s turns, Accounted d r now s turns :=
  ⟨Metered.addUp_run, accounted⟩

end Handling

end Dispatch
