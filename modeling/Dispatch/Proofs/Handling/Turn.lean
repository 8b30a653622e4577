/-
Dispatch/Proofs/Handling/Turn.lean

What one turn does to a handling.

A handling is followed through everything that may happen to it: at every turn it finds what all
tasks share in any state, its call takes any step, and the store answers anything.  Its trace has a
mark for how it was routed, for every call that begins or ends, and for what the store was asked
after a reply.

What a turn can do is said twice, from the two ends of it.  From a call that runs, `act_step_cases`
says where a step of it leads; and of a call that runs after a turn, `act_calling_cases` says where
it has come from: it has just begun, or it ran before and has not finished.  So what holds of a call
that begins, and is kept by its steps, holds of every call that runs.

One such thing is whose errors these are.  For the steps that calls take (`TaskTurn.Genuine`), an
error in a trace names the candidate whose call has ended with it (`attributed_trace`), for it was
made by a step of that very call.
-/
import Dispatch.Proofs.Call.Turn
import Dispatch.Proofs.Handling.Stage

namespace Dispatch

/-! ### Turns of one handling -/

/-- What happens to a handling. -/
inductive TaskEvent where
  /-- The store answers what the handling waits for. -/
  | answer (a : StoreAnswer)
  /-- The running call takes a step. -/
  | step (f : CallPlan → Breakers → Call Response → Breakers × Call Response)
  | cancel

/-- A turn of a handling. -/
structure TaskTurn where
  now : Nat
  /-- What all tasks share by then, whatever the others have made of it. -/
  shared : Shared
  event : TaskEvent

/-- A step that an event lets a call take at a time. -/
def CallEvent.step (event : CallEvent Response) (now : Nat) :
    CallPlan → Breakers → Call Response → Breakers × Call Response :=
  fun plan breakers c => c.act plan { now, breakers, event }

/-- If the running call takes a step, it is one that calls take. -/
def TaskTurn.Genuine (t : TaskTurn) : Prop :=
  ∀ f, t.event = .step f → ∃ event : CallEvent Response, f = event.step t.now

/-- What a handling does that concerns its candidates. -/
inductive HandlingMark where
  | routed (result : Except RouteError Decision)
  /-- The call of a candidate begins. -/
  | called (backend : String)
  /-- The call of a candidate is over. -/
  | ended (backend : String) (outcome : Except CallError Response)
  /-- The store has answered after a reply. -/
  | asked (call : StoreCall) (answer : StoreAnswer)

namespace Handling

variable (d : Dispatcher) (r : TaskRequest)

/-- A turn. -/
def act (t : TaskTurn) (stage : HandlingStage) : HandlingStage :=
  match t.event with
  | .answer a => (answered d r t.now a t.shared stage).2
  | .step f => (callStep d r t.now f t.shared stage).2
  | .cancel => (cancel t.shared stage).2

/-- What a turn makes of what all tasks share. -/
def leaves (t : TaskTurn) (stage : HandlingStage) : Shared :=
  match t.event with
  | .answer a => (answered d r t.now a t.shared stage).1
  | .step f => (callStep d r t.now f t.shared stage).1
  | .cancel => (cancel t.shared stage).1

/-- The decision for a task at a turn. -/
def routing (t : TaskTurn) : Except RouteError Decision :=
  d.config.routing.route r.task (d.catalog t.shared.guards.breakers t.now)

/-- The running call after a step. -/
def stepped (t : TaskTurn) (f : CallPlan → Breakers → Call Response → Breakers × Call Response)
    (current : CandidateCall) : Call Response :=
  let plan := t.shared.guards.plan current.backend d.config.history.callTimeout r.factor
  (f plan t.shared.guards.breakers current.call).2

/-- The mark of a call that has just begun. -/
def begun : HandlingStage → List HandlingMark
  | .calling _ _ current _ => [.called current.backend]
  | _ => []

/-- The marks of a turn. -/
def marks (t : TaskTurn) (stage : HandlingStage) : List HandlingMark :=
  match t.event, stage with
  | .answer a, .opening =>
    match stored r a with
    | .ok _ => .routed (routing d r t) :: begun (act d r t stage)
    | .error _ => []
  | .answer a, stage => (request? r stage).toList.map fun call => .asked call a
  | .step f, .calling _ _ current _ =>
    match (stepped d r t f current).stage with
    | .finished outcome => .ended current.backend outcome :: begun (act d r t stage)
    | _ => []
  | _, _ => []

/-- Turns one after another. -/
def run (turns : List TaskTurn) (stage : HandlingStage) : HandlingStage :=
  turns.foldl (fun stage t => act d r t stage) stage

/-- The marks of turns one after another. -/
def trace : List TaskTurn → HandlingStage → List HandlingMark
  | [], _ => []
  | t :: turns, stage => marks d r t stage ++ trace turns (act d r t stage)

end Handling

/-! ### What a turn can do -/

section

variable {d : Dispatcher} {r : TaskRequest} {t : TaskTurn}

/-- The call of a registered candidate that has just begun, with its window from what the candidate
advertises. -/
structure CandidateCall.Fresh (d : Dispatcher) (history : Conversation) (current : CandidateCall) :
    Prop where
  window : ∃ adapter,
    d.registry.get? current.backend = some adapter ∧ current.window = d.windowFor adapter history
  call : ∃ plan now, current.call = Call.start plan now

/-- A turn has left the call of a candidate running: its window is the same, and if it has taken a
step, that was not its last. -/
structure CandidateCall.Stays (before current : CandidateCall) : Prop where
  backend : current.backend = before.backend
  window : current.window = before.window
  call : current.call = before.call ∨ ∀ result, current.call.stage ≠ .finished result

/-- A call that has just begun has not finished. -/
theorem CandidateCall.Fresh.unfinished {history : Conversation} {current : CandidateCall}
    (h : current.Fresh d history) (result : Except CallError Response) :
    current.call.stage ≠ .finished result := by
  obtain ⟨plan, now, hcall⟩ := h.call
  rw [hcall, Call.start]
  split <;> exact nofun

namespace Handling

/-- Where the outcome of a candidate's call leads: a reply is to be stored, and a failure goes on
to the candidates that are left if another one may change it. -/
def Settled (d : Dispatcher) (r : TaskRequest) (now : Nat) (history : Conversation)
    (reason : Reason) (backend : String) (rest : List String) :
    Except CallError Response → HandlingStage → Prop
  | .ok response, next => ∃ reply : Reply, reply.backend = backend ∧ reply.response = response ∧
      reply.reason = reason ∧ reply.Whole r ∧ next = .storing history.version reply
  | .error e, next => if e.failsOver then
        ∃ s, next = (callNext d r now history reason (some e) s rest).2
      else next = .finished (.error (.ofCall e))

/-- A step of the running call leaves it running, breaks it, or is its last. -/
theorem act_step_cases {f : CallPlan → Breakers → Call Response → Breakers × Call Response}
    (history : Conversation) (reason : Reason) (current : CandidateCall) (rest : List String)
    (ht : t.event = .step f) :
    let stage : HandlingStage := .calling history reason current rest
    let call := stepped d r t f current
    (marks d r t stage = [] ∧ (∀ result, call.stage ≠ .finished result) ∧
      (act d r t stage = .calling history reason { current with call } rest ∨
        ∃ fault, act d r t stage = .crashed fault)) ∨
    ∃ outcome, call.stage = .finished outcome ∧
      marks d r t stage = .ended current.backend outcome :: begun (act d r t stage) ∧
      Settled d r t.now history reason current.backend rest outcome (act d r t stage) := by
  intro stage call
  have hact : act d r t stage
      = (settleCall d r t.now history reason { current with call } rest
          { t.shared with guards := (t.shared.guards.withBreakers fun b =>
              f (t.shared.guards.plan current.backend d.config.history.callTimeout r.factor) b
                current.call).1 }).2 := by
    rw [act, ht]
    rfl
  have hmarks : marks d r t stage = match call.stage with
      | .finished outcome => .ended current.backend outcome :: begun (act d r t stage)
      | _ => [] := by
    unfold marks
    rw [ht]
  rw [hmarks, hact]
  unfold settleCall
  -- only a call that is finished or crashed does not stay the one that runs
  cases hcall : call.stage with
  | finished outcome =>
    refine Or.inr ⟨outcome, rfl, rfl, ?_⟩
    cases outcome with
    | ok response => exact ⟨_, rfl, rfl, rfl, ⟨_, rfl⟩, rfl⟩
    | error e =>
      rw [Settled]
      simp only
      split
      · exact ⟨_, rfl⟩
      · rfl
  | crashed fault => exact Or.inl ⟨rfl, nofun, Or.inr ⟨fault, rfl⟩⟩
  | ready => exact Or.inl ⟨rfl, nofun, Or.inl rfl⟩
  | running a => exact Or.inl ⟨rfl, nofun, Or.inl rfl⟩
  | waiting w => exact Or.inl ⟨rfl, nofun, Or.inl rfl⟩
  | cancelled => exact Or.inl ⟨rfl, nofun, Or.inl rfl⟩

/-- The candidates that are left are gone through until one is called. -/
theorem fresh_of_callNext {now : Nat} {history history' : Conversation} {reason reason' : Reason}
    {last : Option CallError} {s : Shared} {names rest : List String} {current : CandidateCall}
    (h : (callNext d r now history reason last s names).2
      = .calling history' reason' current rest) : current.Fresh d history' := by
  induction names with
  | nil => cases last <;> cases h
  | cons name names ih =>
    rw [callNext] at h
    split at h
    · exact ih h
    · next adapter hadapter =>
      cases h
      exact ⟨⟨adapter, hadapter, rfl⟩, ⟨_, _, rfl⟩⟩

/-- **A call that runs after a turn has just begun, or it ran before.** -/
theorem act_calling_cases {stage : HandlingStage} {history : Conversation} {reason : Reason}
    {current : CandidateCall} {rest : List String}
    (h : act d r t stage = .calling history reason current rest) :
    current.Fresh d history ∨
      ∃ before, stage = .calling history reason before rest ∧ before.Stays current := by
  cases hevent : t.event with
  | answer a =>
    have hact : act d r t stage = (answered d r t.now a t.shared stage).2 := by rw [act, hevent]
    rw [hact] at h
    cases stage with
    | opening =>
      rw [answered] at h
      split at h
      · rw [route] at h
        split at h
        · cases h
        · exact Or.inl (fresh_of_callNext h)
      · cases h
    | calling history reason current rest =>
      cases h
      exact Or.inr ⟨current, rfl, rfl, rfl, Or.inl rfl⟩
    | storing version reply =>
      rw [answered] at h
      split at h <;> cases h
    | reloading reply =>
      rw [answered] at h
      split at h <;> cases h
    | storingAgain version reply =>
      rw [answered] at h
      split at h <;> cases h
    | finished result => cases h
    | cancelled => cases h
    | crashed fault => cases h
  | step f =>
    cases stage with
    | calling history reason current rest =>
      rcases act_step_cases (d := d) (r := r) history reason current rest hevent with
        ⟨-, hgoes, hact | ⟨fault, hact⟩⟩ | ⟨outcome, -, -, hsettled⟩
      · cases hact.symm.trans h
        exact Or.inr ⟨current, rfl, rfl, rfl, Or.inr hgoes⟩
      · cases hact.symm.trans h
      · rw [h] at hsettled
        cases outcome with
        | ok response =>
          obtain ⟨reply, -, -, -, -, hnext⟩ := hsettled
          cases hnext
        | error e =>
          rw [Settled] at hsettled
          split at hsettled
          · obtain ⟨s, hnext⟩ := hsettled
            exact Or.inl (fresh_of_callNext hnext.symm)
          · cases hsettled
    | _ =>
      rw [act, hevent] at h
      cases h
  | cancel =>
    rw [act, hevent] at h
    cases stage <;> cases h

/-- Nothing more happens to a handling that is over. -/
theorem act_of_isOver {stage : HandlingStage} (h : isOver stage = true) :
    act d r t stage = stage ∧ marks d r t stage = [] := by
  obtain ⟨now, shared, event⟩ := t
  cases stage with
  | finished result => cases event <;> exact ⟨rfl, rfl⟩
  | cancelled => cases event <;> exact ⟨rfl, rfl⟩
  | crashed fault => cases event <;> exact ⟨rfl, rfl⟩
  | opening => cases h
  | calling history reason current rest => cases h
  | storing version reply => cases h
  | reloading reply => cases h
  | storingAgain version reply => cases h

theorem trace_of_isOver {stage : HandlingStage} (h : isOver stage = true)
    (turns : List TaskTurn) : trace d r turns stage = [] := by
  induction turns with
  | nil => rfl
  | cons t turns ih =>
    obtain ⟨hact, hmarks⟩ := act_of_isOver (d := d) (r := r) (t := t) h
    rw [trace, hact, hmarks, ih]
    rfl

theorem run_of_isOver {stage : HandlingStage} (h : isOver stage = true)
    (turns : List TaskTurn) : run d r turns stage = stage := by
  induction turns with
  | nil => rfl
  | cons t turns ih =>
    show run d r turns (act d r t stage) = stage
    rw [(act_of_isOver h).1, ih]

end Handling

/-! ### Whose error it is -/

@[simp] theorem HandlingError.backend_ofCall (e : CallError) : (ofCall e).backend = e.backend? := by
  cases e <;> rfl

/-- Errors in a trace name the candidates whose calls have ended with them. -/
def Attributed (ms : List HandlingMark) : Prop :=
  ∀ c e, .ended c (.error e) ∈ ms → e.backend? = some c

theorem Attributed.append {ms ms' : List HandlingMark} (h : Attributed ms) (h' : Attributed ms') :
    Attributed (ms ++ ms') := fun c e hmem =>
  (List.mem_append.mp hmem).elim (h c e) (h' c e)

namespace Handling

/-- A call that has finished does not stay the one that is running. -/
def Unfinished : HandlingStage → Prop
  | .calling _ _ current _ => ∀ result, current.call.stage ≠ .finished result
  | _ => True

theorem attributed_begun (stage : HandlingStage) : Attributed (begun stage) := by
  intro c e hmem
  cases stage <;> simp [begun] at hmem

/-- A turn leaves no call running that has finished. -/
theorem unfinished_act {stage : HandlingStage} (h : Unfinished stage) (t : TaskTurn) :
    Unfinished (act d r t stage) := by
  cases hact : act d r t stage with
  | calling history reason current rest =>
    rcases act_calling_cases hact with hfresh | ⟨before, rfl, hstays⟩
    · exact hfresh.unfinished
    · rcases hstays.call with hcall | hgoes
      · rw [Unfinished, hcall]
        exact h
      · exact hgoes
  | _ => trivial

/-- An error that ends a call at a turn names the candidate that was called. -/
theorem attributed_marks {stage : HandlingStage} (h : Unfinished stage) (ht : t.Genuine) :
    Attributed (marks d r t stage) := by
  intro c e hmem
  cases hevent : t.event with
  | answer a =>
    unfold marks at hmem
    rw [hevent] at hmem
    cases stage with
    | opening =>
      simp only at hmem
      split at hmem
      · exact attributed_begun _ c e ((List.mem_cons.mp hmem).resolve_left nofun)
      · cases hmem
    | _ =>
      obtain ⟨call, -, hcall⟩ := List.mem_map.mp hmem
      cases hcall
  | cancel =>
    unfold marks at hmem
    rw [hevent] at hmem
    cases hmem
  | step f =>
    cases stage with
    | calling history reason current rest =>
      rcases act_step_cases (d := d) (r := r) history reason current rest hevent with
        ⟨hmarks, -⟩ | ⟨outcome, hcall, hmarks, -⟩
      · rw [hmarks] at hmem
        cases hmem
      · rw [hmarks] at hmem
        rcases List.mem_cons.mp hmem with hended | hbegun
        · -- the call is finished at this turn, and not before
          cases hended
          obtain ⟨event, rfl⟩ := ht f hevent
          exact Call.backend?_of_act h hcall
        · exact attributed_begun _ c e hbegun
    | _ =>
      unfold marks at hmem
      rw [hevent] at hmem
      cases hmem

/-- **Errors name the candidates whose calls have ended with them.** -/
theorem attributed_trace {stage : HandlingStage} (h : Unfinished stage) (turns : List TaskTurn)
    (hturns : ∀ t ∈ turns, t.Genuine) : Attributed (trace d r turns stage) := by
  induction turns generalizing stage with
  | nil => exact nofun
  | cons t turns ih =>
    obtain ⟨ht, hturns⟩ := List.forall_mem_cons.mp hturns
    exact (attributed_marks h ht).append (ih (unfinished_act h t) hturns)

end Handling

end

end Dispatch
