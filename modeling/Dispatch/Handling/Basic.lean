/-
Dispatch/Handling/Basic.lean

Handling one task, from its admission to the reply in the store.

A task spends a token of its caller, opens its conversation, is routed, and goes to the
candidates one after another until one replies or fails in a way that another one would not
change.  The payload and the reply are then appended to the conversation together.  If the
conversation has changed meanwhile, they are appended once more to what it is now.

A handling waits for the store and for the call that is running; what it does between is a
single step, and other tasks may take steps in between:

* `begin` counts the task and asks for admission;
* `answered` takes in the answer of the store to `request?`;
* `callStep` lets the running call take a step;
* `cancel` abandons the task wherever it waits.
-/
import Dispatch.Handling.Dispatcher

namespace Dispatch

/-- A task as it is handed over. -/
structure TaskRequest where
  caller : String
  task : Task
  /-- The conversation that is started if the task continues none. -/
  freshId : String
  /-- Scales the delays between attempts. -/
  factor : Nat → BinaryFraction

/-- The conversation of a task. -/
def TaskRequest.conversation (r : TaskRequest) : String := r.task.conversation.getD r.freshId

/-- What a caller gets for a task. -/
structure TaskResponse where
  content : String
  /-- The backend that replied. -/
  backend : String
  model : String
  usage : TokenUsage
  conversation : String
  /-- The version of the conversation with the reply. -/
  version : Nat
  /-- Why the backend was a candidate. -/
  reason : Reason
  deriving DecidableEq, Repr

/-- A candidate that is being called. -/
structure CandidateCall where
  backend : String
  /-- The history that it is sent. -/
  window : Conversation
  since : Nat
  call : Call Response
  deriving Repr

/-- A reply that has to be stored. -/
structure Reply where
  backend : String
  response : Response
  reason : Reason
  /-- The payload and the content, to be appended together. -/
  exchange : List Message
  deriving DecidableEq, Repr

/-- Where the handling of a task stands. -/
inductive HandlingStage where
  /-- Waiting for the conversation. -/
  | opening
  /-- Calling a candidate; the rest of the candidates comes after it. -/
  | calling (history : Conversation) (reason : Reason) (current : CandidateCall)
    (rest : List String)
  /-- Waiting for the reply to be appended to the version that was opened. -/
  | storing (version : Nat) (reply : Reply)
  /-- Waiting for the conversation as it is after a conflict. -/
  | reloading (reply : Reply)
  /-- Waiting for the reply to be appended after a conflict. -/
  | storingAgain (version : Nat) (reply : Reply)
  | finished (result : Except HandlingError TaskResponse)
  | cancelled
  | crashed (fault : TimeFault)
  deriving Repr

/-- Whether another candidate may do better after a call that failed. -/
def CallError.failsOver : CallError → Bool
  | .circuitOpen _ | .retriesExhausted .. | .deadlineExceeded .. => true
  | .backend _ failure =>
    match failure.category with
    | .rateLimited | .authFailure | .unknown => true
    | .transient | .invalid => false
  | .rateLimited _ => false

namespace Handling

/-! ### Ends -/

/-- Ends a handling with an error, which is counted. -/
def fail (e : HandlingError) (s : Shared) : Shared × HandlingStage :=
  ({ s with metrics := (s.metrics.recordTaskError e.code).untrack }, .finished (.error e))

/-- Ends a handling with a response. -/
def succeed (r : TaskRequest) (reply : Reply) (stored : Conversation) (s : Shared) :
    Shared × HandlingStage :=
  ({ s with metrics := s.metrics.untrack }, .finished (.ok {
    content := reply.response.content
    backend := reply.backend
    model := reply.response.model
    usage := reply.response.usage
    conversation := r.conversation
    version := stored.version
    reason := reply.reason }))

/-! ### Candidates -/

/-- Goes on to the next candidate that is registered; with none left, the last error stands. -/
def callNext (d : Dispatcher) (r : TaskRequest) (now : Nat) (history : Conversation)
    (reason : Reason) (last : Option CallError) (s : Shared) :
    List String → Shared × HandlingStage
  | [] =>
    match last with
    | some e => fail (.ofCall e) s
    | none => fail { kind := .noBackends } s
  | name :: rest =>
    match d.registry.get? name with
    | none => callNext d r now history reason last s rest
    | some adapter =>
      let plan := s.guards.plan name d.config.history.callTimeout r.factor
      let window := d.windowFor adapter history
      let current := { backend := name, window, since := now, call := Call.start plan now }
      (s, .calling history reason current rest)

/-- The payload of a task and the content of the response to it. -/
def exchange (d : Dispatcher) (r : TaskRequest) (now : Nat) (response : Response) :
    List Message :=
  let stamp := d.timeOfDay now
  [Message.said .user r.task.payload stamp, Message.said .assistant response.content stamp]

/-- Looks at a call after a step: one that is over is recorded, and the handling goes on. -/
def settleCall (d : Dispatcher) (r : TaskRequest) (now : Nat) (history : Conversation)
    (reason : Reason) (current : CandidateCall) (rest : List String) (s : Shared) :
    Shared × HandlingStage :=
  match current.call.stage with
  | .finished outcome =>
    let elapsed := Duration.saturating (now - current.since)
    let s := { s with metrics := s.metrics.recordCall current.backend elapsed outcome }
    match outcome with
    | .ok response =>
      let reply : Reply := {
        backend := current.backend
        response, reason
        exchange := exchange d r now response }
      (s, .storing history.version reply)
    | .error e =>
      if e.failsOver then callNext d r now history reason (some e) s rest
      else fail (.ofCall e) s
  | .crashed fault => ({ s with metrics := s.metrics.untrack }, .crashed fault)
  | .ready | .running _ | .waiting _ | .cancelled => (s, .calling history reason current rest)

/-! ### Steps -/

/-- Counts the task and asks for admission. -/
def begin (r : TaskRequest) (now : Nat) (s : Shared) : Shared × HandlingStage :=
  let s := { s with metrics := s.metrics.track }
  match s.guards.admission r.caller now with
  | (guards, .ok ()) => ({ s with guards }, .opening)
  | (guards, .error e) => fail (.ofCall e) { s with guards }

/-- The call that the store has to answer. -/
def request? (r : TaskRequest) : HandlingStage → Option StoreCall
  | .opening => some (.getOrCreate r.conversation r.task.project)
  | .storing version reply | .storingAgain version reply =>
    some (.append r.conversation reply.exchange version)
  | .reloading _ => some (.load r.conversation)
  | .calling .. | .finished _ | .cancelled | .crashed _ => none

/-- The conversation that a store answers with, or why there is none. -/
def stored (r : TaskRequest) (answer : StoreAnswer) : Except StoreError Conversation :=
  match answer with
  | .ok (some c) => .ok c
  | .ok none => .error (.notFound r.conversation)
  | .error e => .error e

/-- Routes a task over the catalog as it is now, and goes on to the first candidate. -/
def route (d : Dispatcher) (r : TaskRequest) (now : Nat) (history : Conversation) (s : Shared) :
    Shared × HandlingStage :=
  match d.config.routing.route r.task (d.catalog s.guards.breakers now) with
  | .error e => fail (.ofRoute e) s
  | .ok decision => callNext d r now history decision.reason none s decision.candidates

/-- Takes in the answer of the store. -/
def answered (d : Dispatcher) (r : TaskRequest) (now : Nat) (answer : StoreAnswer) (s : Shared) :
    HandlingStage → Shared × HandlingStage
  | .opening =>
    match stored r answer with
    | .ok history => route d r now history s
    | .error e => fail (.ofStore e) s
  | .storing _ reply =>
    match stored r answer with
    | .ok c => succeed r reply c s
    | .error (.versionConflict ..) => (s, .reloading reply)
    | .error e => fail (.ofStore e) s
  | .reloading reply =>
    match stored r answer with
    | .ok fresh => (s, .storingAgain fresh.version reply)
    | .error e => fail (.ofStore e) s
  | .storingAgain _ reply =>
    match stored r answer with
    | .ok c => succeed r reply c s
    | .error e => fail (.ofStore e) s
  | stage => (s, stage)

/-- Lets the running call take a step. -/
def callStep (d : Dispatcher) (r : TaskRequest) (now : Nat)
    (step : CallPlan → Breakers → Call Response → Breakers × Call Response) (s : Shared) :
    HandlingStage → Shared × HandlingStage
  | .calling history reason current rest =>
    let plan := s.guards.plan current.backend d.config.history.callTimeout r.factor
    let (guards, call) := s.guards.withBreakers fun b => step plan b current.call
    settleCall d r now history reason { current with call } rest { s with guards }
  | stage => (s, stage)

/-- Abandons a task; the permit of a running attempt is given back. -/
def cancel (s : Shared) : HandlingStage → Shared × HandlingStage
  | .finished result => (s, .finished result)
  | .cancelled => (s, .cancelled)
  | .crashed fault => (s, .crashed fault)
  | .calling _ _ current _ =>
    let guards := (s.guards.withBreakers fun b => current.call.cancel b).1
    ({ guards, metrics := s.metrics.untrack }, .cancelled)
  | .opening | .storing .. | .reloading _ | .storingAgain .. =>
    ({ s with metrics := s.metrics.untrack }, .cancelled)

/-- Whether nothing is left to do. -/
def isOver : HandlingStage → Bool
  | .finished _ | .cancelled | .crashed _ => true
  | .opening | .calling .. | .storing .. | .reloading _ | .storingAgain .. => false

end Handling

end Dispatch
