/-
Dispatch/Proofs/Handling/Stage.lean

What one step of a handling can lead to.

Between its conversation and its reply a handling goes from candidate to candidate, and all that
counts for the store is how that ends: with a reply to be stored at the version that was opened,
or without one (`Onward`).  That holds however routing and calls go, so what they do is not looked
at again.

Only the store reports conflicts: errors of routing and of calls have other codes
(`code_ofCall_ne`, `code_ofRoute_ne`).
-/
import Dispatch.Handling.Basic

namespace Dispatch

/-! ### Codes -/

namespace HandlingError

theorem code_ofCall_ne (e : CallError) : (ofCall e).code ≠ "version_conflict" := by
  cases e with
  | rateLimited retryAfter => simp [ofCall, code, ErrorKind.code]
  | circuitOpen backend => simp [ofCall, code, ErrorKind.code]
  | retriesExhausted backend attempts last => simp [ofCall, code, ErrorKind.code]
  | deadlineExceeded backend timeout => simp [ofCall, code, ErrorKind.code]
  | backend backend failure =>
    show "backend_" ++ failure.category.name ≠ "version_conflict"
    cases failure.category <;> decide

theorem code_ofRoute_ne (e : RouteError) : (ofRoute e).code ≠ "version_conflict" := by
  cases e <;> simp [ofRoute, code, ErrorKind.code]

/-- Of the errors of a store, only a conflict is reported as one. -/
theorem code_ofStore_eq {e : StoreError} (h : (ofStore e).code = "version_conflict") :
    ∃ expected actual, e = .versionConflict expected actual := by
  cases e with
  | versionConflict expected actual => exact ⟨expected, actual, rfl⟩
  | notFound id => simp [ofStore, code, ErrorKind.code] at h
  | storage => simp [ofStore, code, ErrorKind.code] at h
  | corrupt detail => simp [ofStore, code, ErrorKind.code] at h

end HandlingError

/-! ### From the conversation to the reply -/

/-- A reply is to be stored with the payload that it answers. -/
def Reply.Whole (r : TaskRequest) (reply : Reply) : Prop :=
  ∃ stamp, reply.exchange = [Message.said .user r.task.payload stamp,
    Message.said .assistant reply.response.content stamp]

/-- Where a handling can be once its conversation is open, until it has to be stored. -/
inductive Onward (r : TaskRequest) (history : Conversation) : HandlingStage → Prop
  | calling (reason : Reason) (current : CandidateCall) (rest : List String) :
      Onward r history (.calling history reason current rest)
  | storing {reply : Reply} (h : reply.Whole r) : Onward r history (.storing history.version reply)
  | failed {e : HandlingError} (h : e.code ≠ "version_conflict") :
      Onward r history (.finished (.error e))
  | crashed (fault : TimeFault) : Onward r history (.crashed fault)

namespace Handling

variable {d : Dispatcher} {r : TaskRequest} {now : Nat} {history : Conversation} {reason : Reason}
  {s : Shared}

theorem onward_callNext {last : Option CallError} {names : List String} :
    Onward r history (callNext d r now history reason last s names).2 := by
  induction names with
  | nil =>
    unfold callNext
    cases last with
    | some e => exact .failed (HandlingError.code_ofCall_ne e)
    | none => exact .failed (by decide)
  | cons name rest ih =>
    unfold callNext
    split
    · exact ih
    · exact .calling ..

theorem onward_settleCall {current : CandidateCall} {rest : List String} :
    Onward r history (settleCall d r now history reason current rest s).2 := by
  unfold settleCall
  split
  · simp only
    split
    · exact .storing ⟨_, rfl⟩
    · split
      · exact onward_callNext
      · exact .failed (HandlingError.code_ofCall_ne _)
  · exact .crashed _
  all_goals exact .calling ..

theorem onward_callStep {step : CallPlan → Breakers → Call Response → Breakers × Call Response}
    {current : CandidateCall} {rest : List String} :
    Onward r history (callStep d r now step s (.calling history reason current rest)).2 :=
  onward_settleCall

theorem onward_route : Onward r history (route d r now history s).2 := by
  unfold route
  split
  · exact .failed (HandlingError.code_ofRoute_ne _)
  · exact onward_callNext

/-- A handling begins by opening its conversation, unless it is not admitted. -/
theorem begin_cases (r : TaskRequest) (now : Nat) (s : Shared) :
    (begin r now s).2 = .opening ∨
      ∃ e, e.code ≠ "version_conflict" ∧ (begin r now s).2 = .finished (.error e) := by
  unfold begin
  simp only
  split
  · exact Or.inl rfl
  · exact Or.inr ⟨_, HandlingError.code_ofCall_ne _, rfl⟩

end Handling

end Dispatch
