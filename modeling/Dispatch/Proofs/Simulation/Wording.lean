/-
Dispatch/Proofs/Simulation/Wording.lean

What backends write in their failures does not show.

Two dispatchers handle the same tasks from the same state, over backends that give the same
outcomes at the same times, but for the texts of their failures.  Their tasks run in lockstep
(`SimulatedTask.lockstep`): as long as a task goes on it is at the same stage in both, with the same
call, the same attempt and the same delays.  So they read and write the store alike, count alike,
and leave breakers and limiter alike, and every task ends at the same time, with the same response
or with errors that tell the caller the same.  That tasks do end is `Session.handle_ends`.

The clock of a session puts the turns of its tasks in one order.  What holds of all orders is
`Handlings.Alike.run`, and the main theorem has both.
-/
import Dispatch.Proofs.Handling.Wording
import Dispatch.Proofs.Simulation.Ending
import Dispatch.Proofs.Simulation.Lockstep
import Dispatch.Store.Memory

namespace Dispatch

variable {σ β β' : Type}

/-! ### Backends -/

/-- Attempts that take the same time and differ in the text of a failure at most. -/
structure ScriptedAttempt.Alike (a a' : ScriptedAttempt Response) : Prop where
  delay : a.delay = a'.delay
  outcome : UpTo Failure.Alike a.outcome a'.outcome

/-- Backends that give the same outcomes at the same times but for the texts of failures, from
states that are related, whatever they are sent. -/
def Behaviour.Alike (R : β → β' → Prop) (f : Behaviour β) (f' : Behaviour β') : Prop :=
  ∀ b b', R b b' → ∀ backend window task,
    R (f b backend window task).1 (f' b' backend window task).1 ∧
      (f b backend window task).2.Alike (f' b' backend window task).2

/-- Everything is the same but the backends, which are related. -/
structure SimulatedWorld.Alike (R : β → β' → Prop) (w : SimulatedWorld σ β)
    (w' : SimulatedWorld σ β') : Prop where
  shared : w.shared = w'.shared
  store : w.store = w'.store
  backends : R w.backends w'.backends

/-- The same task at stages that are alike, with attempts that are alike. -/
structure SimulatedTask.Alike (t t' : SimulatedTask) : Prop where
  request : t.request = t'.request
  stage : Option.Rel HandlingStage.Alike t.stage t'.stage
  attempt : Option.Rel ScriptedAttempt.Alike t.attempt t'.attempt

theorem rel_map {α α' γ γ' : Type} {R : α → α' → Prop} {S : γ → γ' → Prop} {g : α → γ}
    {g' : α' → γ'} {x : Option α} {x' : Option α'} (hx : Option.Rel R x x')
    (h : ∀ a a', R a a' → S (g a) (g' a')) : Option.Rel S (x.map g) (x'.map g') := by
  cases hx with
  | none => exact .none
  | some ha => exact .some (h _ _ ha)

/-! ### Steps -/

namespace SimulatedTask

variable {R : β → β' → Prop} {f : Behaviour β} {f' : Behaviour β'}
  {attempt attempt' : Option (ScriptedAttempt Response)}

/-- A call takes a step for the same reason in both. -/
theorem rel_callStep? (h : Option.Rel ScriptedAttempt.Alike attempt attempt') (now : Nat)
    (c : Call Response) :
    Option.Rel Call.StepAlike (callStep? attempt now c) (callStep? attempt' now c) := by
  unfold callStep?
  cases c.stage with
  | running a =>
    cases h with
    | none => exact rel_refl Call.StepAlike.refl _
    | some hattempt =>
      simp only [hattempt.delay]
      split
      · exact .some (Call.stepAlike_complete hattempt.outcome now)
      · exact rel_refl Call.StepAlike.refl _
  | _ => exact rel_refl Call.StepAlike.refl _

/-- The same is sent to backends, or nothing in both. -/
theorem alike_send (hf : f.Alike R f') (r : TaskRequest) (before : Call Response)
    {stage stage' : HandlingStage} (hstage : stage.Alike stage') {b : β} {b' : β'} (hb : R b b') :
    R (send f r before stage b).1 (send f' r before stage' b').1 ∧
      Option.Rel ScriptedAttempt.Alike (send f r before stage b).2
        (send f' r before stage' b').2 := by
  unfold send
  cases hstage with
  | failed he => cases before.stage <;> exact ⟨hb, .none⟩
  | same =>
    split
    · split
      · obtain ⟨hnext, hattempt⟩ := hf _ _ hb _ _ _
        exact ⟨hnext, .some hattempt⟩
      · exact ⟨hb, .none⟩
    · exact ⟨hb, .none⟩

variable [ConversationStore σ] {d : Dispatcher} {w : SimulatedWorld σ β} {w' : SimulatedWorld σ β'}
  {t t' : SimulatedTask}

/-- What a step has led to is alike. -/
def SteppedAlike (R : β → β' → Prop) (x : SimulatedWorld σ β × SimulatedTask)
    (x' : SimulatedWorld σ β' × SimulatedTask) : Prop := x.1.Alike R x'.1 ∧ x.2.Alike x'.2

/-- A call takes a step, and what it starts is sent. -/
theorem rel_step?_calling (hf : f.Alike R f') (now : Nat) (hw : w.Alike R w') (r : TaskRequest)
    (h : Option.Rel ScriptedAttempt.Alike attempt attempt') (history : Conversation)
    (reason : Reason) (current : CandidateCall) (rest : List String) :
    let stage := some (HandlingStage.calling history reason current rest)
    Option.Rel (SteppedAlike R) (step? d f now w { request := r, stage, attempt })
      (step? d f' now w' { request := r, stage, attempt := attempt' }) := by
  refine rel_map (rel_callStep? h now current.call) fun step step' hstep => ?_
  have hleaves : Handling.LeavesAlike
      (Handling.callStep d r now step w.shared (.calling history reason current rest))
      (Handling.callStep d r now step' w.shared (.calling history reason current rest)) :=
    Handling.leavesAlike_callStep hstep (.same _)
  obtain ⟨hshared, hstage⟩ := hleaves
  rw [← hw.shared]
  obtain ⟨hbackends, hattempt⟩ := alike_send hf r current.call hstage hw.backends
  exact ⟨⟨hshared, hw.store, hbackends⟩, ⟨rfl, .some hstage, hattempt⟩⟩

/-- **A task takes a step in both or in neither**, and it leads to what is alike. -/
theorem rel_step? (hf : f.Alike R f') (now : Nat) (hw : w.Alike R w') (ht : t.Alike t') :
    Option.Rel (SteppedAlike R) (step? d f now w t) (step? d f' now w' t') := by
  obtain ⟨r, stage, attempt⟩ := t
  obtain ⟨r', stage', attempt'⟩ := t'
  obtain ⟨shared, store, b⟩ := w
  obtain ⟨shared', store', b'⟩ := w'
  obtain rfl : r = r' := ht.request
  obtain rfl : shared = shared' := hw.shared
  obtain rfl : store = store' := hw.store
  have hb : R b b' := hw.backends
  have hstage : Option.Rel HandlingStage.Alike stage stage' := ht.stage
  have hattempt : Option.Rel ScriptedAttempt.Alike attempt attempt' := ht.attempt
  -- what is not about backends is now the same on both sides
  have same {stage : HandlingStage} {shared : Shared} {store : σ} :
      SteppedAlike R
        ({ shared, store, backends := b },
          { request := r, stage := some stage, attempt })
        ({ shared, store, backends := b' },
          { request := r, stage := some stage, attempt := attempt' }) :=
    ⟨⟨rfl, rfl, hb⟩, ⟨rfl, .some (.same _), hattempt⟩⟩
  cases hstage with
  | none => exact .some same
  | @some stage stage' hstage =>
    cases hstage with
    | failed he => exact .none
    | same =>
      cases stage with
      | calling history reason current rest =>
        exact rel_step?_calling hf now hw r hattempt history reason current rest
      | opening => exact .some same
      | storing version reply => exact .some same
      | reloading reply => exact .some same
      | storingAgain version reply => exact .some same
      | finished result => exact .none
      | cancelled => exact .none
      | crashed fault => exact .none

/-- A task waits for the same time in both. -/
theorem wake?_eq (ht : t.Alike t') : t.wake? = t'.wake? := by
  obtain ⟨r, stage, attempt⟩ := t
  obtain ⟨r', stage', attempt'⟩ := t'
  have hstage : Option.Rel HandlingStage.Alike stage stage' := ht.stage
  have hattempt : Option.Rel ScriptedAttempt.Alike attempt attempt' := ht.attempt
  cases hstage with
  | none => rfl
  | some hstage =>
    cases hstage with
    | failed he => rfl
    | same stage =>
      cases hattempt with
      | none => rfl
      | some hattempt =>
        unfold wake?
        simp only [Option.map_some, hattempt.delay]

/-- **The tasks of both run in lockstep.** -/
theorem lockstep (d : Dispatcher) (hf : f.Alike R f') :
    Lockstep (process (σ := σ) d f) (process d f') (SimulatedWorld.Alike R)
      SimulatedTask.Alike where
  step now _ _ _ _ hw ht := rel_step? hf now hw ht
  wake ht := wake?_eq ht
  limit _ := rfl

end SimulatedTask

/-! ### Runs -/

theorem SimulatedTask.result?_eq (t : SimulatedTask) :
    t.result? = t.stage.bind HandlingStage.result? := by
  obtain ⟨r, - | stage, attempt⟩ := t
  · rfl
  · cases stage <;> rfl

theorem SimulatedTask.Alike.result {t t' : SimulatedTask} (h : t.Alike t') :
    Option.Rel SameToCaller t.result? t'.result? := by
  rw [t.result?_eq, t'.result?_eq]
  exact HandlingStage.rel_result? h.stage

namespace Session

variable [ConversationStore σ] {R : β → β' → Prop} {f : Behaviour β} {f' : Behaviour β'}

/-- **What backends write in their failures does not show.**  Both groups of tasks take the same
time, leave the same behind, and come to results that callers cannot tell apart.  With a valid
configuration and its retries every task does come to a result, unless one crashes.

That does not rest on the order in which the tasks take their turns: in any order, with other users
of the store in between, two runs in which the same happens but for the texts of failures share the
same after every turn, ask the store the same and get the same from it, and give every caller the
same result. -/
theorem wording_unseen (hf : f.Alike R f') (d : Dispatcher) (now : Nat)
    {w : SimulatedWorld σ β} {w' : SimulatedWorld σ β'} (hw : w.Alike R w')
    (requests : List TaskRequest) :
    let s : Session σ β := { dispatcher := d, world := w, now }
    let s' : Session σ β' := { dispatcher := d, world := w', now }
    let r := s.handle f requests
    let r' := s'.handle f' requests
    (r.1.now = r'.1.now ∧ r.1.world.Alike R r'.1.world ∧
      List.Forall₂ (fun t t' => Option.Rel SameToCaller t.result? t'.result?) r.2 r'.2 ∧
      (d.config.validate = .ok () → w.shared.guards.retry = d.config.resilience.retry →
        (∀ t ∈ r.2, ∃ result, t.result? = some result) ∨ ∃ t ∈ r.2, t.Crashed)) ∧
    ∀ (start : Handlings) (tasks : Nat → TaskRequest) (ts ts' : List HandlingTurn),
      List.Forall₂ HandlingTurn.Alike ts ts' →
        let u := start.run d tasks ts
        let u' := start.run d tasks ts'
        u.Alike u' ∧ ∀ i, Option.Rel SameToCaller (u.result? i) (u'.result? i) := by
  intro s s' r r'
  have htasks : List.Forall₂ SimulatedTask.Alike
      (requests.map fun request => { request : SimulatedTask })
      (requests.map fun request => { request : SimulatedTask }) := by
    induction requests with
    | nil => exact .nil
    | cons request rest ih => exact .cons ⟨rfl, .none, .none⟩ ih
  obtain ⟨hnow, hworld, hend⟩ := (SimulatedTask.lockstep d hf).run now hw htasks
  refine ⟨⟨hnow, hworld, hend.imp fun _ _ h => h.result, fun hvalid hretry => ?_⟩,
    fun start tasks ts ts' hts => ?_⟩
  · exact s.handle_ends f requests (Config.validate_eq_ok_iff.mp hvalid).rules hretry
  · have halike : (start.run d tasks ts).Alike (start.run d tasks ts') :=
      (Handlings.Alike.refl start).run hts
    exact ⟨halike, halike.result⟩

namespace Example

/-- A failure with a text of its own. -/
def rejected (text : String) : Failure := { category := .authFailure, message := text }

/-- Backends that reject all that they are sent. -/
def rejecting (text : String) : Behaviour Unit := fun _ _ _ _ =>
  ((), { outcome := .error (rejected text) })

def untouched : SimulatedWorld MemoryStore Unit where
  shared := Handling.Example.dispatcher.shared
  store := {}
  backends := ()

/-- A task is rejected by both backends. -/
def turns (text : String) : List HandlingTurn :=
  let rejection : CallEvent Response := .complete (.error (rejected text))
  [.begin 0 0, .store 0 0, .call 0 0 (CallEvent.attempt.step 0), .call 0 1 (rejection.step 1),
    .call 0 1 (CallEvent.attempt.step 1), .call 0 2 (rejection.step 2)]

end Example

open Example in
/-- Neither of two texts gets to the caller. -/
theorem rejected_without_text :
    (rejecting "key one").Alike (fun _ _ => True) (rejecting "key two") ∧
    List.Forall₂ HandlingTurn.Alike (turns "key one") (turns "key two") ∧
    let s : Session MemoryStore Unit := {
      dispatcher := Handling.Example.dispatcher, world := untouched }
    let r := s.handle (rejecting "key one") [Handling.Example.request]
    let r' := s.handle (rejecting "key two") [Handling.Example.request]
    let start : Handlings := { shared := Handling.Example.dispatcher.shared }
    let u := start.run Handling.Example.dispatcher (fun _ => Handling.Example.request)
      (turns "key one")
    let u' := start.run Handling.Example.dispatcher (fun _ => Handling.Example.request)
      (turns "key two")
    (r.2.map fun t => t.result?.map fun
      | .ok response => response.content
      | .error e => e.code) = [some "backend_auth_failure"] ∧
    r.1.now = r'.1.now ∧ r.1.world.Alike (fun _ _ => True) r'.1.world ∧
      List.Forall₂ (fun t t' => Option.Rel SameToCaller t.result? t'.result?) r.2 r'.2 ∧
      ((∀ t ∈ r.2, ∃ result, t.result? = some result) ∨ ∃ t ∈ r.2, t.Crashed) ∧
    ((u.result? 0).map fun
      | .ok response => response.content
      | .error e => e.code) = some "backend_auth_failure" ∧
    u.Alike u' ∧ ∀ i, Option.Rel SameToCaller (u.result? i) (u'.result? i) := by
  have halike : (rejecting "key one").Alike (fun _ _ => True) (rejecting "key two") :=
    fun _ _ _ _ _ _ => ⟨trivial, ⟨rfl, .error rfl⟩⟩
  have hrejection : UpTo (α := Response) Failure.Alike
      (.error (rejected "key one")) (.error (rejected "key two")) := .error rfl
  have hturns : List.Forall₂ HandlingTurn.Alike (turns "key one") (turns "key two") :=
    .cons (.same _) <| .cons (.same _) <| .cons (.same _) <|
      .cons (.call 0 1 (Call.stepAlike_complete hrejection 1)) <| .cons (.same _) <|
      .cons (.call 0 2 (Call.stepAlike_complete hrejection 2)) .nil
  obtain ⟨⟨hnow, hworld, hresults, hends⟩, hruns⟩ := wording_unseen halike
    Handling.Example.dispatcher 0 (w := untouched) ⟨rfl, rfl, trivial⟩ [Handling.Example.request]
  refine ⟨halike, hturns, ?_, hnow, hworld, hresults, hends ?_ rfl, ?_, hruns _ _ _ _ hturns⟩
  · decide +kernel
  · decide +kernel
  · decide +kernel

end Session

end Dispatch
