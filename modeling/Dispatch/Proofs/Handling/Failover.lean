/-
Dispatch/Proofs/Handling/Failover.lean

From candidate to candidate.

`Failover` says which traces there are once a task is routed, and where each of them has led.  A
turn moves from one line of it to the next (`Failover.act`).  That there is always a line to move to
rests on the router: every candidate comes from the catalog, hence from the registry
(`registered_of_route`), so no candidate is passed over and the list is never empty.

What a call ends with is not looked at by any of this.  That an error names the candidate whose call
has ended with it is `attributed_trace`, and `Failover.error_cases` says which of the errors is the
one that is returned.
-/
import Dispatch.Proofs.Handling.Turn
import Dispatch.Proofs.Routing.Candidates

namespace Dispatch

/-! ### Traces of a task that is routed -/

/-- The marks of candidates that have failed one after another. -/
def failedMarks (failed : List (String × CallError)) : List HandlingMark :=
  failed.flatMap fun f => [.called f.1, .ended f.1 (.error f.2)]

/-- The candidates that have been called, in order. -/
def calledOf (marks : List HandlingMark) : List String :=
  marks.filterMap fun
    | .called backend => some backend
    | _ => none

/-- Storing a reply: what the store was asked and has answered, and where that has led. -/
inductive Delivery (r : TaskRequest) (reply : Reply) :
    List (StoreCall × StoreAnswer) → HandlingStage → Prop
  | storing (version : Nat) : Delivery r reply [] (.storing version reply)
  | reloading (version expected actual : Nat) :
      Delivery r reply [(.append r.conversation reply.exchange version,
        .error (.versionConflict expected actual))] (.reloading reply)
  | storingAgain {conflict : StoreCall × StoreAnswer} {fresh : Conversation}
      (h : Delivery r reply [conflict] (.reloading reply)) :
      Delivery r reply [conflict, (.load r.conversation, .ok (some fresh))]
        (.storingAgain fresh.version reply)
  /-- The exchange is stored, and the response is the reply. -/
  | stored {asked : List (StoreCall × StoreAnswer)} {stage : HandlingStage} {version : Nat}
      {c : Conversation} (h : Delivery r reply asked stage)
      (hcall : Handling.request? r stage = some (.append r.conversation reply.exchange version)) :
      Delivery r reply
        (asked ++ [(.append r.conversation reply.exchange version, .ok (some c))])
        (.finished (.ok {
          content := reply.response.content
          backend := reply.backend
          model := reply.response.model
          usage := reply.response.usage
          conversation := r.conversation
          version := c.version
          reason := reply.reason }))
  /-- The exchange is not stored, and the error of the store is returned. -/
  | refused {asked : List (StoreCall × StoreAnswer)} {stage : HandlingStage} {call : StoreCall}
      {a : StoreAnswer} {e : StoreError} (h : Delivery r reply asked stage)
      (hcall : Handling.request? r stage = some call) (ha : Handling.stored r a = .error e) :
      Delivery r reply (asked ++ [(call, a)]) (.finished (.error (.ofStore e)))
  | cancelled {asked : List (StoreCall × StoreAnswer)} {stage : HandlingStage}
      (h : Delivery r reply asked stage) : Delivery r reply asked .cancelled

/-- The traces of a task once it is routed, and where each of them has led.  In all of them
candidates have `failed` in a way that another one may change, and `c` is the one after them. -/
inductive Failover (r : TaskRequest) (decision : Decision) :
    List HandlingMark → HandlingStage → Prop
  /-- `c` is being called. -/
  | calling {failed : List (String × CallError)} {c : String} {rest : List String}
      {history : Conversation} {current : CandidateCall}
      (hfailed : ∀ f ∈ failed, f.2.failsOver = true)
      (hcandidates : decision.candidates = failed.map Prod.fst ++ c :: rest)
      (hcurrent : current.backend = c) :
      Failover r decision (failedMarks failed ++ [.called c])
        (.calling history decision.reason current rest)
  /-- The task was abandoned during the call of `c`, or the time of the call could not be
  computed. -/
  | broken {failed : List (String × CallError)} {c : String} {rest : List String}
      {stage : HandlingStage} (hfailed : ∀ f ∈ failed, f.2.failsOver = true)
      (hcandidates : decision.candidates = failed.map Prod.fst ++ c :: rest)
      (hstage : stage = .cancelled ∨ ∃ fault, stage = .crashed fault) :
      Failover r decision (failedMarks failed ++ [.called c]) stage
  /-- `c` has replied. -/
  | replied {failed : List (String × CallError)} {c : String} {rest : List String}
      {response : Response} {reply : Reply} {asked : List (StoreCall × StoreAnswer)}
      {stage : HandlingStage} (hfailed : ∀ f ∈ failed, f.2.failsOver = true)
      (hcandidates : decision.candidates = failed.map Prod.fst ++ c :: rest)
      (hbackend : reply.backend = c) (hresponse : reply.response = response)
      (hreason : reply.reason = decision.reason) (hwhole : reply.Whole r)
      (hdelivery : Delivery r reply asked stage) :
      Failover r decision
        (failedMarks failed ++ .called c :: .ended c (.ok response) ::
          asked.map fun x => .asked x.1 x.2) stage
  /-- `c` has failed in a way that no other candidate would change. -/
  | stopped {failed : List (String × CallError)} {c : String} {rest : List String}
      {e : CallError} (hfailed : ∀ f ∈ failed, f.2.failsOver = true)
      (hcandidates : decision.candidates = failed.map Prod.fst ++ c :: rest)
      (he : e.failsOver = false) :
      Failover r decision (failedMarks failed ++ [.called c, .ended c (.error e)])
        (.finished (.error (.ofCall e)))
  /-- All candidates have failed, and the error of the last one stands. -/
  | exhausted {failed : List (String × CallError)} {last : String × CallError}
      (hfailed : ∀ f ∈ failed, f.2.failsOver = true) (hlast : last.2.failsOver = true)
      (hcandidates : decision.candidates = (failed ++ [last]).map Prod.fst) :
      Failover r decision (failedMarks (failed ++ [last])) (.finished (.error (.ofCall last.2)))

/-! ### Steps -/

section

variable {d : Dispatcher} {r : TaskRequest} {t : TaskTurn} {decision : Decision}

@[simp] theorem failedMarks_append (failed failed' : List (String × CallError)) :
    failedMarks (failed ++ failed') = failedMarks failed ++ failedMarks failed' :=
  List.flatMap_append

@[simp] theorem failedMarks_singleton (f : String × CallError) :
    failedMarks [f] = [.called f.1, .ended f.1 (.error f.2)] := rfl

@[simp] theorem calledOf_append (ms ms' : List HandlingMark) :
    calledOf (ms ++ ms') = calledOf ms ++ calledOf ms' := List.filterMap_append

@[simp] theorem calledOf_called_cons (backend : String) (ms : List HandlingMark) :
    calledOf (.called backend :: ms) = backend :: calledOf ms := rfl

@[simp] theorem calledOf_ended_cons (backend : String) (outcome : Except CallError Response)
    (ms : List HandlingMark) : calledOf (.ended backend outcome :: ms) = calledOf ms := rfl

@[simp] theorem calledOf_nil : calledOf [] = [] := rfl

@[simp] theorem calledOf_asked (asked : List (StoreCall × StoreAnswer)) :
    calledOf (asked.map fun x => .asked x.1 x.2) = [] := by
  induction asked with
  | nil => rfl
  | cons x asked ih => exact ih

@[simp] theorem calledOf_failedMarks (failed : List (String × CallError)) :
    calledOf (failedMarks failed) = failed.map Prod.fst := by
  induction failed with
  | nil => rfl
  | cons f failed ih => exact congrArg (f.1 :: ·) ih

/-- The errors that no other candidate would change. -/
theorem CallError.failsOver_eq_false_iff {e : CallError} :
    e.failsOver = false ↔ (∃ retryAfter, e = .rateLimited retryAfter) ∨
      ∃ backend failure, e = .backend backend failure ∧
        (failure.category = .invalid ∨ failure.category = .transient) := by
  cases e with
  | backend backend failure =>
    obtain ⟨category, message⟩ := failure
    cases category <;> simp [failsOver]
  | _ => simp [failsOver]

/-- Every backend of the catalog is registered. -/
theorem Dispatcher.contains_of_catalog {b : Breakers} {now : Nat} {name : String}
    (h : (d.catalog b now).contains name = true) : d.registry.contains name = true := by
  rw [Table.contains, Dispatcher.catalog, Table.get?_filterMap] at h
  rw [Table.contains]
  cases hget : d.registry.get? name with
  | none => rw [hget] at h; exact h
  | some a => rfl

namespace Handling

/-- Every candidate is registered. -/
theorem registered_of_route (h : routing d r t = .ok decision) :
    ∀ name ∈ decision.candidates, d.registry.contains name = true := fun name hname =>
  Dispatcher.contains_of_catalog ((Routing.route_spec h).2.1 name hname)

/-- The next candidate is called if it is registered. -/
theorem callNext_cons (now : Nat) (history : Conversation) (reason : Reason)
    (last : Option CallError) (s : Shared) {name : String} (rest : List String)
    (h : d.registry.contains name = true) :
    ∃ current, current.backend = name ∧
      (callNext d r now history reason last s (name :: rest)).2
        = .calling history reason current rest := by
  obtain ⟨adapter, hadapter⟩ := Option.isSome_iff_exists.mp h
  rw [callNext, hadapter]
  exact ⟨_, rfl, rfl⟩

/-- An answer without an error is the conversation. -/
theorem eq_of_stored_eq_ok {a : StoreAnswer} {c : Conversation} (h : stored r a = .ok c) :
    a = .ok (some c) := by
  unfold stored at h
  split at h
  · cases h; rfl
  · cases h
  · cases h

/-- A conflict is the answer of the store itself. -/
theorem eq_of_stored_eq_conflict {a : StoreAnswer} {expected actual : Nat}
    (h : stored r a = .error (.versionConflict expected actual)) :
    a = .error (.versionConflict expected actual) := by
  unfold stored at h
  split at h
  · cases h
  · cases h
  · cases h; rfl

end Handling

namespace Delivery

variable {reply : Reply} {asked : List (StoreCall × StoreAnswer)} {stage : HandlingStage}

/-- An answer of the store leads on, unless the handling is over. -/
theorem answered (h : Delivery r reply asked stage) (hgoes : Handling.isOver stage = false)
    (now : Nat) (a : StoreAnswer) (s : Shared) :
    ∃ call, Handling.request? r stage = some call ∧
      Delivery r reply (asked ++ [(call, a)]) (Handling.answered d r now a s stage).2 := by
  have h' := h
  cases h with
  | storing version =>
    refine ⟨.append r.conversation reply.exchange version, rfl, ?_⟩
    unfold Handling.answered
    simp only
    split
    · next c hc =>
      obtain rfl := Handling.eq_of_stored_eq_ok hc
      exact h'.stored rfl
    · next expected actual hc =>
      -- only a conflict of the first attempt is followed by another one
      obtain rfl := Handling.eq_of_stored_eq_conflict hc
      exact .reloading version expected actual
    · next e hne he => exact h'.refused rfl he
  | reloading version expected actual =>
    refine ⟨.load r.conversation, rfl, ?_⟩
    unfold Handling.answered
    simp only
    split
    · next c hc =>
      obtain rfl := Handling.eq_of_stored_eq_ok hc
      exact h'.storingAgain
    · next e he => exact h'.refused rfl he
  | @storingAgain conflict fresh hbefore =>
    refine ⟨.append r.conversation reply.exchange fresh.version, rfl, ?_⟩
    unfold Handling.answered
    simp only
    split
    · next c hc =>
      obtain rfl := Handling.eq_of_stored_eq_ok hc
      exact h'.stored rfl
    · next e he => exact h'.refused rfl he
  | stored hbefore hcall => cases hgoes
  | refused hbefore hcall ha => cases hgoes
  | cancelled hbefore => cases hgoes

/-- While a reply is stored, only the answers of the store lead anywhere, apart from the end. -/
theorem act (h : Delivery r reply asked stage) :
    ∃ more : List (StoreCall × StoreAnswer),
      Handling.marks d r t stage = more.map (fun x => .asked x.1 x.2) ∧
      Delivery r reply (asked ++ more) (Handling.act d r t stage) := by
  cases hover : Handling.isOver stage with
  | true =>
    obtain ⟨hact, hmarks⟩ := Handling.act_of_isOver (d := d) (r := r) (t := t) hover
    refine ⟨[], hmarks, ?_⟩
    rw [List.append_nil, hact]
    exact h
  | false =>
    obtain ⟨now, shared, event⟩ := t
    cases event with
    | step f =>
      -- no call is running
      have hquiet : Handling.marks d r ⟨now, shared, .step f⟩ stage = [] ∧
          Handling.act d r ⟨now, shared, .step f⟩ stage = stage := by
        cases h <;> exact ⟨rfl, rfl⟩
      refine ⟨[], hquiet.1, ?_⟩
      rw [List.append_nil, hquiet.2]
      exact h
    | cancel =>
      have hquiet : Handling.marks d r ⟨now, shared, .cancel⟩ stage = [] ∧
          Handling.act d r ⟨now, shared, .cancel⟩ stage = .cancelled := by
        cases h <;> first | exact ⟨rfl, rfl⟩ | cases hover
      refine ⟨[], hquiet.1, ?_⟩
      rw [List.append_nil, hquiet.2]
      exact .cancelled h
    | answer a =>
      obtain ⟨call, hcall, hnext⟩ := h.answered (d := d) hover now a shared
      have hmarks : Handling.marks d r ⟨now, shared, .answer a⟩ stage = [.asked call a] := by
        have hasked : Handling.marks d r ⟨now, shared, .answer a⟩ stage
            = (Handling.request? r stage).toList.map fun call => .asked call a := by
          cases h <;> rfl
        rw [hasked, hcall]
        rfl
      exact ⟨[(call, a)], hmarks, hnext⟩

end Delivery

namespace Failover

variable {ms : List HandlingMark} {stage : HandlingStage}

/-- Going on to the candidates that are left, after some that have failed. -/
theorem callNext (now : Nat) (history : Conversation) (s : Shared)
    {failed : List (String × CallError)} {last : String × CallError} {rest : List String}
    (hregistered : ∀ name ∈ decision.candidates, d.registry.contains name = true)
    (hfailed : ∀ f ∈ failed ++ [last], f.2.failsOver = true)
    (hcandidates : decision.candidates = (failed ++ [last]).map Prod.fst ++ rest) :
    let next := (Handling.callNext d r now history decision.reason (some last.2) s rest).2
    Failover r decision (failedMarks (failed ++ [last]) ++ Handling.begun next) next := by
  cases rest with
  | nil =>
    have hlast := hfailed last (List.mem_append_right _ List.mem_cons_self)
    have := Failover.exhausted (r := r)
      (fun f hf => hfailed f (List.mem_append_left _ hf)) hlast
      (hcandidates.trans (List.append_nil _))
    show Failover r decision (failedMarks (failed ++ [last]) ++ []) _
    rwa [List.append_nil]
  | cons c rest =>
    have hc : d.registry.contains c = true :=
      hregistered c (hcandidates ▸ List.mem_append_right _ List.mem_cons_self)
    obtain ⟨current, hcurrent, heq⟩ := Handling.callNext_cons (r := r) now history
      decision.reason (some last.2) s rest hc
    simp only
    rw [heq, Handling.begun, hcurrent]
    exact .calling hfailed hcandidates hcurrent

/-- The first candidate is called when a task is routed. -/
theorem routed (now : Nat) (history : Conversation) (s : Shared)
    (hregistered : ∀ name ∈ decision.candidates, d.registry.contains name = true)
    (hne : decision.candidates ≠ []) :
    let next := (Handling.callNext d r now history decision.reason none s decision.candidates).2
    Failover r decision (Handling.begun next) next := by
  obtain ⟨c, rest, hcandidates⟩ := List.exists_cons_of_ne_nil hne
  have hc : d.registry.contains c = true := hregistered c (hcandidates ▸ List.mem_cons_self)
  obtain ⟨current, hcurrent, heq⟩ := Handling.callNext_cons (r := r) now history decision.reason
    none s rest hc
  simp only
  rw [hcandidates, heq, Handling.begun, hcurrent]
  have hnone : ∀ f ∈ ([] : List (String × CallError)), f.2.failsOver = true :=
    List.forall_mem_nil _
  exact .calling hnone hcandidates hcurrent

/-- Going on from a candidate whose call is over. -/
theorem settled {now : Nat} {history : Conversation} {failed : List (String × CallError)}
    {c : String} {rest : List String} {outcome : Except CallError Response}
    {next : HandlingStage}
    (hregistered : ∀ name ∈ decision.candidates, d.registry.contains name = true)
    (hfailed : ∀ f ∈ failed, f.2.failsOver = true)
    (hcandidates : decision.candidates = failed.map Prod.fst ++ c :: rest)
    (h : Handling.Settled d r now history decision.reason c rest outcome next) :
    Failover r decision
      (failedMarks failed ++ .called c :: .ended c outcome :: Handling.begun next) next := by
  cases outcome with
  | ok response =>
    obtain ⟨reply, hbackend, hresponse, hreason, hwhole, rfl⟩ := h
    have hdelivery : Delivery r reply [] (.storing history.version reply) := .storing _
    exact .replied hfailed hcandidates hbackend hresponse hreason hwhole hdelivery
  | error e =>
    rw [Handling.Settled] at h
    split at h
    · next he =>
      -- `c` joins those that have failed
      obtain ⟨s, rfl⟩ := h
      have hall : ∀ f ∈ failed ++ [(c, e)], f.2.failsOver = true := by
        intro f hf
        rcases List.mem_append.mp hf with hf | hf
        · exact hfailed f hf
        · rw [List.mem_singleton.mp hf]
          exact he
      have hsplit : decision.candidates = (failed ++ [(c, e)]).map Prod.fst ++ rest := by
        rw [hcandidates]
        simp
      have hnext := callNext (r := r) now history s hregistered hall hsplit
      simpa using hnext
    · next he =>
      subst h
      exact .stopped hfailed hcandidates (Bool.not_eq_true _ ▸ he)

/-- A turn during the call of a candidate. -/
theorem act_calling {history : Conversation} {failed : List (String × CallError)} {c : String}
    {rest : List String} {current : CandidateCall}
    (hregistered : ∀ name ∈ decision.candidates, d.registry.contains name = true)
    (hfailed : ∀ f ∈ failed, f.2.failsOver = true)
    (hcandidates : decision.candidates = failed.map Prod.fst ++ c :: rest)
    (hcurrent : current.backend = c) :
    let stage : HandlingStage := .calling history decision.reason current rest
    Failover r decision (failedMarks failed ++ [.called c] ++ Handling.marks d r t stage)
      (Handling.act d r t stage) := by
  intro stage
  cases hevent : t.event with
  | answer a =>
    -- the store is not asked for anything
    have hmarks : Handling.marks d r t stage = [] := by
      unfold Handling.marks
      rw [hevent]
      rfl
    have hact : Handling.act d r t stage = stage := by
      unfold Handling.act
      rw [hevent]
      rfl
    rw [hmarks, hact, List.append_nil]
    exact .calling hfailed hcandidates hcurrent
  | cancel =>
    have hmarks : Handling.marks d r t stage = [] := by
      unfold Handling.marks
      rw [hevent]
    have hact : Handling.act d r t stage = .cancelled := by
      unfold Handling.act
      rw [hevent]
      rfl
    rw [hmarks, hact, List.append_nil]
    exact .broken hfailed hcandidates (Or.inl rfl)
  | step f =>
    rcases Handling.act_step_cases (d := d) (r := r) history decision.reason current rest hevent
      with ⟨hmarks, -, hact⟩ | ⟨outcome, -, hmarks, hsettled⟩
    · rw [hmarks, List.append_nil]
      rcases hact with hact | ⟨fault, hact⟩
      · rw [hact]
        exact .calling hfailed hcandidates hcurrent
      · rw [hact]
        exact .broken hfailed hcandidates (Or.inr ⟨fault, rfl⟩)
    · rw [hcurrent] at hmarks hsettled
      rw [hmarks, List.append_assoc, List.singleton_append]
      exact settled hregistered hfailed hcandidates hsettled

/-- **A turn leads from one trace to a longer one.** -/
theorem act (hregistered : ∀ name ∈ decision.candidates, d.registry.contains name = true)
    (h : Failover r decision ms stage) :
    Failover r decision (ms ++ Handling.marks d r t stage) (Handling.act d r t stage) := by
  have stays (hover : Handling.isOver stage = true) :
      Failover r decision (ms ++ Handling.marks d r t stage) (Handling.act d r t stage) := by
    obtain ⟨hact, hmarks⟩ := Handling.act_of_isOver (d := d) (r := r) (t := t) hover
    rwa [hmarks, hact, List.append_nil]
  cases h with
  | calling hfailed hcandidates hcurrent =>
    exact act_calling hregistered hfailed hcandidates hcurrent
  | broken hfailed hcandidates hstage =>
    refine stays ?_
    rcases hstage with rfl | ⟨fault, rfl⟩ <;> rfl
  | replied hfailed hcandidates hbackend hresponse hreason hwhole hdelivery =>
    obtain ⟨more, hmarks, hmore⟩ := hdelivery.act (d := d) (t := t)
    have := Failover.replied hfailed hcandidates hbackend hresponse hreason hwhole hmore
    rw [hmarks]
    simpa using this
  | stopped hfailed hcandidates he => exact stays rfl
  | exhausted hfailed hlast hcandidates => exact stays rfl

/-- Any number of turns lead from one trace to a longer one. -/
theorem run (hregistered : ∀ name ∈ decision.candidates, d.registry.contains name = true)
    (h : Failover r decision ms stage) (turns : List TaskTurn) :
    Failover r decision (ms ++ Handling.trace d r turns stage) (Handling.run d r turns stage) := by
  induction turns generalizing ms stage with
  | nil => exact (List.append_nil ms).symm ▸ h
  | cons t turns ih =>
    have := ih (h.act (t := t) hregistered)
    rwa [List.append_assoc] at this

/-! #### What the traces have in common -/

/-- A task is routed once. -/
theorem not_routed {result : Except RouteError Decision} (h : Failover r decision ms stage) :
    .routed result ∉ ms := by
  have hfailed (failed : List (String × CallError)) : .routed result ∉ failedMarks failed := by
    intro hmem
    obtain ⟨f, -, hf⟩ := List.mem_flatMap.mp hmem
    simp at hf
  cases h <;> simp [hfailed]

/-- Candidates are called in order, and there is a first one. -/
theorem called_prefix (h : Failover r decision ms stage) :
    calledOf ms ≠ [] ∧ calledOf ms <+: decision.candidates := by
  have hsplit {failed : List (String × CallError)} {c : String} {rest : List String}
      (hcandidates : decision.candidates = failed.map Prod.fst ++ c :: rest)
      (hcalled : calledOf ms = failed.map Prod.fst ++ [c]) :
      calledOf ms ≠ [] ∧ calledOf ms <+: decision.candidates := by
    rw [hcalled, hcandidates]
    exact ⟨by simp, rest, by simp⟩
  cases h with
  | calling hfailed hcandidates hcurrent => exact hsplit hcandidates (by simp)
  | broken hfailed hcandidates hstage => exact hsplit hcandidates (by simp)
  | replied hfailed hcandidates => exact hsplit hcandidates (by simp)
  | stopped hfailed hcandidates he => exact hsplit hcandidates (by simp)
  | exhausted hfailed hlast hcandidates =>
    rw [calledOf_failedMarks, hcandidates]
    exact ⟨by simp, List.prefix_rfl⟩

/-- The error of a task that is routed is that of the store, or of the last call. -/
theorem error_cases {e : HandlingError} (h : Failover r decision ms (.finished (.error e))) :
    (∃ e', e = .ofStore e') ∨
      ∃ c e', ms.getLast? = some (.ended c (.error e')) ∧ e = .ofCall e' := by
  cases h with
  | broken hfailed hcandidates hstage => rcases hstage with hstage | ⟨_, hstage⟩ <;> cases hstage
  | replied hfailed hcandidates hbackend hresponse hreason hwhole hdelivery =>
    cases hdelivery with
    | refused => exact Or.inl ⟨_, rfl⟩
  | @stopped failed c _ e' hfailed hcandidates he => exact Or.inr ⟨c, e', by simp, rfl⟩
  | @exhausted failed last hfailed hlast hcandidates =>
    exact Or.inr ⟨last.1, last.2, by simp, rfl⟩

/-- A task that is routed does not end for want of backends. -/
theorem kind_ne {e : HandlingError} (h : Failover r decision ms (.finished (.error e))) :
    e.kind ≠ .noBackends := by
  rcases h.error_cases with ⟨e', rfl⟩ | ⟨c, e', -, rfl⟩
  · cases e' <;> exact nofun
  · cases e' <;> exact nofun

end Failover

/-! ### Runs -/

namespace Handling

/-- A task that has not been routed is routed at a turn, or there is nothing to be marked. -/
theorem opening_cases (t : TaskTurn) :
    (marks d r t .opening = [] ∧
      (act d r t .opening = .opening ∨ isOver (act d r t .opening) = true)) ∨
    (∃ e, marks d r t .opening = [.routed (.error e)] ∧
      isOver (act d r t .opening) = true) ∨
    ∃ decision history, routing d r t = .ok decision ∧
      marks d r t .opening = .routed (.ok decision) :: begun (act d r t .opening) ∧
      act d r t .opening = (callNext d r t.now history decision.reason none t.shared
        decision.candidates).2 := by
  obtain ⟨now, shared, event⟩ := t
  cases event with
  | step f => exact Or.inl ⟨rfl, Or.inl rfl⟩
  | cancel => exact Or.inl ⟨rfl, Or.inr rfl⟩
  | answer a =>
    unfold marks act answered
    simp only
    cases hstored : stored r a with
    | error e => exact Or.inl ⟨rfl, Or.inr rfl⟩
    | ok history =>
      refine Or.inr ?_
      unfold route
      show (∃ e, HandlingMark.routed (routing d r _) :: _ = _ ∧ _) ∨ _
      cases hrouting : routing d r { now, shared, event := .answer a } with
      | error e =>
        have hroute : d.config.routing.route r.task (d.catalog shared.guards.breakers now)
            = .error e := hrouting
        rw [hroute]
        exact Or.inl ⟨e, rfl, rfl⟩
      | ok decision =>
        have hroute : d.config.routing.route r.task (d.catalog shared.guards.breakers now)
            = .ok decision := hrouting
        rw [hroute]
        exact Or.inr ⟨decision, history, rfl, rfl, rfl⟩

/-- A run in which a task is routed at a turn, and what follows. -/
structure RoutedAt (d : Dispatcher) (r : TaskRequest) (turns : List TaskTurn)
    (stage : HandlingStage) (before : List TaskTurn) (t : TaskTurn) (decision : Decision)
    (ms : List HandlingMark) : Prop where
  split : ∃ after, turns = before ++ t :: after
  waiting : run d r before stage = .opening
  decided : routing d r t = .ok decision
  routes : .routed (.ok decision) ∈ marks d r t .opening
  marked : trace d r turns stage = .routed (.ok decision) :: ms
  failover : Failover r decision ms (run d r turns stage)

/-- A task that waits for its conversation is routed in a run, or nothing is called in it. -/
theorem routedAt_or (turns : List TaskTurn) :
    (∃ before t decision ms, RoutedAt d r turns .opening before t decision ms) ∨
    ((trace d r turns .opening = [] ∨
        ∃ e, trace d r turns .opening = [.routed (.error e)]) ∧
      (run d r turns .opening = .opening ∨ isOver (run d r turns .opening) = true)) := by
  induction turns with
  | nil => exact Or.inr ⟨Or.inl rfl, Or.inl rfl⟩
  | cons t turns ih =>
    have hrun : run d r (t :: turns) .opening = run d r turns (act d r t .opening) := rfl
    rcases opening_cases (d := d) (r := r) t with
      ⟨hmarks, hact⟩ | ⟨e, hmarks, hact⟩ | ⟨decision, history, hrouting, hmarks, hact⟩
    · rw [trace, hrun, hmarks, List.nil_append]
      rcases hact with hact | hact
      · rw [hact]
        refine ih.imp_left ?_
        rintro ⟨before, t', decision, ms, ⟨after, hturns⟩, hwaiting, hrouting, hroutes, htrace,
          hall⟩
        refine ⟨t :: before, t', decision, ms, ⟨after, congrArg (t :: ·) hturns⟩, ?_, hrouting,
          hroutes, ?_, ?_⟩
        · show run d r before (act d r t .opening) = .opening
          rw [hact, hwaiting]
        · rw [trace, hmarks, List.nil_append, hact, htrace]
        · rwa [hrun, hact]
      · rw [trace_of_isOver hact, run_of_isOver hact]
        exact Or.inr ⟨Or.inl rfl, Or.inr hact⟩
    · rw [trace, hrun, hmarks, trace_of_isOver hact, run_of_isOver hact]
      exact Or.inr ⟨Or.inr ⟨e, rfl⟩, Or.inr hact⟩
    · have hregistered := registered_of_route hrouting
      have hbegun := Failover.routed (r := r) t.now history t.shared hregistered
        (Routing.route_spec hrouting).1
      simp only at hbegun
      rw [← hact] at hbegun
      refine Or.inl ⟨[], t, decision, _, ⟨turns, rfl⟩, rfl, hrouting, ?_, ?_,
        hbegun.run hregistered turns⟩
      · rw [hmarks]
        exact List.mem_cons_self
      · rw [trace, hmarks, List.cons_append]

/-- What follows once a task is routed. -/
theorem trace_of_routed (turns : List TaskTurn)
    (h : .routed (.ok decision) ∈ trace d r turns .opening) :
    (d.config.routing.RulesValid → decision.candidates.Nodup) ∧
    ∃ ms, trace d r turns .opening = .routed (.ok decision) :: ms ∧
      Failover r decision ms (run d r turns .opening) := by
  rcases routedAt_or (d := d) (r := r) turns with
    ⟨before, t, decision', ms, hrouted⟩ | ⟨htrace | ⟨e, htrace⟩, -⟩
  · rw [hrouted.marked] at h
    have heq : decision' = decision := by
      rcases List.mem_cons.mp h with h | h
      · cases h; rfl
      · exact absurd h hrouted.failover.not_routed
    subst heq
    exact ⟨(Routing.route_spec hrouted.decided).2.2, ms, hrouted.marked, hrouted.failover⟩
  · rw [htrace] at h
    cases h
  · rw [htrace] at h
    simp at h

/-- **From candidate to candidate.**  Whatever happens to a task that is routed, its candidates are
called in order, each of them once at most, and the first one always.  The next one is called
exactly if the one before it has failed in a way that another one may change, which is any but a
refusal for the rate and a failure that is invalid or may pass: `Failover` lists the traces, with
what the task ends with in each.  It never ends for want of backends.  As long as calls take the
steps that calls take, an error names the candidate whose call has ended with it: the task ends with
an error of the store, or with that of the last call, which names the last candidate called. -/
theorem failover_in_order (d : Dispatcher) (r : TaskRequest) (now : Nat) (s : Shared)
    (turns : List TaskTurn) (decision : Decision) (hvalid : d.config.validate = .ok ())
    (hrouted : .routed (.ok decision) ∈ trace d r turns (begin r now s).2) :
    decision.candidates.Nodup ∧
    ∃ ms, trace d r turns (begin r now s).2 = .routed (.ok decision) :: ms ∧
      Failover r decision ms (run d r turns (begin r now s).2) ∧
      calledOf ms ≠ [] ∧ calledOf ms <+: decision.candidates ∧
      (∀ e, run d r turns (begin r now s).2 = .finished (.error e) → e.kind ≠ .noBackends) ∧
      (∀ e : CallError, e.failsOver = false ↔ (∃ retryAfter, e = .rateLimited retryAfter) ∨
        ∃ backend failure, e = .backend backend failure ∧
          (failure.category = .invalid ∨ failure.category = .transient)) ∧
      ((∀ t ∈ turns, t.Genuine) → Attributed ms ∧
        ∀ e, run d r turns (begin r now s).2 = .finished (.error e) → (∃ e', e = .ofStore e') ∨
          ∃ c, e.backend = some c ∧
            ∃ e', ms.getLast? = some (.ended c (.error e')) ∧ e = .ofCall e') := by
  have hbegin : (begin r now s).2 = .opening := by
    rcases begin_cases r now s with h | ⟨e, -, h⟩
    · exact h
    · rw [h, trace_of_isOver rfl] at hrouted
      cases hrouted
  rw [hbegin] at hrouted ⊢
  obtain ⟨hnodup, ms, htrace, hall⟩ := trace_of_routed turns hrouted
  have hrules := (Config.validate_eq_ok_iff.mp hvalid).rules
  obtain ⟨hne, hprefix⟩ := hall.called_prefix
  refine ⟨hnodup hrules, ms, htrace, hall, hne, hprefix, fun e he => ?_,
    fun e => CallError.failsOver_eq_false_iff, fun hturns => ?_⟩
  · exact Failover.kind_ne (he ▸ hall)
  · have hopening : Unfinished .opening := trivial
    have hattributed : Attributed ms := fun c e hmem =>
      attributed_trace hopening turns hturns c e (htrace ▸ List.mem_cons_of_mem _ hmem)
    refine ⟨hattributed, fun e he => ?_⟩
    rcases Failover.error_cases (he ▸ hall) with hstore | ⟨c, e', hlast, rfl⟩
    · exact Or.inl hstore
    · have hnames : e'.backend? = some c := hattributed c e' (List.mem_of_getLast? hlast)
      exact Or.inr ⟨c, by rw [HandlingError.backend_ofCall, hnames], e', hlast, rfl⟩

namespace Example

/-- Two backends, of which all tasks go to `a` first. -/
def dispatcher : Dispatcher where
  config := {
    routing := { defaultBackend := "a", rules := fun _ => some ["a", "b"] } }
  registry := (Table.empty.insert "a" {}).insert "b" {}

def request : TaskRequest where
  caller := "c"
  task := { id := "t", kind := .research, payload := "p" }
  freshId := "x"
  factor := fun _ => { mant := 1, exp := 0 }

def conversation : Conversation := .start "x" none .epoch

/-- The reply of `b`. -/
def response : Response := { content := "r", model := "m", usage := {} }

/-- `a` rejects the credentials, and `b` replies. -/
def turns : List TaskTurn :=
  let shared := dispatcher.shared
  let rejected : Failure := { category := .authFailure, message := "" }
  [{ now := 0, shared, event := .answer (.ok (some conversation)) },
    { now := 0, shared, event := .step (CallEvent.attempt.step 0) },
    { now := 1, shared, event := .step ((CallEvent.complete (.error rejected)).step 1) },
    { now := 1, shared, event := .step (CallEvent.attempt.step 1) },
    { now := 2, shared, event := .step ((CallEvent.complete (.ok response)).step 2) },
    { now := 2, shared, event := .answer (.ok (some { conversation with version := 2 })) }]

end Example

open Example in
/-- A failure that another candidate may change, and a reply of that one. -/
theorem failover_to_second :
    let start := (begin request 0 dispatcher.shared).2
    let decision : Decision := { candidates := ["a", "b"], reason := .rule .research }
    dispatcher.config.validate = .ok () ∧
    .routed (.ok decision) ∈ trace dispatcher request turns start ∧
    (∀ t ∈ turns, t.Genuine) ∧
    run dispatcher request turns start = .finished (.ok {
      content := "r", backend := "b", model := "m", usage := {}, conversation := "x", version := 2,
      reason := .rule .research }) ∧
    ∃ ms, trace dispatcher request turns start = .routed (.ok decision) :: ms ∧
      calledOf ms = ["a", "b"] ∧ Attributed ms ∧
      Failover request decision ms (run dispatcher request turns start) := by
  intro start decision
  have hvalid : dispatcher.config.validate = .ok () := by decide +kernel
  have hadmitted : start = .opening := by
    rcases begin_cases request 0 dispatcher.shared with h | ⟨e, -, h⟩
    · exact h
    · have hgoes : isOver start = false := by decide +kernel
      rw [show start = _ from h] at hgoes
      cases hgoes
  have hrouted : .routed (.ok decision) ∈ trace dispatcher request turns start := by
    rw [hadmitted]
    exact List.mem_cons_self
  have hgenuine : ∀ t ∈ turns, t.Genuine := by
    simp only [turns, List.forall_mem_cons]
    refine ⟨nofun, ?_, ?_, ?_, ?_, nofun, nofun⟩
    all_goals exact fun f hf => ⟨_, (TaskEvent.step.inj hf).symm⟩
  have hend : run dispatcher request turns start = .finished (.ok {
      content := "r", backend := "b", model := "m", usage := {}, conversation := "x", version := 2,
      reason := .rule .research }) := by
    rw [hadmitted]
    rfl
  obtain ⟨-, ms, htrace, hall, -, -, -, -, hattributed⟩ :=
    failover_in_order dispatcher request 0 dispatcher.shared turns decision hvalid hrouted
  refine ⟨hvalid, hrouted, hgenuine, hend, ms, htrace, ?_, (hattributed hgenuine).1, hall⟩
  have hcalled : calledOf (trace dispatcher request turns start) = ["a", "b"] := by
    rw [hadmitted]
    rfl
  rwa [htrace] at hcalled

end Handling

end

end Dispatch
