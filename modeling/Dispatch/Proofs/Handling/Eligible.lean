/-
Dispatch/Proofs/Handling/Eligible.lean

Only eligible backends are called.

Who is called is settled when a task is routed: from then on a handling goes through the
candidates of its decision and calls nobody else (`Failover.called_prefix`).  So a backend that is
called was a candidate, hence in the catalog of that turn, and what holds of all candidates holds
of it: it is registered and not disabled, and unless nobody was eligible (`Reason.degradedFallback`)
it can do what the task needs.  `Eligible` is the list of what is meant.

What happens to the circuits afterwards is of no account here.  A circuit that opens while its
backend waits for its turn refuses the call when that comes.
-/
import Dispatch.Proofs.Handling.Failover
import Dispatch.Proofs.Routing.Catalog

namespace Dispatch

/-- A backend that a task may go to, by what breakers read when the task was routed. -/
structure Eligible (d : Dispatcher) (task : Task) (b : Breakers) (now : Nat) (reason : Reason)
    (backend : String) : Prop where
  registered : d.registry.contains backend = true
  enabled : ∀ declared, d.config.backends.get? backend = some declared → declared.enabled = true
  /-- It can do what the task needs, unless nobody was eligible. -/
  capable : reason ≠ .degradedFallback → ∃ capabilities, d.capabilitiesOf? backend
    = some capabilities ∧ capabilities.satisfies task.requirements = true
  /-- Its circuit was not open in the catalog, unless nobody was eligible or the task asks for
  it. -/
  up : reason ≠ .degradedFallback → task.backend = none →
    ∃ x, (d.catalog b now).get? backend = some x ∧ x.health = b.health backend now ∧
      x.health ≠ .open
  /-- A task that asks for a backend goes to no other one. -/
  asked : ∀ name, task.backend = some name → backend = name

variable {d : Dispatcher} {r : TaskRequest} {stage : HandlingStage} {decision : Decision}
  {ms : List HandlingMark}

/-- **Candidates are eligible**, however a task is routed. -/
theorem Routing.eligible_of_mem {task : Task} {b : Breakers} {now : Nat}
    (h : d.config.routing.route task (d.catalog b now) = .ok decision) {backend : String}
    (hmem : backend ∈ decision.candidates) :
    Eligible d task b now decision.reason backend := by
  have hlisted : (d.catalog b now).contains backend = true := (route_spec h).2.1 backend hmem
  obtain ⟨x, hx⟩ := Option.isSome_iff_exists.mp hlisted
  refine {
    registered := Dispatcher.contains_of_catalog hlisted
    enabled := fun declared => Dispatcher.enabled_of_get?_catalog hx
    capable := fun hreason => ?_
    up := fun hreason hasked => ?_
    asked := fun name hasked => ?_ }
  · obtain ⟨x, hx, hcapable, -⟩ := fit_of_route h hreason hmem
    exact ⟨x.capabilities, Dispatcher.capabilitiesOf?_of_get?_catalog hx, hcapable⟩
  · obtain ⟨x, hx, -, hhealth⟩ := fit_of_route h hreason hmem
    exact ⟨x, hx, Dispatcher.health_of_get?_catalog hx, hhealth hasked⟩
  · obtain ⟨heq, -⟩ := routeTo_spec (route_of_asked hasked ▸ h)
    rw [heq] at hmem
    exact List.mem_singleton.mp hmem

/-- The backend whose call is running has been called. -/
theorem Failover.mem_calledOf {history : Conversation} {reason : Reason} {current : CandidateCall}
    {rest : List String} (h : Failover r decision ms (.calling history reason current rest)) :
    current.backend ∈ calledOf ms := by
  cases h with
  | calling hfailed hcandidates hcurrent => simp [hcurrent]
  | broken hfailed hcandidates hstage => rcases hstage with hstage | ⟨_, hstage⟩ <;> cases hstage
  | replied hfailed hcandidates hbackend hresponse hreason hwhole hdelivery => cases hdelivery

namespace Handling

/-- A task that has been admitted waits for its conversation, and any other one is over. -/
theorem opening_or_isOver_begin (r : TaskRequest) (now : Nat) (s : Shared) :
    (begin r now s).2 = .opening ∨ isOver (begin r now s).2 = true := by
  rcases begin_cases r now s with h | ⟨e, -, h⟩
  · exact Or.inl h
  · rw [h]
    exact Or.inr rfl

theorem begin_eq_opening {r : TaskRequest} {now : Nat} {s : Shared}
    (h : isOver (begin r now s).2 = false) : (begin r now s).2 = .opening := by
  refine (opening_or_isOver_begin r now s).resolve_right fun hover => ?_
  rw [h] at hover
  cases hover

/-- A task is routed in a run, or nobody is called in it and no call is running at its end. -/
theorem called_cases (r : TaskRequest) (now : Nat) (s : Shared) (turns : List TaskTurn) :
    let stage := (begin r now s).2
    (∃ before t decision ms, RoutedAt d r turns stage before t decision ms) ∨
    (calledOf (trace d r turns stage) = [] ∧
      ∀ history reason current rest,
        run d r turns stage ≠ .calling history reason current rest) := by
  intro stage
  have quiet {stage' : HandlingStage} (h : stage' = .opening ∨ isOver stage' = true)
      (history : Conversation) (reason : Reason) (current : CandidateCall) (rest : List String) :
      stage' ≠ .calling history reason current rest := by
    rintro rfl
    rcases h with h | h <;> cases h
  rcases opening_or_isOver_begin r now s with h | h
  · rw [show stage = .opening from h]
    refine (routedAt_or turns).imp_right fun ⟨htrace, hrun⟩ => ⟨?_, quiet hrun⟩
    rcases htrace with htrace | ⟨e, htrace⟩ <;> rw [htrace] <;> rfl
  · rw [trace_of_isOver h, run_of_isOver h]
    exact Or.inr ⟨rfl, quiet (Or.inr h)⟩

/-- **Only eligible backends are called.**  Whatever happens to a task, a backend that is called
in its handling is eligible by the decision that was made when the task was routed, and a call
that is running is that of such a backend. -/
theorem only_eligible_called (d : Dispatcher) (r : TaskRequest) (now : Nat) (s : Shared)
    (turns : List TaskTurn) :
    let stage := (begin r now s).2
    (∀ history reason current rest, run d r turns stage = .calling history reason current rest →
      current.backend ∈ calledOf (trace d r turns stage)) ∧
    ∀ backend ∈ calledOf (trace d r turns stage),
      ∃ before t decision ms, RoutedAt d r turns stage before t decision ms ∧
        Eligible d r.task t.shared.guards.breakers t.now decision.reason backend := by
  intro stage
  rcases called_cases (d := d) r now s turns with
    ⟨before, t, decision, ms, hrouted⟩ | ⟨hnone, hquiet⟩
  · -- from here on there is a decision, and everybody who is called is one of its candidates
    rw [hrouted.marked]
    refine ⟨fun history reason current rest hrun => ?_, fun backend hcalled => ?_⟩
    · have hall := hrouted.failover
      rw [hrun] at hall
      exact hall.mem_calledOf
    · have hmem := hrouted.failover.called_prefix.2.subset hcalled
      exact ⟨before, t, decision, ms, hrouted, Routing.eligible_of_mem hrouted.decided hmem⟩
  · exact ⟨fun history reason current rest hrun => (hquiet history reason current rest hrun).elim,
      fun backend hcalled => absurd (hnone ▸ hcalled) List.not_mem_nil⟩

namespace Example

/-- The first of the backends is disabled. -/
def switchedOff : Dispatcher :=
  { dispatcher with config := { dispatcher.config with
      backends := Table.empty.insert "a" { capabilities := {}, enabled := false } } }

/-- The conversation is opened, and the first attempt begins. -/
def firstTurns : List TaskTurn :=
  let shared := switchedOff.shared
  [{ now := 0, shared, event := .answer (.ok (some conversation)) },
    { now := 0, shared, event := .step fun plan b c => c.attempt plan 0 b }]

end Example

open Example in
/-- A task for `a` and `b` in turn goes to `b` alone while `a` is disabled. -/
theorem enabled_called :
    let start := (begin request 0 switchedOff.shared).2
    calledOf (trace switchedOff request firstTurns start) = ["b"] ∧
    ∃ before t decision ms, RoutedAt switchedOff request firstTurns start before t decision ms ∧
      Eligible switchedOff request.task t.shared.guards.breakers t.now decision.reason "b" := by
  intro start
  have hadmitted : start = .opening := begin_eq_opening (by decide +kernel)
  have hcalled : calledOf (trace switchedOff request firstTurns start) = ["b"] := by
    rw [hadmitted]
    rfl
  refine ⟨hcalled, ?_⟩
  refine (only_eligible_called switchedOff request 0 switchedOff.shared firstTurns).2 "b" ?_
  rw [hcalled]
  exact List.mem_cons_self

end Handling

end Dispatch
