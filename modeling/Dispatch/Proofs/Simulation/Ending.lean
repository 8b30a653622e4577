/-
Dispatch/Proofs/Simulation/Ending.lean

Tasks on a virtual clock come to an end.

A run is given so many steps, and one that used them up would stop wherever its tasks stand.  That
does not happen.  Every process has a number of steps left that each of its steps makes smaller
(`Process.Counted`), and whenever the clock has moved somebody can go on; so every round makes the
sum smaller, and a run that is given more steps than that ends because nobody waits any more.

A task has steps left for the candidates that have not been called, for the attempts of the call
that is running, and for the store.  What bounds them is the configuration: a valid one names no
backend twice in a rule, so there are no more candidates than registered backends.

A call whose deadline cannot be computed has crashed when it begins, and its task stays where it
is.  So a task comes to a result, unless one has crashed.
-/
import Mathlib.Algebra.Ring.Nat
import Mathlib.Data.List.Perm.Subperm
import Dispatch.Proofs.Call.Turn
import Dispatch.Proofs.Handling.Admission
import Dispatch.Proofs.Handling.Failover
import Dispatch.Simulation.Session

namespace Dispatch

/-! ### Processes with a number of steps left -/

/-- Processes whose every step leaves them with fewer steps, and that can go on at the time for
which they wait, unless they are stuck. -/
structure Process.Counted {ω σ : Type} (p : Process ω σ) (W : ω → Prop) (S : σ → Prop)
    (left : σ → Nat) (Stuck : σ → Prop) : Prop where
  step : ∀ {now w s next}, W w → S s → p.step? now w s = some next →
    W next.1 ∧ S next.2 ∧ left next.2 < left s
  goes : ∀ {now w s t}, S s → p.wake? s = some t → t ≤ now →
    Stuck s ∨ ∃ next, p.step? now w s = some next
  stays : ∀ {now w s}, Stuck s → p.step? now w s = none

namespace Process.Counted

variable {ω σ : Type} {p : Process ω σ} {W : ω → Prop} {S : σ → Prop} {left : σ → Nat}
  {Stuck : σ → Prop} {w : ω} {s : σ} {ss : List σ}

theorem settle (h : p.Counted W S left Stuck) (now fuel : Nat) (hw : W w) (hs : S s) :
    W (p.settle now fuel w s).1 ∧ S (p.settle now fuel w s).2 ∧
      left (p.settle now fuel w s).2 ≤ left s := by
  induction fuel generalizing w s with
  | zero => exact ⟨hw, hs, Nat.le_refl _⟩
  | succ fuel ih =>
    rw [Process.settle]
    cases hnext : p.step? now w s with
    | none => exact ⟨hw, hs, Nat.le_refl _⟩
    | some next =>
      obtain ⟨hw', hs', hlt⟩ := h.step hw hs hnext
      obtain ⟨hw'', hs'', hle⟩ := ih hw' hs'
      exact ⟨hw'', hs'', Nat.le_trans hle (Nat.le_of_lt hlt)⟩

/-- A process that can go on takes a step. -/
theorem settle_lt (h : p.Counted W S left Stuck) {now : Nat} (fuel : Nat) (hw : W w) (hs : S s)
    {next : ω × σ} (hnext : p.step? now w s = some next) :
    left (p.settle now (fuel + 1) w s).2 < left s := by
  obtain ⟨hw', hs', hlt⟩ := h.step hw hs hnext
  rw [Process.settle, hnext]
  exact Nat.lt_of_le_of_lt (h.settle now fuel hw' hs').2.2 hlt

theorem settle_of_stuck (h : p.Counted W S left Stuck) (now fuel : Nat) (hs : Stuck s) :
    p.settle now fuel w s = (w, s) := by
  cases fuel with
  | zero => rfl
  | succ fuel => rw [Process.settle, h.stays hs]

theorem round (h : p.Counted W S left Stuck) (now fuel : Nat) (hw : W w) (hss : ∀ s ∈ ss, S s) :
    W (p.round now fuel w ss).1 ∧ (∀ s ∈ (p.round now fuel w ss).2, S s) ∧
      ((p.round now fuel w ss).2.map left).sum ≤ (ss.map left).sum := by
  induction ss generalizing w with
  | nil => exact ⟨hw, hss, Nat.le_refl _⟩
  | cons s rest ih =>
    obtain ⟨hw, hs, hle⟩ := h.settle now fuel hw (hss s List.mem_cons_self)
    obtain ⟨hw, hrest, hsum⟩ := ih hw fun x hx => hss x (List.mem_cons_of_mem _ hx)
    refine ⟨hw, List.forall_mem_cons.mpr ⟨hs, hrest⟩, ?_⟩
    exact Nat.add_le_add hle hsum

theorem round_of_stuck (h : p.Counted W S left Stuck) (now fuel : Nat)
    (hs : ∃ s ∈ ss, Stuck s) : ∃ s ∈ (p.round now fuel w ss).2, Stuck s := by
  obtain ⟨s, hmem, hs⟩ := hs
  induction ss generalizing w with
  | nil => cases hmem
  | cons x rest ih =>
    rcases List.mem_cons.mp hmem with rfl | hmem
    · refine ⟨s, ?_, hs⟩
      rw [Process.round, h.settle_of_stuck now fuel hs]
      exact List.mem_cons_self
    · obtain ⟨s, hmem, hs⟩ := ih hmem
      exact ⟨s, List.mem_cons_of_mem _ hmem, hs⟩

/-- If the time has come for somebody, a round makes the sum smaller. -/
theorem round_lt (h : p.Counted W S left Stuck) {now : Nat} (fuel : Nat) (hw : W w)
    (hss : ∀ s ∈ ss, S s) (hready : ∃ s ∈ ss, ∃ t ≤ now, p.wake? s = some t) :
    (∃ s ∈ ss, Stuck s) ∨
      ((p.round now (fuel + 1) w ss).2.map left).sum < (ss.map left).sum := by
  obtain ⟨s, hmem, t, ht, hwake⟩ := hready
  induction ss generalizing w with
  | nil => cases hmem
  | cons x rest ih =>
    have hx : S x := hss x List.mem_cons_self
    have hrest : ∀ y ∈ rest, S y := fun y hy => hss y (List.mem_cons_of_mem _ hy)
    obtain ⟨hw', hs', hle⟩ := h.settle now (fuel + 1) hw hx
    rcases List.mem_cons.mp hmem with rfl | hmem
    · rcases h.goes (w := w) hx hwake ht with hstuck | ⟨next, hnext⟩
      · exact Or.inl ⟨s, List.mem_cons_self, hstuck⟩
      · obtain ⟨-, -, hsum⟩ := h.round now (fuel + 1) hw' hrest
        exact Or.inr (Nat.add_lt_add_of_lt_of_le (h.settle_lt fuel hw hx hnext) hsum)
    · rcases ih hw' hrest hmem with ⟨y, hy, hstuck⟩ | hlt
      · exact Or.inl ⟨y, List.mem_cons_of_mem _ hy, hstuck⟩
      · exact Or.inr (Nat.add_lt_add_of_le_of_lt hle hlt)

theorem rounds_of_stuck (h : p.Counted W S left Stuck) (fuel now : Nat)
    (hs : ∃ s ∈ ss, Stuck s) : ∃ s ∈ (p.rounds fuel now w ss).2.2, Stuck s := by
  induction fuel generalizing now w ss with
  | zero => exact hs
  | succ fuel ih =>
    have hs := h.round_of_stuck (w := w) now (fuel + 1) hs
    rw [Process.rounds]
    split
    · exact hs
    · exact ih _ hs

/-- **More rounds than there are steps left come to an end**, unless somebody is stuck. -/
theorem rounds (h : p.Counted W S left Stuck) {fuel now : Nat} (hw : W w) (hss : ∀ s ∈ ss, S s)
    (hready : ∃ s ∈ ss, ∃ t ≤ now, p.wake? s = some t) (hfuel : (ss.map left).sum < fuel) :
    (∀ s ∈ (p.rounds fuel now w ss).2.2, S s ∧ p.wake? s = none) ∨
      ∃ s ∈ (p.rounds fuel now w ss).2.2, Stuck s := by
  induction fuel generalizing now w ss with
  | zero => cases hfuel
  | succ fuel ih =>
    rcases h.round_lt fuel hw hss hready with hstuck | hlt
    · exact Or.inr (h.rounds_of_stuck _ _ hstuck)
    · obtain ⟨hw', hss', -⟩ := h.round now (fuel + 1) hw hss
      rw [Process.rounds]
      split
      · next hnone =>
        refine Or.inl fun s hs => ⟨hss' s hs, ?_⟩
        exact List.filterMap_eq_nil_iff.mp (List.min?_eq_none_iff.mp hnone) s hs
      · next t hsome =>
        -- the clock moves to a time for which somebody waits
        obtain ⟨s, hs, hwake⟩ := List.mem_filterMap.mp (List.min?_mem hsome)
        exact ih hw' hss' ⟨s, hs, t, Nat.le_max_right _ _, hwake⟩
          (Nat.lt_of_lt_of_le hlt (Nat.le_of_lt_succ hfuel))

/-- **A run comes to an end** if there are no more steps left than its processes may take, unless
somebody is stuck. -/
theorem run (h : p.Counted W S left Stuck) (now : Nat) (hw : W w) (hss : ∀ s ∈ ss, S s)
    (hready : ∃ s ∈ ss, ∃ t ≤ now, p.wake? s = some t) (hlimit : ∀ s ∈ ss, left s ≤ p.limit s) :
    (∀ s ∈ (p.run now w ss).2.2, S s ∧ p.wake? s = none) ∨
      ∃ s ∈ (p.run now w ss).2.2, Stuck s := by
  have hfuel : (ss.map left).sum < ss.foldr (fun s n => p.limit s + n) 1 := by
    clear hss hready
    induction ss with
    | nil => exact Nat.zero_lt_one
    | cons s rest ih =>
      exact Nat.add_lt_add_of_le_of_lt (hlimit s List.mem_cons_self)
        (ih fun x hx => hlimit x (List.mem_cons_of_mem _ hx))
  exact h.rounds hw hss hready hfuel

end Process.Counted

/-! ### Calls -/

namespace Call

variable {α : Type} {plan : CallPlan} {now : Nat} {b : Breakers} {c : Call α}

/-- No call takes more steps than this with so many attempts. -/
def stepsLeft (maxAttempts : Nat) (c : Call α) : Nat :=
  match c.stage with
  -- the first attempt is made even where none is allowed, hence the maximum
  | .ready => 3 * max (maxAttempts - c.attempts) 1 + 1
  | .running _ => 3 * (maxAttempts - c.attempts) + 3
  | .waiting _ => 3 * max (maxAttempts - c.attempts) 1 + 2
  | .finished _ | .cancelled | .crashed _ => 0

theorem stepsLeft_start (plan : CallPlan) (now : Nat) (maxAttempts : Nat) :
    (start plan now : Call α).stepsLeft maxAttempts ≤ 3 * maxAttempts + 4 := by
  rcases stage_start (α := α) plan now with hs | hs
  · rw [stepsLeft, hs]
    simp only
    omega
  · rw [stepsLeft, hs]
    exact Nat.zero_le _

theorem stepsLeft_attempt (hs : c.stage = .ready) (maxAttempts : Nat) :
    (c.attempt plan now b).2.stepsLeft maxAttempts < c.stepsLeft maxAttempts ∧
      (c.attempt plan now b).2.stage ≠ .cancelled := by
  rw [show c.stepsLeft maxAttempts = 3 * max (maxAttempts - c.attempts) 1 + 1 by
    rw [stepsLeft, hs]]
  unfold attempt
  simp only
  split
  · exact ⟨Nat.succ_pos _, nofun⟩
  · split
    · exact ⟨Nat.succ_pos _, nofun⟩
    · refine ⟨?_, nofun⟩
      simp only [stepsLeft]
      omega

theorem Sequel.stepsLeft_lt {f : Failure} {c' : Call α} (h : c.Sequel plan now f c') :
    c'.stepsLeft plan.retry.maxAttempts < 3 * (plan.retry.maxAttempts - c.attempts) + 3 ∧
      c'.stage ≠ .cancelled := by
  cases h with
  | waits hf hmore hw hd =>
    refine ⟨?_, nofun⟩
    simp only [stepsLeft]
    omega
  | final | exhausted | lost | late => exact ⟨Nat.succ_pos _, nofun⟩

theorem stepsLeft_complete {a : RunningAttempt} (hs : c.stage = .running a)
    (outcome : Except Failure α) :
    (c.complete plan now outcome b).2.stepsLeft plan.retry.maxAttempts
        < c.stepsLeft plan.retry.maxAttempts ∧
      (c.complete plan now outcome b).2.stage ≠ .cancelled := by
  rw [show c.stepsLeft plan.retry.maxAttempts = 3 * (plan.retry.maxAttempts - c.attempts) + 3 by
    rw [stepsLeft, hs]]
  unfold complete
  rw [hs]
  cases outcome with
  | ok value => exact ⟨Nat.succ_pos _, nofun⟩
  | error f => exact (sequel c f).stepsLeft_lt

theorem stepsLeft_expire {a : RunningAttempt} (hs : c.stage = .running a) :
    (c.expire plan now b).2.stepsLeft plan.retry.maxAttempts
        < c.stepsLeft plan.retry.maxAttempts ∧
      (c.expire plan now b).2.stage ≠ .cancelled := by
  rw [show c.stepsLeft plan.retry.maxAttempts = 3 * (plan.retry.maxAttempts - c.attempts) + 3 by
    rw [stepsLeft, hs]]
  unfold expire
  rw [hs]
  simp only
  split
  · exact ⟨Nat.succ_pos _, nofun⟩
  · exact (sequel c _).stepsLeft_lt

theorem stepsLeft_wake {t : Nat} (hs : c.stage = .waiting t) (maxAttempts : Nat) :
    c.wake.stepsLeft maxAttempts < c.stepsLeft maxAttempts ∧ c.wake.stage ≠ .cancelled := by
  unfold wake
  rw [hs]
  refine ⟨?_, nofun⟩
  simp only [stepsLeft, hs]
  omega

end Call

/-! ### Handlings -/

/-- No candidate takes more steps than this. -/
def Dispatcher.candidateSteps (d : Dispatcher) : Nat :=
  3 * d.config.resilience.retry.maxAttempts + 5

/-- No handling takes more steps than this. -/
def HandlingStage.stepsLeft (d : Dispatcher) : HandlingStage → Nat
  | .opening => d.registry.size * d.candidateSteps + 5
  | .calling _ _ current rest => rest.length * d.candidateSteps
      + current.call.stepsLeft d.config.resilience.retry.maxAttempts + 4
  | .storing .. => 3
  | .reloading _ => 2
  | .storingAgain .. => 1
  | .finished _ | .cancelled | .crashed _ => 0

/-- Nobody has abandoned it, and the call that is running is not over, unless it has crashed. -/
def HandlingStage.Attended : HandlingStage → Prop
  | .calling _ _ current _ =>
    current.call.isOver = false ∨ ∃ fault, current.call.stage = .crashed fault
  | .cancelled => False
  | .opening | .storing .. | .reloading _ | .storingAgain .. | .finished _ | .crashed _ => True

namespace Handling

variable {d : Dispatcher} {r : TaskRequest} {now : Nat} {history : Conversation} {reason : Reason}
  {s : Shared}

/-- So many steps are left at most, and nobody has abandoned the handling. -/
structure EndsIn (d : Dispatcher) (n : Nat) (stage : HandlingStage) : Prop where
  steps : stage.stepsLeft d ≤ n
  attended : stage.Attended

theorem EndsIn.fail (e : HandlingError) (s : Shared) (n : Nat) : EndsIn d n (fail e s).2 :=
  ⟨Nat.zero_le _, trivial⟩

theorem EndsIn.mono {m n : Nat} {stage : HandlingStage} (h : EndsIn d m stage) (hle : m ≤ n) :
    EndsIn d n stage := ⟨Nat.le_trans h.steps hle, h.attended⟩

theorem endsIn_callNext (last : Option CallError) (names : List String) :
    EndsIn d (names.length * d.candidateSteps + 3)
      (callNext d r now history reason last s names).2 := by
  induction names with
  | nil =>
    cases last with
    | none => exact .fail _ s _
    | some e => exact .fail _ s _
  | cons name rest ih =>
    rw [callNext]
    have hlength : (name :: rest).length * d.candidateSteps + 3
        = rest.length * d.candidateSteps + 3 + d.candidateSteps := by
      rw [List.length_cons, Nat.succ_mul]
      omega
    rw [hlength]
    split
    · exact ih.mono (Nat.le_add_right _ _)
    · let plan := s.guards.plan name d.config.history.callTimeout r.factor
      have hcall := Call.stepsLeft_start (α := Response) plan now
        d.config.resilience.retry.maxAttempts
      constructor
      case steps =>
        show _ + (Call.start plan now : Call Response).stepsLeft _ + 4 ≤ _
        unfold Dispatcher.candidateSteps at *
        omega
      case attended =>
        rcases Call.stage_start (α := Response) plan now with hs | hs
        · exact Or.inl (by rw [Call.isOver, hs])
        · exact Or.inr ⟨_, hs⟩

/-- A call that is over, whatever its outcome, leaves the candidates that come after it. -/
theorem endsIn_settleCall (current : CandidateCall) (rest : List String)
    (hcall : current.call.stage ≠ .cancelled) :
    EndsIn d (rest.length * d.candidateSteps
        + current.call.stepsLeft d.config.resilience.retry.maxAttempts + 4)
      (settleCall d r now history reason current rest s).2 := by
  unfold settleCall
  rcases hs : current.call.stage with - | a | w | outcome | - | fault
  case ready => exact ⟨Nat.le_refl _, Or.inl (by rw [Call.isOver, hs])⟩
  case running => exact ⟨Nat.le_refl _, Or.inl (by rw [Call.isOver, hs])⟩
  case waiting => exact ⟨Nat.le_refl _, Or.inl (by rw [Call.isOver, hs])⟩
  case cancelled => exact absurd hs hcall
  case crashed => exact ⟨Nat.zero_le _, trivial⟩
  case finished =>
    cases outcome with
    | ok response => exact ⟨by simp only [HandlingStage.stepsLeft]; omega, trivial⟩
    | error e =>
      simp only
      split
      · exact (endsIn_callNext _ rest).mono (by omega)
      · exact .fail _ _ _

/-- There are no more candidates than registered backends. -/
theorem length_candidates_le {task : Task} {b : Breakers} {decision : Decision}
    (hrules : d.config.routing.RulesValid)
    (h : d.config.routing.route task (d.catalog b now) = .ok decision) :
    decision.candidates.length ≤ d.registry.size := by
  obtain ⟨-, hlisted, hnodup⟩ := Routing.route_spec h
  have hsubset : decision.candidates ⊆ d.registry.names := fun name hname =>
    (Table.mem_names_iff _).mpr (Dispatcher.contains_of_catalog (hlisted name hname))
  have hle := (List.subperm_of_subset (hnodup hrules) hsubset).length_le
  rwa [Table.names, List.length_map] at hle

/-- An answer that was waited for leaves fewer steps. -/
theorem endsIn_answered (hrules : d.config.routing.RulesValid) {stage : HandlingStage}
    {call : StoreCall} (h : request? r stage = some call) (now : Nat) (s : Shared)
    (answer : StoreAnswer) :
    ∃ n < stage.stepsLeft d, EndsIn d n (answered d r now answer s stage).2 := by
  cases stage with
  | opening =>
    refine ⟨d.registry.size * d.candidateSteps + 3, Nat.add_lt_add_left (by decide) _, ?_⟩
    rw [answered]
    split
    · unfold route
      split
      · exact .fail _ _ _
      · next decision hdecision =>
        refine (endsIn_callNext _ _).mono (Nat.add_le_add_right ?_ 3)
        exact Nat.mul_le_mul_right _ (length_candidates_le hrules hdecision)
    · exact .fail _ _ _
  | storing version reply =>
    refine ⟨2, Nat.lt_succ_self 2, ?_⟩
    rw [answered]
    split
    · exact ⟨Nat.zero_le _, trivial⟩
    · exact ⟨Nat.le_refl _, trivial⟩
    · exact .fail _ _ _
  | reloading reply =>
    refine ⟨1, Nat.lt_succ_self 1, ?_⟩
    rw [answered]
    split
    · exact ⟨Nat.le_refl _, trivial⟩
    · exact .fail _ _ _
  | storingAgain version reply =>
    refine ⟨0, Nat.lt_succ_self 0, ?_⟩
    rw [answered]
    split
    · exact ⟨Nat.zero_le _, trivial⟩
    · exact .fail _ _ _
  | calling history reason current rest => cases h
  | finished result => cases h
  | cancelled => cases h
  | crashed fault => cases h

theorem endsIn_begin (r : TaskRequest) (now : Nat) (s : Shared) :
    EndsIn d (d.registry.size * d.candidateSteps + 5) (begin r now s).2 := by
  rcases begin_cases r now s with h | ⟨e, -, h⟩
  · rw [h]
    exact ⟨Nat.le_refl _, trivial⟩
  · rw [h]
    exact ⟨Nat.zero_le _, trivial⟩

theorem retry_callStep {step : CallPlan → Breakers → Call Response → Breakers × Call Response}
    {stage : HandlingStage} :
    (callStep d r now step s stage).1.guards.retry = s.guards.retry := by
  cases stage with
  | calling history reason current rest =>
    show (settleCall d r now history reason _ rest _).1.guards.retry = _
    rw [guards_settleCall]
  | _ => rfl

theorem retry_begin : (begin r now s).1.guards.retry = s.guards.retry := by
  unfold begin Guards.admission
  simp only
  cases (s.guards.limiter.acquire r.caller now).2 <;> rfl

end Handling

/-! ### Tasks -/

namespace SimulatedTask

variable {σ β : Type} [ConversationStore σ] {d : Dispatcher} {f : Behaviour β}
  {w : SimulatedWorld σ β} {t : SimulatedTask} {now : Nat}

/-- No task takes more steps than this. -/
def stepsLeft (d : Dispatcher) (t : SimulatedTask) : Nat :=
  match t.stage with
  | none => d.registry.size * d.candidateSteps + 6
  | some stage => stage.stepsLeft d

/-- A task that has begun has not been abandoned. -/
def Attended (t : SimulatedTask) : Prop := ∀ stage, t.stage = some stage → stage.Attended

/-- The handling of the task has crashed, or the call that is running has. -/
def Crashed (t : SimulatedTask) : Prop :=
  (∃ fault, t.stage = some (.crashed fault)) ∨
    ∃ history reason current rest fault, t.stage = some (.calling history reason current rest) ∧
      current.call.stage = .crashed fault

/-- Calls are planned with the retries of the configuration. -/
def RetriesOf (d : Dispatcher) (w : SimulatedWorld σ β) : Prop :=
  w.shared.guards.retry = d.config.resilience.retry

/-- Whatever a call does next leaves it fewer steps. -/
theorem stepsLeft_callStep? {attempt : Option (ScriptedAttempt Response)} {c : Call Response}
    {step : CallPlan → Breakers → Call Response → Breakers × Call Response}
    (h : callStep? attempt now c = some step) (plan : CallPlan) (b : Breakers) :
    (step plan b c).2.stepsLeft plan.retry.maxAttempts < c.stepsLeft plan.retry.maxAttempts ∧
      (step plan b c).2.stage ≠ .cancelled := by
  unfold callStep? at h
  rcases hs : c.stage with - | a | wakeAt | result | - | fault
  · rw [hs] at h
    cases h
    exact Call.stepsLeft_attempt hs _
  · rw [hs] at h
    have expire {step' : CallPlan → Breakers → Call Response → Breakers × Call Response}
        (h : (if a.expiresAt ≤ now then some fun plan b c => c.expire plan now b else none)
          = some step') : step' = fun plan b c => c.expire plan now b := by
      split at h
      · exact (Option.some.inj h).symm
      · cases h
    cases attempt with
    | none =>
      obtain rfl := expire h
      exact Call.stepsLeft_expire hs
    | some planned =>
      simp only at h
      split at h
      · cases h
        exact Call.stepsLeft_complete hs _
      · obtain rfl := expire h
        exact Call.stepsLeft_expire hs
  · rw [hs] at h
    simp only at h
    split at h
    · cases h
      exact Call.stepsLeft_wake hs _
    · cases h
  all_goals
    rw [hs] at h
    cases h

theorem step_begin (hw : RetriesOf d w) {r : TaskRequest}
    {attempt : Option (ScriptedAttempt Response)} {next : SimulatedWorld σ β × SimulatedTask}
    (h : step? d f now w { request := r, stage := none, attempt } = some next) :
    RetriesOf d next.1 ∧ next.2.Attended ∧
      next.2.stepsLeft d < d.registry.size * d.candidateSteps + 6 := by
  have hends : Handling.EndsIn d (d.registry.size * d.candidateSteps + 5)
      (Handling.begin r now w.shared).2 := Handling.endsIn_begin r now w.shared
  cases h
  refine ⟨Handling.retry_begin.trans hw, ?_, Nat.lt_succ_of_le hends.steps⟩
  rintro stage ⟨⟩
  exact hends.attended

theorem step_calling (hw : RetriesOf d w) {r : TaskRequest} {history : Conversation}
    {reason : Reason} {current : CandidateCall} {rest : List String}
    {attempt : Option (ScriptedAttempt Response)} {next : SimulatedWorld σ β × SimulatedTask}
    (h : step? d f now w
      { request := r, attempt, stage := some (.calling history reason current rest) } = some next) :
    RetriesOf d next.1 ∧ next.2.Attended ∧
      next.2.stepsLeft d < (HandlingStage.calling history reason current rest).stepsLeft d := by
  obtain ⟨step, hstep, hnext⟩ := Option.map_eq_some_iff.mp h
  let plan := w.shared.guards.plan current.backend d.config.history.callTimeout r.factor
  obtain ⟨hlt, hcall⟩ := stepsLeft_callStep? hstep plan w.shared.guards.breakers
  have hmax : plan.retry.maxAttempts = d.config.resilience.retry.maxAttempts :=
    congrArg RetrySettings.maxAttempts hw
  rw [hmax] at hlt
  subst hnext
  have hends : Handling.EndsIn d _ (Handling.callStep d r now step w.shared
      (.calling history reason current rest)).2 :=
    Handling.endsIn_settleCall
      { current with call := (step plan w.shared.guards.breakers current.call).2 } rest hcall
  refine ⟨Handling.retry_callStep.trans hw, ?_, Nat.lt_of_le_of_lt hends.steps ?_⟩
  · rintro stage ⟨⟩
    exact hends.attended
  · exact Nat.add_lt_add_right (Nat.add_lt_add_left hlt _) _

theorem step_answered (hrules : d.config.routing.RulesValid) (hw : RetriesOf d w)
    {r : TaskRequest} {stage : HandlingStage} {attempt : Option (ScriptedAttempt Response)}
    {call : StoreCall} (hcall : Handling.request? r stage = some call)
    {next : SimulatedWorld σ β × SimulatedTask}
    (h : step? d f now w { request := r, stage := some stage, attempt } = some next) :
    RetriesOf d next.1 ∧ next.2.Attended ∧ next.2.stepsLeft d < stage.stepsLeft d := by
  let answer := (ConversationStore.call w.store call (d.timeOfDay now)).2
  obtain ⟨n, hn, hends⟩ := Handling.endsIn_answered hrules hcall now w.shared answer
  let answered := Handling.answered d r now answer w.shared stage
  have hnext : next = ({ w with
        shared := answered.1,
        store := (ConversationStore.call w.store call (d.timeOfDay now)).1 },
      { request := r, stage := some answered.2, attempt }) := by
    cases stage with
    | calling history reason current rest => cases hcall
    | finished result => cases hcall
    | cancelled => cases hcall
    | crashed fault => cases hcall
    | _ => cases hcall; exact (Option.some.inj h).symm
  subst hnext
  refine ⟨?_, ?_, Nat.lt_of_le_of_lt hends.steps hn⟩
  · show answered.1.guards.retry = _
    rw [Handling.guards_answered]
    exact hw
  · rintro stage ⟨⟩
    exact hends.attended

/-- A step leaves a task with fewer steps. -/
theorem step?_counted (hrules : d.config.routing.RulesValid) (hw : RetriesOf d w)
    {next : SimulatedWorld σ β × SimulatedTask} (h : step? d f now w t = some next) :
    RetriesOf d next.1 ∧ next.2.Attended ∧ next.2.stepsLeft d < t.stepsLeft d := by
  obtain ⟨r, stage, attempt⟩ := t
  cases stage with
  | none => exact step_begin hw h
  | some stage =>
    cases stage with
    | calling history reason current rest => exact step_calling hw h
    | opening => exact step_answered hrules hw rfl h
    | storing version reply => exact step_answered hrules hw rfl h
    | reloading reply => exact step_answered hrules hw rfl h
    | storingAgain version reply => exact step_answered hrules hw rfl h
    | finished result => cases h
    | cancelled => cases h
    | crashed fault => cases h

/-- An attempt that is running ends at the time for which it waits. -/
theorem exists_callStep?_running {attempt : Option (ScriptedAttempt Response)}
    {c : Call Response} {a : RunningAttempt} {wake : Nat} (hs : c.stage = .running a)
    (hwake : (a.expiresAt :: (attempt.map fun planned =>
      Clock.fires a.since planned.delay).toList).min? = some wake) (hnow : wake ≤ now) :
    ∃ step, callStep? attempt now c = some step := by
  have hends : a.expiresAt ≤ now ∨
      ∃ planned, attempt = some planned ∧ Clock.fires a.since planned.delay ≤ now := by
    rcases List.mem_cons.mp (List.min?_mem hwake) with rfl | hmem
    · exact Or.inl hnow
    · obtain ⟨planned, hplanned, rfl⟩ := Option.map_eq_some_iff.mp (Option.mem_toList.mp hmem)
      exact Or.inr ⟨planned, hplanned, hnow⟩
  unfold callStep?
  rw [hs]
  cases attempt with
  | none =>
    obtain hexpires | ⟨planned, hplanned, -⟩ := hends
    · exact ⟨_, if_pos hexpires⟩
    · cases hplanned
  | some planned =>
    simp only
    split
    · exact ⟨_, rfl⟩
    · next hfires =>
      obtain hexpires | ⟨_, ⟨⟩, houtcome⟩ := hends
      · exact ⟨_, if_pos hexpires⟩
      · exact absurd houtcome hfires

/-- A task goes on at the time for which it waits, unless its call has crashed. -/
theorem exists_step? (ht : t.Attended) {wake : Nat} (hwake : t.wake? = some wake)
    (hnow : wake ≤ now) : t.Crashed ∨ ∃ next, step? d f now w t = some next := by
  obtain ⟨r, stage, attempt⟩ := t
  cases stage with
  | none => exact Or.inr ⟨_, rfl⟩
  | some stage =>
    cases stage with
    | calling history reason current rest =>
      have goes (h : ∃ step, callStep? attempt now current.call = some step) :
          ∃ next, step? d f now w ⟨r, some (.calling history reason current rest), attempt⟩
            = some next := by
        obtain ⟨step, hstep⟩ := h
        exact ⟨_, Option.map_eq_some_iff.mpr ⟨step, hstep, rfl⟩⟩
      rcases ht _ rfl with hopen | ⟨fault, hcrash⟩
      · refine Or.inr (goes ?_)
        unfold wake? at hwake
        simp only at hwake
        rcases hs : current.call.stage with - | a | wakeAt | result | - | fault
        case ready => exact ⟨_, by rw [callStep?, hs]⟩
        case running =>
          rw [hs] at hwake
          exact exists_callStep?_running hs hwake hnow
        case waiting =>
          rw [hs] at hwake
          cases hwake
          exact ⟨_, by rw [callStep?, hs]; exact if_pos hnow⟩
        all_goals
          rw [Call.isOver, hs] at hopen
          cases hopen
      · exact Or.inl (Or.inr ⟨history, reason, current, rest, fault, rfl, hcrash⟩)
    | opening => exact Or.inr ⟨_, rfl⟩
    | storing version reply => exact Or.inr ⟨_, rfl⟩
    | reloading reply => exact Or.inr ⟨_, rfl⟩
    | storingAgain version reply => exact Or.inr ⟨_, rfl⟩
    | finished result => cases hwake
    | cancelled => cases hwake
    | crashed fault => cases hwake

theorem step?_of_crashed (h : t.Crashed) : step? d f now w t = none := by
  obtain ⟨r, stage, attempt⟩ := t
  rcases h with ⟨fault, rfl⟩ | ⟨history, reason, current, rest, fault, rfl, hcrash⟩
  · rfl
  · show (callStep? attempt now current.call).map _ = none
    rw [callStep?, hcrash]
    rfl

/-- **Tasks have a number of steps left**, and a task that is stuck has crashed. -/
theorem counted (hrules : d.config.routing.RulesValid) :
    (process (σ := σ) d f).Counted (RetriesOf d) Attended (stepsLeft d) Crashed where
  step hw _ h := step?_counted hrules hw h
  goes ht hwake hnow := exists_step? ht hwake hnow
  stays h := step?_of_crashed h

/-- A task that waits no more has come to a result, or it has crashed. -/
theorem result_or_crashed (ht : t.Attended) (hwake : t.wake? = none) :
    (∃ result, t.result? = some result) ∨ t.Crashed := by
  obtain ⟨r, stage, attempt⟩ := t
  cases stage with
  | none => cases hwake
  | some stage =>
    cases stage with
    | finished result => exact Or.inl ⟨result, rfl⟩
    | crashed fault => exact Or.inr (Or.inl ⟨fault, rfl⟩)
    | cancelled => exact (ht _ rfl).elim
    | calling history reason current rest =>
      unfold wake? at hwake
      simp only at hwake
      split at hwake
      · exact absurd (List.min?_eq_none_iff.mp hwake) (List.cons_ne_nil _ _)
      all_goals cases hwake
    | _ => cases hwake

end SimulatedTask

/-! ### Sessions -/

namespace Session

variable {σ β : Type} [ConversationStore σ]

/-- **Every task comes to a result, unless one has crashed.** -/
theorem handle_ends (s : Session σ β) (f : Behaviour β) (requests : List TaskRequest)
    (hrules : s.dispatcher.config.routing.RulesValid)
    (hretry : s.world.shared.guards.retry = s.dispatcher.config.resilience.retry) :
    (∀ t ∈ (s.handle f requests).2, ∃ result, t.result? = some result) ∨
      ∃ t ∈ (s.handle f requests).2, t.Crashed := by
  cases requests with
  | nil => exact Or.inl fun t ht => absurd ht List.not_mem_nil
  | cons request rest =>
    let tasks := (request :: rest).map fun request => { request : SimulatedTask }
    have htasks : ∀ t ∈ tasks, t.stage = none := by
      intro t ht
      obtain ⟨request, -, rfl⟩ := List.mem_map.mp ht
      rfl
    have hattended : ∀ t ∈ tasks, t.Attended := by
      intro t ht stage hstage
      rw [htasks t ht] at hstage
      cases hstage
    have hlimit : ∀ t ∈ tasks, t.stepsLeft s.dispatcher
        ≤ (SimulatedTask.process (σ := σ) s.dispatcher f).limit t := by
      intro t ht
      rw [SimulatedTask.stepsLeft, htasks t ht]
      exact Nat.le_refl _
    have hends := (SimulatedTask.counted (σ := σ) hrules).run s.now hretry hattended
      ⟨{ request }, List.mem_cons_self, 0, Nat.zero_le _, rfl⟩ hlimit
    by_cases hcrash : ∃ t ∈ (s.handle f (request :: rest)).2, t.Crashed
    · exact Or.inr hcrash
    · refine Or.inl fun t ht => ?_
      rcases hends with hends | hstuck
      · obtain ⟨hattended, hwake⟩ := hends t ht
        exact (SimulatedTask.result_or_crashed hattended hwake).resolve_right fun h =>
          hcrash ⟨t, ht, h⟩
      · exact absurd hstuck hcrash

end Session

end Dispatch
