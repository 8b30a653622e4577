/-
Dispatch/Proofs/Handling/Sent.lean

What a backend is sent.

A task is routed by what is declared of its backends, and a backend that is called is sent as much
of the history as fits the capabilities that it advertises (`Sized`).  A backend that is not
declared is in the catalog with just these.  One that is declared is sent what fits its declaration,
whatever the history, exactly if it does not advertise a greater budget, or one in which no message
fits (`sent_fits_iff`).
-/
import Dispatch.Proofs.Conversation.Window
import Dispatch.Proofs.Handling.Admission
import Dispatch.Proofs.Handling.Turn
import Dispatch.Proofs.Routing.Catalog

namespace Dispatch

namespace Handling

/-! ### The window of a candidate -/

/-- A candidate that is being called has its window from what it advertises. -/
def Sized (d : Dispatcher) : HandlingStage → Prop
  | .calling history _ current _ => ∃ adapter,
    d.registry.get? current.backend = some adapter ∧ current.window = d.windowFor adapter history
  | _ => True

section

variable {d : Dispatcher} {r : TaskRequest} {now : Nat} {s : Shared} {stage : HandlingStage}

/-- A turn leaves a candidate its window; one that it goes on to has just got it. -/
theorem sized_act (t : TaskTurn) (h : Sized d stage) : Sized d (act d r t stage) := by
  cases hact : act d r t stage with
  | calling history reason current rest =>
    rcases act_calling_cases hact with hfresh | ⟨before, rfl, hstays⟩
    · exact hfresh.window
    · -- a step of a call leaves its backend and its window
      obtain ⟨adapter, hadapter, hwindow⟩ := h
      rw [← hstays.backend] at hadapter
      exact ⟨adapter, hadapter, hstays.window.trans hwindow⟩
  | _ => trivial

theorem sized_run (turns : List TaskTurn) (h : Sized d stage) : Sized d (run d r turns stage) := by
  induction turns generalizing stage with
  | nil => exact h
  | cons t turns ih => exact ih (sized_act t h)

theorem sized_begin : Sized d (begin r now s).2 := by
  rcases begin_cases r now s with h | ⟨e, -, h⟩
  · rw [h]
    trivial
  · rw [h]
    trivial

end

/-! ### What is sent -/

/-- In some run of a task whose conversation is `history`, an attempt to call a backend is running,
and this is what it was sent. -/
def Sends (d : Dispatcher) (r : TaskRequest) (history : Conversation) (backend : String)
    (window : Conversation) : Prop :=
  ∃ now s turns reason current rest attempt,
    run d r turns (begin r now s).2 = .calling history reason current rest ∧
    current.call.stage = .running attempt ∧ current.backend = backend ∧ current.window = window

variable {d : Dispatcher} {r : TaskRequest} {history window : Conversation} {backend : String}

/-- What is sent is the history, cut to what the backend advertises. -/
theorem Sends.sized (h : Sends d r history backend window) :
    ∃ adapter, d.registry.get? backend = some adapter ∧ window = d.windowFor adapter history := by
  obtain ⟨now, s, turns, reason, current, rest, attempt, hrun, -, rfl, rfl⟩ := h
  have hsized : Sized d (run d r turns (begin r now s).2) := sized_run turns sized_begin
  rw [hrun] at hsized
  exact hsized

theorem Sends.tokens_le {adapter : Adapter} (h : Sends d r history backend window)
    (ha : d.registry.get? backend = some adapter) :
    window.tokens ≤ d.config.history.windowBudget adapter.capabilities := by
  obtain ⟨adapter', ha', rfl⟩ := h.sized
  obtain rfl : adapter' = adapter := Option.some.inj (ha'.symm.trans ha)
  exact tokensOf_windowMessages_le ..

/-! ### A run that sends a history -/

/-- A limiter without buckets lets anybody in. -/
theorem acquire_of_fresh (caller : String) :
    ((Limiter.ofSettings {}).acquire caller 0).2 = .ok () := by
  let l := Limiter.ofSettings {}
  have htoken : TokenCount.hasToken (l.refill { tokens := l.capacity, countedAt := 0 } 0).tokens
      = true := by
    decide +kernel
  rw [Limiter.acquire_eq]
  show l.answer (l.refill { tokens := l.capacity, countedAt := 0 } 0) = .ok ()
  rw [Limiter.answer, if_pos htoken]

/-- What all tasks share while nothing has happened. -/
def untouched : Shared := { guards := {} }

theorem begin_untouched (r : TaskRequest) : (begin r 0 untouched).2 = .opening := by
  have h : (untouched.guards.limiter.acquire r.caller 0).2 = .ok () := acquire_of_fresh r.caller
  rw [begin_of_admitted h]

/-- A task that asks for a backend. -/
def asking (name : String) : TaskRequest where
  caller := "c"
  task := { id := "t", kind := .research, payload := "p", backend := some name }
  freshId := "x"
  factor := fun _ => { mant := 1, exp := 0 }

/-- The conversation is opened, and a first attempt begins. -/
def firstTurns (history : Conversation) : List TaskTurn :=
  [{ now := 0, shared := untouched, event := .answer (.ok (some history)) },
    { now := 0, shared := untouched, event := .step fun plan b c => c.attempt plan 0 b }]

/-- A backend that is in the catalog can be asked for, and is sent the history then. -/
theorem sends_of_asked {name : String} {adapter : Adapter} {descriptor : Descriptor}
    (ha : d.registry.get? name = some adapter)
    (hd : (d.catalog {} 0).get? name = some descriptor) (history : Conversation) :
    Sends d (asking name) history name (d.windowFor adapter history) := by
  have hroute : d.config.routing.route (asking name).task (d.catalog {} 0)
      = .ok { candidates := [name], reason := .explicitOverride } := by
    show Routing.routeTo name {} (d.catalog {} 0) = _
    rw [Routing.routeTo, hd]
    rfl
  let plan := untouched.guards.plan name d.config.history.callTimeout (asking name).factor
  let call : Call Response := Call.start plan 0
  let current : CandidateCall := {
    backend := name, window := d.windowFor adapter history, since := 0, call }
  have hopened : (answered d (asking name) 0 (.ok (some history)) untouched .opening).2
      = .calling history .explicitOverride current [] := by
    show (route d (asking name) 0 history untouched).2 = _
    have hroute' : d.config.routing.route (asking name).task
        (d.catalog untouched.guards.breakers 0) = _ := hroute
    rw [route, hroute']
    show (callNext d (asking name) 0 history .explicitOverride none untouched [name]).2 = _
    rw [callNext, ha]
  obtain ⟨attempt, hattempt⟩ : ∃ attempt, (call.attempt plan 0 {}).2.stage = .running attempt :=
    ⟨_, rfl⟩
  have hattempted : (callStep d (asking name) 0 (fun plan b c => c.attempt plan 0 b) untouched
      (.calling history .explicitOverride current [])).2
      = .calling history .explicitOverride
        { current with call := (call.attempt plan 0 {}).2 } [] := by
    show (settleCall d (asking name) 0 history .explicitOverride
      { current with call := (call.attempt plan 0 {}).2 } [] _).2 = _
    rw [settleCall]
    simp only [hattempt]
  refine ⟨0, untouched, firstTurns history, .explicitOverride,
    { current with call := (call.attempt plan 0 {}).2 }, [], attempt, ?_, hattempt, rfl, rfl⟩
  rw [begin_untouched]
  show (callStep d (asking name) 0 _ untouched
    (answered d (asking name) 0 (.ok (some history)) untouched .opening).2).2 = _
  rw [hopened]
  exact hattempted

/-- Of every number of tokens that one message can cost there is a message. -/
theorem exists_message {n : Nat} (h : Message.overheadTokens ≤ n) :
    ∃ m : Message, m.tokens = n := by
  let content := String.ofList (List.replicate (4 * (n - Message.overheadTokens)) 'x')
  refine ⟨{ role := .user, content, timestamp := .epoch }, ?_⟩
  show content.length / 4 + Message.overheadTokens = n
  rw [String.length_ofList, List.length_replicate, Nat.mul_div_cancel_left _ (by decide),
    Nat.sub_add_cancel h]

/-! ### Fitting what is declared -/

/-- Whatever is sent for a history of fewer than `2 ^ 32` tokens fits the capabilities that the
router is told. -/
def SendsFit (d : Dispatcher) : Prop :=
  ∀ r history backend window, Sends d r history backend window → history.tokens < UInt32.size →
    ∀ b now descriptor, (d.catalog b now).get? backend = some descriptor →
      window.tokens ≤ d.config.history.windowBudget descriptor.capabilities

/-- The budget of what an adapter advertises is not above that of what is declared of it, or it is
too small for a message. -/
def Advertises (d : Dispatcher) (adapter : Adapter) (declared : BackendConfig) : Prop :=
  d.config.history.windowBudget adapter.capabilities < Message.overheadTokens ∨
    d.config.history.windowBudget adapter.capabilities
      ≤ d.config.history.windowBudget declared.capabilities

/-- **What is sent fits what is declared, exactly if no more is advertised.** -/
theorem sendsFit_iff (d : Dispatcher) (hmost : d.config.history.maxWindowTokens < UInt32.size) :
    SendsFit d ↔ ∀ name adapter declared, d.registry.get? name = some adapter →
      d.config.backends.get? name = some declared → declared.enabled = true →
        Advertises d adapter declared := by
  constructor
  · intro hfit name adapter declared ha hdeclared henabled
    by_contra hnot
    obtain ⟨hroom, hmore⟩ := not_or.mp hnot
    -- one message that fits what is advertised, and not what is declared
    obtain ⟨m, hm⟩ := exists_message (Nat.le_max_left Message.overheadTokens
      (d.config.history.windowBudget declared.capabilities + 1))
    have hfits : m.tokens ≤ d.config.history.windowBudget adapter.capabilities := by
      rw [hm]
      exact Nat.max_le.mpr ⟨Nat.le_of_not_lt hroom, Nat.lt_of_not_le hmore⟩
    let history : Conversation := {
      id := "x", messages := [m], createdAt := .epoch, updatedAt := .epoch }
    have hwhole : d.windowFor adapter history = history :=
      congrArg (fun messages => { history with messages }) (windowMessages_of_le hfits)
    have hmost' : history.tokens < UInt32.size :=
      Nat.lt_of_le_of_lt (Nat.le_trans hfits (Nat.min_le_left _ _)) hmost
    have hcatalog := Dispatcher.get?_catalog_of_declared ha hdeclared henabled {} 0
    have hsent := sends_of_asked ha hcatalog history
    rw [hwhole] at hsent
    have hle : m.tokens ≤ d.config.history.windowBudget declared.capabilities :=
      hfit _ history name history hsent hmost' {} 0 _ hcatalog
    rw [hm] at hle
    exact Nat.not_succ_le_self _ (Nat.le_trans (Nat.le_max_right _ _) hle)
  · intro hadvertises r history backend window hsends _ b now descriptor hdescriptor
    obtain ⟨adapter, ha, hdeclared⟩ := Dispatcher.exists_of_get?_catalog hdescriptor
    have hle := hsends.tokens_le ha
    split at hdeclared
    · rwa [hdeclared]
    · next declared hget =>
      obtain ⟨henabled, hcapabilities⟩ := hdeclared
      rw [hcapabilities]
      rcases hadvertises backend adapter declared ha hget henabled with hroom | hless
      · -- no message fits, so none is sent
        have hnil : window.messages = [] := eq_nil_of_tokensOf_lt (Nat.lt_of_le_of_lt hle hroom)
        show tokensOf window.messages ≤ _
        rw [hnil]
        exact Nat.zero_le _
      · exact Nat.le_trans hle hless

namespace Example

/-- One backend, declared with so many tokens and advertising so many. -/
def declaring (declared advertised : Nat) : Dispatcher where
  config := {
    routing := { defaultBackend := "gpt" }
    backends := Table.empty.insert "gpt" { capabilities := { maxTokens := declared } } }
  registry := Table.empty.insert "gpt" { capabilities := { maxTokens := advertised } }

/-- A conversation of five tokens. -/
def greeting : Conversation where
  id := "x"
  messages := [Message.said .user "hello" .epoch]
  version := 1
  createdAt := .epoch
  updatedAt := .epoch

theorem of_get?_insert {α : Type} {name other : String} {a b : α}
    (h : (Table.empty.insert name a).get? other = some b) : b = a := by
  rw [Table.get?_insert] at h
  split at h
  · exact (Option.some.inj h).symm
  · cases h

end Example

open Example in
/-- A backend that advertises less than what is declared of it. -/
theorem sends_fit_of_modest :
    (declaring 8192 1200).config.validate = .ok () ∧
    (declaring 8192 1200).config.history.maxWindowTokens < UInt32.size ∧
    SendsFit (declaring 8192 1200) := by
  have hmost : (declaring 8192 1200).config.history.maxWindowTokens < UInt32.size := by decide
  refine ⟨by decide +kernel, hmost, (sendsFit_iff _ hmost).mpr ?_⟩
  intro name adapter declared ha hdeclared _
  obtain rfl := of_get?_insert ha
  obtain rfl := of_get?_insert hdeclared
  exact Or.inr (by decide)

open Example in
/-- A backend that advertises more than what is declared of it is sent more than fits. -/
theorem sent_beyond_declared :
    let d := declaring 1000 8192
    d.config.validate = .ok () ∧
    Sends d (asking "gpt") greeting "gpt" greeting ∧ greeting.tokens = 5 ∧
    (∃ descriptor, (d.catalog {} 0).get? "gpt" = some descriptor ∧
      d.config.history.windowBudget descriptor.capabilities = 0) ∧
    ¬ SendsFit d := by
  intro d
  have hcatalog : (d.catalog {} 0).get? "gpt" = some {
      name := "gpt", capabilities := { maxTokens := 1000 } } := by
    decide +kernel
  have ha : d.registry.get? "gpt" = some { capabilities := { maxTokens := 8192 } } := by
    decide +kernel
  have hsent : Sends d (asking "gpt") greeting "gpt" greeting := sends_of_asked ha hcatalog greeting
  refine ⟨by decide +kernel, hsent, by decide +kernel, ⟨_, hcatalog, by decide⟩, fun hfit => ?_⟩
  have hle := hfit _ _ _ _ hsent (by decide +kernel) {} 0 _ hcatalog
  exact absurd hle (by decide +kernel)

end Handling

end Dispatch
