/-
Dispatch/Proofs/Breaker/Gate.lean

The health of a backend against what a request for it gets.

The router reads the health of a circuit and admission asks it for a permit, and each goes by the
phase and the cooldown in its own way.  The health is nevertheless a function of the answer that a
request would get, where a refusal is told apart by its cause (`Circuit.health_eq_ofAnswer`).

A refusal leaves no trace.  Who is refused at a backend finds a circuit there, so the table of
circuits stays as it is (`Breakers.acquire_of_refused`), and no permit is added.  What is left of
the request is its number, which no permit has: the requests for the backend that follow are
numbered one higher.  So a run after a refusal and a run without it go through the same states up to
a renumbering of tickets (`Traffic.Renumbered`), and they are answered the same.
-/
import Dispatch.Proofs.Breaker.Availability

namespace Dispatch

/-! ### Health and answers -/

/-- The health that goes with an answer to a request: whether it gets a trial, or why it is
refused. -/
def Health.ofAnswer (phase : Phase) : Option Bool → Health
  | some false => .closed
  | some true => .halfOpen
  | none => if phase = .halfOpen true then .halfOpen else .open

namespace Circuit

variable {s : BreakerSettings} {now : Nat} {c : Circuit}

/-- **The router is told what a request would get.** -/
theorem health_eq_ofAnswer (s : BreakerSettings) (now : Nat) (c : Circuit) :
    c.health s now = .ofAnswer c.phase ((c.grant s now).map Prod.snd) := by
  unfold health
  generalize hg : c.grant s now = answer
  cases Granted.of_eq hg with
  | normal hp => simp only [hp]; rfl
  | freeSlot hp => simp only [hp]; rfl
  | cooledDown hp hc => simp only [hp, hc]; rfl
  | trialRunning hp => simp only [hp]; rfl
  | coolingDown hp hc => simp only [hp, hc]; rfl

/-- A circuit refuses while its trial runs or while it is open. -/
theorem phase_of_refused (h : c.grant s now = none) :
    c.phase = .halfOpen true ∨ ∃ since, c.phase = .open since := by
  cases Granted.of_eq h with
  | trialRunning hp => exact Or.inl hp
  | coolingDown hp _ => exact Or.inr ⟨_, hp⟩

/-- A trial takes the slot. -/
theorem phase_of_trial {c' : Circuit} (h : c.grant s now = some (c', true)) :
    c'.phase = .halfOpen true := by
  cases Granted.of_eq h with
  | freeSlot _ => rfl
  | cooledDown _ _ => rfl

theorem health_of_halfOpen {running : Bool} (hp : c.phase = .halfOpen running) :
    c.health s now = .halfOpen := by
  unfold health
  rw [hp]

end Circuit

namespace Breakers

variable {b : Breakers} {backend : String} {now : Nat}

theorem health_eq_ofAnswer (b : Breakers) (backend : String) (now : Nat) :
    b.health backend now
      = .ofAnswer (b.circuit backend).phase ((b.acquire backend now).2.map Permit.trial) := by
  rw [health, Circuit.health_eq_ofAnswer, acquire_snd, Option.map_map]
  rfl

theorem grant_of_refused (h : (b.acquire backend now).2 = none) :
    (b.circuit backend).grant (b.settings backend) now = none := by
  rw [acquire_snd] at h
  exact Option.map_eq_none_iff.mp h

theorem health_eq_closed_iff : b.health backend now = .closed ↔
    ∃ p, (b.acquire backend now).2 = some p ∧ p.trial = false := by
  rw [health_eq_ofAnswer]
  cases (b.acquire backend now).2 with
  | none =>
    by_cases hp : (b.circuit backend).phase = .halfOpen true <;> simp [Health.ofAnswer, hp]
  | some p => cases ht : p.trial <;> simp [Health.ofAnswer, ht]

theorem health_eq_open_iff : b.health backend now = .open ↔
    (b.acquire backend now).2 = none ∧ ∃ since, (b.circuit backend).phase = .open since := by
  rw [health_eq_ofAnswer]
  cases hr : (b.acquire backend now).2 with
  | none =>
    -- the two causes of a refusal, of which only one reads open
    rcases Circuit.phase_of_refused (grant_of_refused hr) with hp | ⟨since, hp⟩ <;>
      simp [Health.ofAnswer, hp]
  | some p => cases ht : p.trial <;> simp [Health.ofAnswer, ht]

theorem health_eq_halfOpen_iff : b.health backend now = .halfOpen ↔
    (∃ p, (b.acquire backend now).2 = some p ∧ p.trial = true) ∨
      (b.acquire backend now).2 = none ∧ (b.circuit backend).phase = .halfOpen true := by
  rw [health_eq_ofAnswer]
  cases (b.acquire backend now).2 with
  | none => simp [Health.ofAnswer]
  | some p => cases ht : p.trial <;> simp [Health.ofAnswer, ht]

/-- The state that a trial leaves: the backend reads half-open and refuses everybody, at any
time. -/
theorem after_trial {p : Permit} (h : (b.acquire backend now).2 = some p) (ht : p.trial = true)
    (later : Nat) :
    (b.acquire backend now).1.health backend later = .halfOpen ∧
      ((b.acquire backend now).1.acquire backend later).2 = none := by
  rw [acquire_snd] at h
  obtain ⟨⟨c, trial⟩, hgrant, rfl⟩ := Option.map_eq_some_iff.mp h
  obtain rfl : trial = true := ht
  have hcircuit : (b.acquire backend now).1.circuit backend = c := by
    rw [circuit, get?_acquire, if_pos rfl, hgrant]
    rfl
  have hphase := Circuit.phase_of_trial hgrant
  constructor
  · rw [health, hcircuit, Circuit.health_of_halfOpen hphase]
  · rw [acquire_snd, hcircuit, Circuit.grant_of_trialRunning hphase]
    rfl

/-- A refusal changes no circuit. -/
theorem acquire_of_refused (h : (b.acquire backend now).2 = none) :
    (b.acquire backend now).1 = b := by
  have hgrant := grant_of_refused h
  -- a backend without a circuit would let everybody through
  have hsome : b.circuits.get? backend = some (b.circuit backend) := by
    cases hc : b.circuits.get? backend with
    | some c => simp [circuit, hc]
    | none =>
      have hclosed : b.circuit backend = {} := by simp [circuit, hc]
      rw [hclosed] at hgrant
      cases hgrant
  unfold acquire
  simp only [hgrant]
  rw [put, Table.insert_of_get?_eq_some hsome]

end Breakers

/-! ### Runs up to a renumbering of tickets -/

/-- A turn with other tickets. -/
def BreakerTurn.mapTicket (f : Ticket → Ticket) : BreakerTurn → BreakerTurn
  | .acquire backend now => .acquire backend now
  | .settle t success now => .settle (f t) success now
  | .release t => .release (f t)
  | .health backend now => .health backend now
  | .reset => .reset

namespace Traffic

variable {f : Ticket → Ticket} {w w' : Traffic}

/-- Two traffics have the same circuits, and the same permits under tickets that `f` renumbers. -/
structure Renumbered (f : Ticket → Ticket) (w w' : Traffic) : Prop where
  breakers : w'.breakers = w.breakers
  permits : w'.permits ∘ f = w.permits
  /-- The tickets of requests to come. -/
  upcoming : ∀ backend k, f ⟨backend, w.asked backend + k⟩ = ⟨backend, w'.asked backend + k⟩

namespace Renumbered

theorem issue (h : Renumbered f w w') (hf : Function.Injective f) (backend : String)
    (now : Nat) : Renumbered f (w.issue backend now) (w'.issue backend now) where
  breakers := by
    show (w'.breakers.acquire backend now).1 = (w.breakers.acquire backend now).1
    rw [h.breakers]
  permits := by
    have hticket : f ⟨backend, w.asked backend⟩ = ⟨backend, w'.asked backend⟩ :=
      h.upcoming backend 0
    show Function.update w'.permits ⟨backend, w'.asked backend⟩ _ ∘ f
      = Function.update w.permits ⟨backend, w.asked backend⟩ _
    rw [← hticket, Function.update_comp_eq_of_injective _ hf, h.permits, h.breakers]
  upcoming other k := by
    show f ⟨other, Function.update w.asked backend (w.asked backend + 1) other + k⟩
      = ⟨other, Function.update w'.asked backend (w'.asked backend + 1) other + k⟩
    by_cases hother : other = backend
    · -- both count one request more, so what is to come starts one later on either side
      subst hother
      rw [Function.update_self, Function.update_self, Nat.add_assoc, Nat.add_assoc]
      exact h.upcoming other (1 + k)
    · rw [Function.update_of_ne hother, Function.update_of_ne hother]
      exact h.upcoming other k

/-- Both use up the same permit, each under its own ticket. -/
theorem use (h : Renumbered f w w') (hf : Function.Injective f) (t : Ticket)
    {act act' : Permit → Breakers} (hact : ∀ p, act' p = act p) :
    Renumbered f (w.use t act) (w'.use (f t) act') := by
  have hpermit : w'.permits (f t) = w.permits t := congrFun h.permits t
  cases hp : w.permits t with
  | none =>
    rw [use_of_none hp, use_of_none (hpermit.trans hp)]
    exact h
  | some p =>
    rw [use_of_some hp, use_of_some (hpermit.trans hp)]
    refine ⟨hact p, ?_, h.upcoming⟩
    show Function.update w'.permits (f t) none ∘ f = Function.update w.permits t none
    rw [Function.update_comp_eq_of_injective _ hf, h.permits]

/-- Every turn keeps the renumbering. -/
theorem step (h : Renumbered f w w') (hf : Function.Injective f) (e : BreakerTurn) :
    Renumbered f (w.step e) (w'.step (e.mapTicket f)) := by
  cases e with
  | acquire backend now => exact h.issue hf backend now
  | settle t success now => exact h.use hf t fun p => by rw [h.breakers]
  | release t => exact h.use hf t fun p => by rw [h.breakers]
  | health backend now => exact h
  | reset =>
    exact ⟨congrArg Breakers.reset h.breakers, h.permits, h.upcoming⟩

theorem answer?_eq (h : Renumbered f w w') (e : BreakerTurn) :
    w'.answer? (e.mapTicket f) = w.answer? e := by
  cases e with
  | acquire backend now => rw [BreakerTurn.mapTicket, answer?, answer?, h.breakers]
  | settle t success now => rfl
  | release t => rfl
  | health backend now => rw [BreakerTurn.mapTicket, answer?, answer?, h.breakers]
  | reset => rfl

/-- Turns are answered the same. -/
theorem answers_eq (h : Renumbered f w w') (hf : Function.Injective f)
    (turns : List BreakerTurn) : w'.answers (turns.map (.mapTicket f)) = w.answers turns := by
  induction turns generalizing w w' with
  | nil => rfl
  | cons e turns ih =>
    rw [List.map_cons, answers, answers, h.answer?_eq e, ih (h.step hf e)]

end Renumbered

end Traffic

/-! ### A refused request -/

/-- The ticket of a request if another one, with the ticket `extra`, is made before it. -/
def Ticket.after (extra t : Ticket) : Ticket :=
  if t.backend = extra.backend ∧ extra.number ≤ t.number then ⟨t.backend, t.number + 1⟩ else t

theorem Ticket.after_of_le {backend : String} {m n : Nat} (h : m ≤ n) :
    after ⟨backend, m⟩ ⟨backend, n⟩ = ⟨backend, n + 1⟩ := if_pos ⟨rfl, h⟩

/-- Requests for other backends, and earlier ones, keep their numbers. -/
theorem Ticket.after_of_not {extra t : Ticket}
    (h : ¬ (t.backend = extra.backend ∧ extra.number ≤ t.number)) : after extra t = t := if_neg h

theorem Ticket.after_injective (extra : Ticket) : Function.Injective (after extra) := by
  rintro ⟨b, m⟩ ⟨c, n⟩ h
  unfold after at h
  grind

namespace Traffic

variable {w : Traffic} {backend : String} {now : Nat}

/-- A refused request leaves everything as it is but the numbers of the requests that follow. -/
theorem renumbered_of_refused (hrefused : (w.breakers.acquire backend now).2 = none)
    (hissued : ∀ n p, w.permits ⟨backend, n⟩ = some p → n < w.asked backend) :
    Renumbered (Ticket.after ⟨backend, w.asked backend⟩) w (w.step (.acquire backend now)) where
  breakers := Breakers.acquire_of_refused hrefused
  permits := by
    funext t
    show Function.update w.permits ⟨backend, w.asked backend⟩ (w.breakers.acquire backend now).2
      (Ticket.after ⟨backend, w.asked backend⟩ t) = w.permits t
    have hnone : ∀ n, w.asked backend ≤ n → w.permits ⟨backend, n⟩ = none := fun n hn =>
      Option.eq_none_iff_forall_ne_some.mpr fun p hp => Nat.not_lt.mpr hn (hissued n p hp)
    rw [hrefused]
    obtain ⟨b, n⟩ := t
    by_cases ht : b = backend ∧ w.asked backend ≤ n
    · -- a request to come: nobody has its permit, under the one number or the other
      obtain ⟨rfl, hn⟩ := ht
      have hne : (⟨b, n + 1⟩ : Ticket) ≠ ⟨b, w.asked b⟩ := fun heq =>
        Nat.ne_of_gt (Nat.lt_succ_of_le hn) (Ticket.mk.inj heq).2
      rw [Ticket.after_of_le hn, Function.update_of_ne hne, hnone n hn,
        hnone (n + 1) (Nat.le_succ_of_le hn)]
    · have hne : (⟨b, n⟩ : Ticket) ≠ ⟨backend, w.asked backend⟩ := fun heq =>
        ht ⟨(Ticket.mk.inj heq).1, Nat.le_of_eq (Ticket.mk.inj heq).2.symm⟩
      rw [Ticket.after_of_not ht, Function.update_of_ne hne]
  upcoming b k := by
    show Ticket.after ⟨backend, w.asked backend⟩ ⟨b, w.asked b + k⟩
      = ⟨b, Function.update w.asked backend (w.asked backend + 1) b + k⟩
    by_cases hb : b = backend
    · -- only the right side has counted the request, and the renumbering makes up for it
      subst hb
      rw [Function.update_self, Nat.add_right_comm]
      exact Ticket.after_of_le (Nat.le_add_right _ _)
    · rw [Function.update_of_ne hb]
      exact Ticket.after_of_not fun h => hb h.1

/-- **The health that is reported is what a request gets.**  Whoever asked, reported, dropped
permits or reset before, in whatever order and at whatever times, and whatever the time now: a
backend reads closed exactly if a request would get a permit that is no trial; open exactly if it
would be refused while the circuit is open; and half-open exactly if it would get a trial or be
refused because the trial is running.  Once a trial is granted the backend reads half-open and
refuses, at every time.  A request that is refused changes nothing: whatever turns follow, they are
answered as if it had not been made, where later requests for the backend are numbered one
higher. -/
theorem health_matches_gate (defaults : BreakerSettings) (overrides : Table BreakerSettings)
    (turns : List BreakerTurn) (backend : String) (now : Nat) :
    let w := (start defaults overrides).run turns
    let answer := (w.breakers.acquire backend now).2
    let after := w.step (.acquire backend now)
    (w.breakers.health backend now = .closed ↔ ∃ p, answer = some p ∧ p.trial = false) ∧
    (w.breakers.health backend now = .open ↔
      answer = none ∧ ∃ since, (w.breakers.circuit backend).phase = .open since) ∧
    (w.breakers.health backend now = .halfOpen ↔
      (∃ p, answer = some p ∧ p.trial = true) ∨
        answer = none ∧ (w.breakers.circuit backend).phase = .halfOpen true) ∧
    ((∃ p, answer = some p ∧ p.trial = true) → ∀ later,
      after.breakers.health backend later = .halfOpen ∧
        (after.breakers.acquire backend later).2 = none) ∧
    (answer = none → after.breakers = w.breakers ∧
      ∀ later, after.answers (later.map (.mapTicket (.after ⟨backend, w.asked backend⟩)))
        = w.answers later) := by
  intro w answer after
  refine ⟨Breakers.health_eq_closed_iff, Breakers.health_eq_open_iff,
    Breakers.health_eq_halfOpen_iff, ?_, fun hrefused => ?_⟩
  · rintro ⟨p, hp, ht⟩ later
    exact Breakers.after_trial hp ht later
  · have h := renumbered_of_refused hrefused fun n p hp => (attended_lane turns backend).issued hp
    exact ⟨h.breakers, fun later => h.answers_eq (Ticket.after_injective _) later⟩

/-- A circuit that has cooled down grants its trial.  While the trial runs another request is
refused; then the trial succeeds, and a call of the closed circuit fails.  Its permit has the
number 2, or 3 after the refusal, and the answers are the same. -/
theorem refusal_unseen_while_trial_runs :
    let settings : BreakerSettings := { failureThreshold := 1, cooldown := .zero }
    let opening : List BreakerTurn := [.acquire "b" 0, .settle ⟨"b", 0⟩ false 0]
    let opened := (start settings .empty).run opening
    let trying := (start settings .empty).run (opening ++ [.acquire "b" 0])
    let ending (n : Nat) : List BreakerTurn :=
      [.settle ⟨"b", 1⟩ true 0, .acquire "b" 0, .settle ⟨"b", n⟩ false 0, .health "b" 0]
    (∃ p, (opened.breakers.acquire "b" 0).2 = some p ∧ p.trial = true) ∧
    (∀ later, trying.breakers.health "b" later = .halfOpen ∧
      (trying.breakers.acquire "b" later).2 = none) ∧
    (trying.step (.acquire "b" 0)).answers (ending 3) = trying.answers (ending 2) := by
  intro settings opening opened trying ending
  have htrial : ∃ p, (opened.breakers.acquire "b" 0).2 = some p ∧ p.trial = true :=
    ⟨⟨"b", 2, true⟩, by decide, rfl⟩
  have hrefused : (trying.breakers.acquire "b" 0).2 = none := by decide
  have hasked : trying.asked "b" = 2 := by decide
  have hending : (ending 2).map (.mapTicket (.after ⟨"b", 2⟩)) = ending 3 := by decide
  obtain ⟨-, -, -, hafter, -⟩ := health_matches_gate settings .empty opening "b" 0
  obtain ⟨-, -, -, -, hunseen⟩ :=
    health_matches_gate settings .empty (opening ++ [.acquire "b" 0]) "b" 0
  have hanswers := (hunseen hrefused).2 (ending 2)
  refine ⟨htrial, hafter htrial, ?_⟩
  rwa [hasked, hending] at hanswers

end Traffic

end Dispatch
