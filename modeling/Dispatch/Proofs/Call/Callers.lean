/-
Dispatch/Proofs/Call/Callers.lean

Calls that go on at the same time, with the breakers between them.

Any number of calls take their turns in any order, and others may use the breakers beside them.
What a call does to the breakers is known from its mark: an attempt that is started or refused was a
request, and an attempt that has ended has used up its permit in one of three ways, which its end
decides (`AttemptEnd.use`).  So a run of calls is a run of traffic (`Callers.traffic_run`), and what
is known of traffic is known of calls.

Nobody has a permit of somebody else.  `Callers.Sound` says which tickets were given to which call:
those of the attempts that are over, none of which is out any more, and the one of the attempt that
runs, which is.
-/
import Dispatch.Proofs.Breaker.Opening
import Dispatch.Proofs.Call.Turn

namespace Dispatch

/-! ### Permits and ends of attempts -/

/-- What becomes of a permit. -/
inductive PermitUse where
  /-- The call is reported as a success. -/
  | succeeded
  /-- The call is reported as a failure. -/
  | failed
  | dropped
  deriving DecidableEq, Repr

/-- The breakers after the use of a permit. -/
def PermitUse.apply (b : Breakers) (p : Permit) (now : Nat) : PermitUse → Breakers
  | succeeded => b.settle p true now
  | failed => b.settle p false now
  | dropped => b.release p

/-- The turn that uses up the permit of a ticket. -/
def PermitUse.turn (ticket : Ticket) (now : Nat) : PermitUse → BreakerTurn
  | succeeded => .settle ticket true now
  | failed => .settle ticket false now
  | dropped => .release ticket

/-- What becomes of the permit of an attempt: a value is a success; a failure that is not the fault
of the request, and a time that is over, count as failures; the rest counts as nothing. -/
def AttemptEnd.use {α : Type} : AttemptEnd α → PermitUse
  | produced _ => .succeeded
  | failed f => if f.category = .invalid then .dropped else .failed
  | timedOut => .failed
  | cutShort | abandoned => .dropped

@[simp] theorem PermitUse.turn_uses (use : PermitUse) (ticket : Ticket) (now : Nat) :
    (use.turn ticket now).uses = some ticket := by
  cases use <;> rfl

namespace Call

variable {α : Type} {plan : CallPlan} {c c' : Call α} {t : CallTurn α} {b : Breakers}
  {e : AttemptEnd α}

/-- Whether a call has returned a value. -/
def succeeded (c : Call α) : Bool :=
  match c.stage with
  | .finished (.ok _) => true
  | _ => false

/-- A failure that is the fault of the request counts as nothing. -/
theorem settleFailure_eq (now : Nat) (b : Breakers) (p : Permit) (f : Failure) :
    settleFailure now b p f
      = (if f.category = .invalid then PermitUse.dropped else .failed).apply b p now := by
  unfold settleFailure FailureCategory.countsAgainstBackend
  by_cases hf : f.category = .invalid
  · simp [hf, PermitUse.apply]
  · simp [hf, PermitUse.apply]

theorem Sequel.not_succeeded {now : Nat} {f : Failure} (h : c.Sequel plan now f c') :
    c'.succeeded = false := by
  cases h with
  | final hf => rfl
  | exhausted hf hmax => rfl
  | lost hf hmore hw => rfl
  | late hf hmore hw hd => rfl
  | waits hf hmore hw hd => rfl

/-- What the end of an attempt does: its permit is used up, and the call has returned a value
exactly if that was a success. -/
structure EndedWith (plan : CallPlan) (c : Call α) (t : CallTurn α) (e : AttemptEnd α)
    (b : Breakers) (c' : Call α) : Prop where
  exists_running : ∃ a, c.stage = .running a ∧ b = e.use.apply t.breakers a.permit t.now
  not_running : ∀ a, c'.stage ≠ .running a
  attempts_eq : c'.attempts = c.attempts
  succeeded_iff : c'.succeeded = true ↔ e.use = .succeeded

theorem Acted.endedWith (h : Acted plan c t (some (.ended e)) b c') :
    EndedWith plan c t e b c' := by
  cases h with
  | produced hs he => exact ⟨⟨_, hs, rfl⟩, fun _ => nofun, rfl, iff_of_true rfl rfl⟩
  | @failed a f _ hs he next =>
    refine ⟨⟨a, hs, settleFailure_eq ..⟩, next.not_running, next.kept.2.1, ?_⟩
    refine iff_of_false (by simp [next.not_succeeded]) ?_
    by_cases hf : f.category = .invalid <;> simp [AttemptEnd.use, hf]
  | @timedOut a _ hs he hlong next =>
    refine ⟨⟨a, hs, settleFailure_eq ..⟩, next.not_running, next.kept.2.1, ?_⟩
    exact iff_of_false (by simp [next.not_succeeded]) nofun
  | cutShort hs he hshort => exact ⟨⟨_, hs, rfl⟩, fun _ => nofun, rfl, iff_of_false nofun nofun⟩
  | abandoned hs he => exact ⟨⟨_, hs, rfl⟩, fun _ => nofun, rfl, iff_of_false nofun nofun⟩

/-- What the start of an attempt does: the breakers are asked, and what they answer is the permit of
the attempt. -/
theorem Acted.startedWith (h : Acted plan c t (some .started) b c') :
    c.stage = .ready ∧ b = (t.breakers.acquire plan.backend t.now).1 ∧
      ∃ a, c'.stage = .running a ∧
        (t.breakers.acquire plan.backend t.now).2 = some a.permit ∧
        c'.attempts = c.attempts + 1 := by
  cases h with
  | started hs he hd hb hsince fits => exact ⟨hs, rfl, _, rfl, hb, rfl⟩

/-- What a call does between attempts: none is running before or after, or nothing happens. -/
structure Kept (c c' : Call α) : Prop where
  attempts_eq : c'.attempts = c.attempts
  running_iff : ∀ a, c'.stage = .running a ↔ c.stage = .running a
  succeeded_eq : c'.succeeded = c.succeeded

theorem Acted.refusedWith (h : Acted plan c t (some .refused) b c') :
    b = (t.breakers.acquire plan.backend t.now).1 ∧
      (t.breakers.acquire plan.backend t.now).2 = none ∧ Kept c c' := by
  cases h with
  | refused hs he hd hb =>
    exact ⟨rfl, hb, rfl, fun a => by simp [hs, finish], by simp [succeeded, hs, finish]⟩

theorem Acted.unmarked (h : Acted plan c t none b c') : b = t.breakers ∧ Kept c c' := by
  cases h with
  | idle hidle => exact ⟨rfl, rfl, fun a => Iff.rfl, rfl⟩
  | late hs he hd =>
    exact ⟨rfl, rfl, fun a => by simp [hs, finish], by simp [succeeded, hs, finish]⟩
  | woken hs he => exact ⟨rfl, rfl, fun a => by simp [hs], by simp [succeeded, hs]⟩
  | left hs he =>
    rcases hs with hs | ⟨w, hs⟩
    · exact ⟨rfl, rfl, fun a => by simp [hs], by simp [succeeded, hs]⟩
    · exact ⟨rfl, rfl, fun a => by simp [hs], by simp [succeeded, hs]⟩

end Call

/-! ### Traffic beside a ticket -/

namespace Traffic

variable {w : Traffic} {e : BreakerTurn} {x ticket : Ticket} {p : Permit} {now : Nat}

/-- The permit of a ticket stays as it is while others are asked for and used. -/
theorem permits_step_of_ne (hx : x.number < w.asked x.backend) (he : e.uses ≠ some x) :
    (w.step e).permits x = w.permits x := by
  have huse : ∀ (y : Ticket) (act : Permit → Breakers), x ≠ y →
      (w.use y act).permits x = w.permits x := by
    intro y act hne
    rcases hp : w.permits y with - | p
    · rw [use_of_none hp]
    · rw [use_of_some hp]
      exact Function.update_of_ne hne ..
  cases e with
  | acquire backend now =>
    refine Function.update_of_ne ?_ ..
    rintro rfl
    exact Nat.lt_irrefl _ hx
  | settle y success now => exact huse y _ fun hxy => he (hxy ▸ rfl)
  | release y => exact huse y _ fun hxy => he (hxy ▸ rfl)
  | health backend now => rfl
  | reset => rfl

theorem asked_le_step (w : Traffic) (e : BreakerTurn) (backend : String) :
    w.asked backend ≤ (w.step e).asked backend := by
  have huse : ∀ (y : Ticket) (act : Permit → Breakers),
      w.asked backend ≤ (w.use y act).asked backend := by
    intro y act
    rcases hp : w.permits y with - | p
    · exact Nat.le_of_eq (by rw [use_of_none hp])
    · exact Nat.le_of_eq (by rw [use_of_some hp]; rfl)
  cases e with
  | acquire b now =>
    show w.asked backend ≤ Function.update w.asked b (w.asked b + 1) backend
    by_cases hb : backend = b
    · subst hb
      rw [Function.update_self]
      exact Nat.le_succ _
    · exact Nat.le_of_eq (Function.update_of_ne hb ..).symm
  | settle y success now => exact huse y _
  | release y => exact huse y _
  | health b now => exact Nat.le_refl _
  | reset => exact Nat.le_refl _

/-- A permit that is out reaches the breakers when it is used up, and is gone. -/
theorem step_turn (hp : w.permits ticket = some p) (use : PermitUse) :
    (w.step (use.turn ticket now)).breakers = use.apply w.breakers p now ∧
      (w.step (use.turn ticket now)).permits ticket = none := by
  cases use with
  | succeeded =>
    rw [PermitUse.turn, step, use_of_some hp]
    exact ⟨rfl, Function.update_self ..⟩
  | failed =>
    rw [PermitUse.turn, step, use_of_some hp]
    exact ⟨rfl, Function.update_self ..⟩
  | dropped =>
    rw [PermitUse.turn, step, use_of_some hp]
    exact ⟨rfl, Function.update_self ..⟩

end Traffic

/-! ### Calls side by side -/

/-- A call, and the tickets that were given to it. -/
structure Caller (α : Type) where
  plan : CallPlan
  call : Call α
  /-- The ticket of the attempt that runs. -/
  ticket : Option Ticket := none
  /-- The tickets of the attempts that are over, and how these ended. -/
  ledger : List (Ticket × AttemptEnd α) := []

/-- Any number of calls, and the traffic at the breakers. -/
structure Callers (α : Type) where
  traffic : Traffic
  calls : Nat → Option (Caller α) := fun _ => none
  /-- The call that a ticket was given to; some tickets are given to others. -/
  owner : Ticket → Option Nat := fun _ => none

/-- A turn of somebody. -/
inductive CallersTurn (α : Type) where
  /-- Somebody makes a call. -/
  | begin (id : Nat) (plan : CallPlan) (now : Nat)
  /-- Something happens to a call. -/
  | act (id : Nat) (now : Nat) (event : CallEvent α)
  /-- Somebody else uses the breakers. -/
  | other (e : BreakerTurn)

namespace Caller

variable {α : Type}

/-- All tickets that were given to a call. -/
def tickets (k : Caller α) : List Ticket := k.ledger.map Prod.fst ++ k.ticket.toList

/-- What a call does at the breakers, if it leaves a mark. -/
def deed? (k : Caller α) (now : Nat) : CallMark α → Option BreakerTurn
  | .started | .refused => some (.acquire k.plan.backend now)
  | .ended e => k.ticket.map fun ticket => e.use.turn ticket now

/-- A call after a turn that leaves a mark, if any; what is asked for next has the ticket `next`. -/
def note (k : Caller α) (call : Call α) (next : Ticket) : Option (CallMark α) → Caller α
  | some .started => { k with call, ticket := some next }
  | some (.ended e) =>
    { k with call, ticket := none, ledger := k.ledger ++ k.ticket.toList.map fun x => (x, e) }
  | some .refused | none => { k with call }

end Caller

namespace Callers

variable {α : Type}

/-- Nobody has called yet. -/
def start (defaults : BreakerSettings) (overrides : Table BreakerSettings) : Callers α :=
  { traffic := .start defaults overrides }

/-- What a call finds. -/
def found (w : Callers α) (now : Nat) (event : CallEvent α) : CallTurn α :=
  { now, breakers := w.traffic.breakers, event }

/-- The ticket of the next request. -/
def next (w : Callers α) (backend : String) : Ticket := ⟨backend, w.traffic.asked backend⟩

/-- What can be seen of a call in a turn. -/
def mark? (w : Callers α) (id now : Nat) (event : CallEvent α) : Option (CallMark α) :=
  (w.calls id).bind fun k => k.call.mark? k.plan (w.found now event)

/-- What a turn does at the breakers.  Others cannot use the permit of a call. -/
def deed? (w : Callers α) : CallersTurn α → Option BreakerTurn
  | .begin .. => none
  | .act id now event => (w.calls id).bind fun k => (w.mark? id now event).bind (k.deed? now)
  | .other e => if (e.uses.bind w.owner).isSome then none else some e

/-- One turn. -/
def step (w : Callers α) (t : CallersTurn α) : Callers α where
  traffic := w.traffic.run (w.deed? t).toList
  calls :=
    match t with
    | .begin id plan now =>
      match w.calls id with
      | none => Function.update w.calls id (some { plan, call := Call.start plan now })
      | some _ => w.calls
    | .act id now event =>
      Function.update w.calls id <| (w.calls id).map fun k =>
        k.note (k.call.step k.plan (w.found now event)) (w.next k.plan.backend)
          (w.mark? id now event)
    | .other _ => w.calls
  owner :=
    match t with
    | .act id now event =>
      match w.calls id, w.mark? id now event with
      | some k, some .started => Function.update w.owner (w.next k.plan.backend) (some id)
      | _, _ => w.owner
    | .begin .. | .other _ => w.owner

/-- Turns one after another. -/
def run (w : Callers α) (turns : List (CallersTurn α)) : Callers α := turns.foldl step w

/-- All that is done at the breakers in a run. -/
def deeds (w : Callers α) : List (CallersTurn α) → List BreakerTurn
  | [] => []
  | t :: turns => (w.deed? t).toList ++ (w.step t).deeds turns

@[simp] theorem run_nil (w : Callers α) : w.run [] = w := rfl

@[simp] theorem run_cons (w : Callers α) (t : CallersTurn α) (ts : List (CallersTurn α)) :
    w.run (t :: ts) = (w.step t).run ts := rfl

theorem run_append (w : Callers α) (ts us : List (CallersTurn α)) :
    w.run (ts ++ us) = (w.run ts).run us := List.foldl_append

/-- **A run of calls is a run of traffic.** -/
theorem traffic_run (w : Callers α) (ts : List (CallersTurn α)) :
    (w.run ts).traffic = w.traffic.run (w.deeds ts) := by
  induction ts generalizing w with
  | nil => rfl
  | cons t ts ih =>
    rw [run_cons, ih, deeds, Traffic.run, Traffic.run, List.foldl_append]
    rfl

/-- What is done at the breakers is done by others, or it is a request or a use of a permit by a
call. -/
theorem deed_cases {w : Callers α} {t : CallersTurn α} {e : BreakerTurn}
    (h : w.deed? t = some e) :
    t = .other e ∨ ∃ id now event, t = .act id now event ∧
      ((∃ backend, e = .acquire backend now) ∨
        ∃ (use : PermitUse) (ticket : Ticket), e = use.turn ticket now) := by
  cases t with
  | begin id plan now => cases h
  | other e' =>
    rw [deed?] at h
    split at h
    · cases h
    · exact .inl (congrArg CallersTurn.other (Option.some.inj h))
  | act id now event =>
    rw [deed?] at h
    obtain ⟨k, -, h⟩ := Option.bind_eq_some_iff.mp h
    obtain ⟨mark, -, h⟩ := Option.bind_eq_some_iff.mp h
    refine .inr ⟨id, now, event, rfl, ?_⟩
    rcases mark with - | e' | -
    · exact .inl ⟨_, (Option.some.inj h).symm⟩
    · obtain ⟨ticket, -, rfl⟩ := Option.map_eq_some_iff.mp h
      exact .inr ⟨_, _, rfl⟩
    · exact .inl ⟨_, (Option.some.inj h).symm⟩

end Callers

/-! ### Who has which permit -/

/-- What a call knows of its tickets is true of the traffic. -/
structure Caller.Sound {α : Type} (w : Traffic) (owner : Ticket → Option Nat) (id : Nat)
    (k : Caller α) : Prop where
  coherent : k.call.Coherent k.plan
  /-- The permit of the running attempt is out. -/
  running : ∀ {a}, k.call.stage = .running a →
    ∃ ticket, k.ticket = some ticket ∧ w.permits ticket = some a.permit
  resting : (∀ a, k.call.stage ≠ .running a) → k.ticket = none
  /-- No permit of an attempt that is over is out. -/
  spent : ∀ x ∈ k.ledger, w.permits x.1 = none
  backend_eq : ∀ x ∈ k.tickets, x.backend = k.plan.backend
  nodup : k.tickets.Nodup
  owner_iff : ∀ x, owner x = some id ↔ x ∈ k.tickets
  attempts_eq : k.call.attempts = k.tickets.length
  /-- One permit was reported as a success if a value has come back, and none otherwise. -/
  successes_eq : k.ledger.countP (fun x => x.2.use = .succeeded) = if k.call.succeeded then 1 else 0

/-- What all calls know of their tickets is true of the traffic. -/
structure Callers.Sound {α : Type} (w : Callers α) : Prop where
  caller : ∀ {id k}, w.calls id = some k → k.Sound w.traffic w.owner id
  absent : ∀ {id}, w.calls id = none → ∀ x, w.owner x ≠ some id
  issued : ∀ {x id}, w.owner x = some id → x.number < w.traffic.asked x.backend

namespace Caller.Sound

variable {α : Type} {w w' : Traffic} {owner owner' : Ticket → Option Nat} {id now : Nat}
  {k : Caller α} {call : Call α}

/-- A call is not concerned by what happens to the tickets of others. -/
theorem frame (h : k.Sound w owner id) (hpermits : ∀ x ∈ k.tickets, w'.permits x = w.permits x)
    (howner : ∀ x, owner' x = some id ↔ owner x = some id) : k.Sound w' owner' id where
  coherent := h.coherent
  running ha := by
    obtain ⟨ticket, hticket, hout⟩ := h.running ha
    refine ⟨ticket, hticket, ?_⟩
    rw [hpermits ticket (by simp [tickets, hticket]), hout]
  resting := h.resting
  spent x hx := by
    rw [hpermits x.1 (List.mem_append_left _ (List.mem_map_of_mem hx)), h.spent x hx]
  backend_eq := h.backend_eq
  nodup := h.nodup
  owner_iff x := (howner x).trans (h.owner_iff x)
  attempts_eq := h.attempts_eq
  successes_eq := h.successes_eq

/-- A call goes on between attempts. -/
theorem kept (h : k.Sound w owner id) (hc : call.Coherent k.plan) (hkept : k.call.Kept call) :
    Caller.Sound w owner id { k with call } where
  coherent := hc
  running ha := h.running ((hkept.running_iff _).mp ha)
  resting hno := h.resting fun a ha => hno a ((hkept.running_iff a).mpr ha)
  spent := h.spent
  backend_eq := h.backend_eq
  nodup := h.nodup
  owner_iff := h.owner_iff
  attempts_eq := hkept.attempts_eq.trans h.attempts_eq
  successes_eq := by
    rw [h.successes_eq, hkept.succeeded_eq]

/-- A call starts an attempt with the permit of a new ticket. -/
theorem started (h : k.Sound w owner id) (hc : call.Coherent k.plan) {next : Ticket}
    {a : RunningAttempt} (hready : k.call.stage = .ready) (ha : call.stage = .running a)
    (hattempts : call.attempts = k.call.attempts + 1) (hbackend : next.backend = k.plan.backend)
    (hnew : next ∉ k.tickets) (hout : w'.permits next = some a.permit)
    (hpermits : ∀ x ∈ k.tickets, w'.permits x = w.permits x)
    (howner : ∀ x, owner' x = some id ↔ owner x = some id ∨ x = next) :
    Caller.Sound w' owner' id { k with call, ticket := some next } := by
  have hnone : k.ticket = none := h.resting fun a' ha' => nomatch hready.symm.trans ha'
  have hold : k.tickets = k.ledger.map Prod.fst := by
    rw [tickets, hnone, Option.toList_none, List.append_nil]
  have htickets : ({ k with call, ticket := some next } : Caller α).tickets
      = k.tickets ++ [next] := by
    rw [hold]
    rfl
  have hmem : ∀ x, x ∈ ({ k with call, ticket := some next } : Caller α).tickets ↔
      x ∈ k.tickets ∨ x = next := by
    intro x
    rw [htickets, List.mem_append, List.mem_singleton]
  constructor
  case coherent => exact hc
  case running =>
    intro a' ha'
    obtain rfl : a = a' := CallStage.running.inj (ha.symm.trans ha')
    exact ⟨next, rfl, hout⟩
  case resting => exact fun hno => absurd ha (hno a)
  case spent =>
    intro x hx
    rw [hpermits x.1 (hold ▸ List.mem_map_of_mem hx), h.spent x hx]
  case backend_eq =>
    intro x hx
    rcases (hmem x).mp hx with hx | rfl
    · exact h.backend_eq x hx
    · exact hbackend
  case nodup =>
    rw [htickets]
    refine List.nodup_append.mpr ⟨h.nodup, by simp, ?_⟩
    rintro x hx y hy rfl
    exact hnew (List.mem_singleton.mp hy ▸ hx)
  case owner_iff =>
    intro x
    rw [howner x, hmem x, h.owner_iff x]
  case attempts_eq =>
    rw [hattempts, h.attempts_eq, htickets, List.length_append, List.length_singleton]
  case successes_eq =>
    rw [h.successes_eq]
    simp [Call.succeeded, hready, ha]

/-- An attempt is over, and its permit is used up. -/
theorem ended (h : k.Sound w owner id) (hc : call.Coherent k.plan) {ticket : Ticket}
    {e : AttemptEnd α} (hticket : k.ticket = some ticket) (hrun : k.call.succeeded = false)
    (hno : ∀ a, call.stage ≠ .running a) (hattempts : call.attempts = k.call.attempts)
    (hsucceeded : call.succeeded = true ↔ e.use = .succeeded)
    (hgone : w'.permits ticket = none)
    (hpermits : ∀ x ∈ k.tickets, x ≠ ticket → w'.permits x = w.permits x) :
    Caller.Sound w' owner id
      { k with call, ticket := none, ledger := k.ledger ++ [(ticket, e)] } := by
  have hold : k.tickets = k.ledger.map Prod.fst ++ [ticket] := by
    rw [tickets, hticket, Option.toList_some]
  have htickets : ({ k with call, ticket := none, ledger := k.ledger ++ [(ticket, e)] } :
      Caller α).tickets = k.tickets := by
    rw [hold]
    simp [tickets]
  constructor
  case coherent => exact hc
  case running => exact fun ha => absurd ha (hno _)
  case resting => exact fun _ => rfl
  case spent =>
    intro x hx
    rcases List.mem_append.mp hx with hx | hx
    · have hmem : x.1 ∈ k.ledger.map Prod.fst := List.mem_map_of_mem hx
      have hne : x.1 ≠ ticket := by
        have hnodup := h.nodup
        rw [hold] at hnodup
        exact (List.nodup_append.mp hnodup).2.2 _ hmem _ (List.mem_singleton_self ticket)
      rw [hpermits x.1 (hold ▸ List.mem_append_left _ hmem) hne, h.spent x hx]
    · obtain rfl := List.mem_singleton.mp hx
      exact hgone
  case backend_eq => exact htickets ▸ h.backend_eq
  case nodup => exact htickets ▸ h.nodup
  case owner_iff => exact htickets ▸ h.owner_iff
  case attempts_eq =>
    rw [htickets, ← h.attempts_eq]
    exact hattempts
  case successes_eq =>
    rw [List.countP_append, h.successes_eq, hrun, List.countP_singleton]
    cases hs : call.succeeded with
    | true => simp [hsucceeded.mp hs]
    | false =>
      have hne : e.use ≠ .succeeded := fun he => by simp [hsucceeded.mpr he] at hs
      simp [hne]

end Caller.Sound

namespace Callers

variable {α : Type} {w w' : Callers α} {id now : Nat} {event : CallEvent α} {k : Caller α}
  {mark : Option (CallMark α)}

/-! #### The parts of a turn of a call -/

theorem mark?_of_calls (hk : w.calls id = some k) (now : Nat) (event : CallEvent α) :
    w.mark? id now event = k.call.mark? k.plan (w.found now event) := by
  rw [mark?, hk, Option.bind_some]

theorem deed?_act (hk : w.calls id = some k) (now : Nat) (event : CallEvent α) :
    w.deed? (.act id now event) = (w.mark? id now event).bind (k.deed? now) := by
  rw [deed?, hk, Option.bind_some]

/-- The traffic after a turn that does something at the breakers. -/
theorem traffic_step {t : CallersTurn α} {e : BreakerTurn} (h : w.deed? t = some e) :
    (w.step t).traffic = w.traffic.step e := by
  show w.traffic.run (w.deed? t).toList = w.traffic.step e
  rw [h]
  rfl

theorem calls_act (hk : w.calls id = some k) (hmark : w.mark? id now event = mark) :
    (w.step (.act id now event)).calls = Function.update w.calls id
      (some (k.note (k.call.step k.plan (w.found now event)) (w.next k.plan.backend) mark)) := by
  simp only [step, hk, hmark, Option.map_some]

theorem owner_act_started (hk : w.calls id = some k)
    (hmark : w.mark? id now event = some .started) :
    (w.step (.act id now event)).owner
      = Function.update w.owner (w.next k.plan.backend) (some id) := by
  simp only [step, hk, hmark]

theorem owner_act (hmark : w.mark? id now event ≠ some .started) :
    (w.step (.act id now event)).owner = w.owner := by
  simp only [step]
  split
  · next hstarted => exact absurd hstarted hmark
  · rfl

/-- What one call does at the breakers, on the traffic that it finds. -/
theorem acted_of_calls (h : w.Sound) (hk : w.calls id = some k) (now : Nat)
    (event : CallEvent α) :
    Call.Acted k.plan k.call (w.found now event) (w.mark? id now event)
      (k.call.act k.plan (w.found now event)).1 (k.call.step k.plan (w.found now event)) := by
  rw [mark?_of_calls hk]
  exact Call.acted (h.caller hk).coherent _

/-! #### Every turn keeps the tickets in order -/

namespace Sound

/-- The tickets of calls have been asked for. -/
theorem number_lt (h : w.Sound) (hk : w.calls id = some k) {x : Ticket} (hx : x ∈ k.tickets) :
    x.number < w.traffic.asked x.backend :=
  h.issued (((h.caller hk).owner_iff x).mpr hx)

theorem next_not_mem (h : w.Sound) (hk : w.calls id = some k) (backend : String) :
    w.next backend ∉ k.tickets := fun hx => Nat.lt_irrefl _ (h.number_lt hk hx)

/-- A turn leaves the permit of a call alone unless it uses it. -/
theorem permits_step (h : w.Sound) (t : CallersTurn α) (hk : w.calls id = some k) {x : Ticket}
    (hx : x ∈ k.tickets) (huses : ∀ e, w.deed? t = some e → e.uses ≠ some x) :
    (w.step t).traffic.permits x = w.traffic.permits x := by
  rcases hdeed : w.deed? t with - | e
  · show (w.traffic.run (w.deed? t).toList).permits x = w.traffic.permits x
    rw [hdeed]
    rfl
  · rw [traffic_step hdeed]
    exact Traffic.permits_step_of_ne (h.number_lt hk hx) (huses e hdeed)

/-- What has been asked for stays so. -/
theorem lt_asked_step (h : w.Sound) (t : CallersTurn α) {x : Ticket} (hx : w.owner x = some id) :
    x.number < (w.step t).traffic.asked x.backend := by
  rcases hdeed : w.deed? t with - | e
  · show x.number < (w.traffic.run (w.deed? t).toList).asked x.backend
    rw [hdeed]
    exact h.issued hx
  · rw [traffic_step hdeed]
    exact Nat.lt_of_lt_of_le (h.issued hx) (Traffic.asked_le_step ..)

/-- A turn of one call, which leaves the tickets of all others alone. -/
theorem of_caller (h : w.Sound) {k' : Caller α}
    (hcalls : w'.calls = Function.update w.calls id (some k'))
    (hk' : k'.Sound w'.traffic w'.owner id)
    (hothers : ∀ {j k}, j ≠ id → w.calls j = some k → ∀ x ∈ k.tickets,
      w'.traffic.permits x = w.traffic.permits x)
    (howner : ∀ {j}, j ≠ id → ∀ x, w'.owner x = some j ↔ w.owner x = some j)
    (hissued : ∀ {x j}, w'.owner x = some j → x.number < w'.traffic.asked x.backend) :
    w'.Sound where
  caller {j k} hk := by
    rw [hcalls] at hk
    by_cases hj : j = id
    · subst hj
      rw [Function.update_self] at hk
      cases hk
      exact hk'
    · rw [Function.update_of_ne hj] at hk
      exact (h.caller hk).frame (hothers hj hk) (howner hj)
  absent {j} hj x := by
    rw [hcalls] at hj
    by_cases hne : j = id
    · subst hne
      rw [Function.update_self] at hj
      cases hj
    · rw [Function.update_of_ne hne] at hj
      exact fun hx => h.absent hj x ((howner hne x).mp hx)
  issued := hissued

/-- A turn of one call that gives it no new ticket. -/
theorem of_caller_of_owner (h : w.Sound) {t : CallersTurn α} {k' : Caller α}
    (hcalls : (w.step t).calls = Function.update w.calls id (some k'))
    (howner : (w.step t).owner = w.owner) (hk' : k'.Sound (w.step t).traffic w.owner id)
    (hothers : ∀ {j k}, j ≠ id → w.calls j = some k → ∀ x ∈ k.tickets,
      ∀ e, w.deed? t = some e → e.uses ≠ some x) : (w.step t).Sound := by
  refine h.of_caller hcalls (howner.symm ▸ hk') ?_ ?_ ?_
  · intro j k hj hk x hx
    exact h.permits_step t hk hx (hothers hj hk x hx)
  · intro j _ x
    rw [howner]
  · intro x j hx
    exact h.lt_asked_step t (howner ▸ hx)

/-- A turn of a call that neither starts nor ends an attempt. -/
theorem act_kept (h : w.Sound) (hk : w.calls id = some k)
    (hmark : w.mark? id now event = none ∨ w.mark? id now event = some .refused) :
    (w.step (.act id now event)).Sound := by
  have hacted := acted_of_calls h hk now event
  have hdeed := deed?_act hk now event
  have hkept : k.call.Kept (k.call.step k.plan (w.found now event)) := by
    rcases hmark with hmark | hmark
    · rw [hmark] at hacted
      exact hacted.unmarked.2
    · rw [hmark] at hacted
      exact hacted.refusedWith.2.2
  have hcalls : (w.step (.act id now event)).calls = Function.update w.calls id
      (some { k with call := k.call.step k.plan (w.found now event) }) := by
    rcases hmark with hmark | hmark
    · exact calls_act hk hmark
    · exact calls_act hk hmark
  have howner : (w.step (.act id now event)).owner = w.owner := by
    refine owner_act ?_
    rcases hmark with hmark | hmark <;> simp [hmark]
  -- the most that it does is to ask
  have huses : ∀ x e, w.deed? (.act id now event) = some e → e.uses ≠ some x := by
    intro x e he
    rw [hdeed] at he
    rcases hmark with hmark | hmark
    · rw [hmark] at he
      cases he
    · rw [hmark] at he
      cases he
      exact nofun
  refine h.of_caller_of_owner hcalls howner ?_ fun _ _ x _ => huses x
  have hframed : k.Sound (w.step (.act id now event)).traffic w.owner id :=
    (h.caller hk).frame (fun x hx => h.permits_step _ hk hx (huses x)) fun x => Iff.rfl
  exact hframed.kept ((h.caller hk).coherent.step _) hkept

theorem act_started (h : w.Sound) (hk : w.calls id = some k)
    (hmark : w.mark? id now event = some .started) : (w.step (.act id now event)).Sound := by
  have hacted := acted_of_calls h hk now event
  rw [hmark] at hacted
  obtain ⟨hready, -, a, ha, hpermit, hattempts⟩ := hacted.startedWith
  have hdeed : w.deed? (.act id now event) = some (.acquire k.plan.backend now) := by
    rw [deed?_act hk, hmark]
    rfl
  have hpermits : ∀ {j k'}, w.calls j = some k' → ∀ x ∈ k'.tickets,
      (w.step (.act id now event)).traffic.permits x = w.traffic.permits x := by
    intro j k' hk' x hx
    refine h.permits_step _ hk' hx fun e he => ?_
    cases hdeed.symm.trans he
    exact nofun
  -- the new ticket is nobody's before
  have hfresh : ∀ j, w.owner (w.next k.plan.backend) ≠ some j :=
    fun j hj => Nat.lt_irrefl _ (h.issued hj)
  have howns : ∀ x j, (w.step (.act id now event)).owner x = some j ↔
      if x = w.next k.plan.backend then j = id else w.owner x = some j := by
    intro x j
    rw [owner_act_started hk hmark]
    by_cases hx : x = w.next k.plan.backend
    · subst hx
      rw [Function.update_self, if_pos rfl, Option.some.injEq, eq_comm]
    · rw [Function.update_of_ne hx, if_neg hx]
  refine h.of_caller (calls_act hk hmark) ?_ (fun _ => hpermits) ?_ ?_
  · refine (h.caller hk).started ((h.caller hk).coherent.step _) hready ha hattempts rfl
      (h.next_not_mem hk _) ?_ (hpermits hk) fun x => ?_
    · rw [traffic_step hdeed, ← hpermit]
      exact Function.update_self ..
    · rw [howns]
      by_cases hx : x = w.next k.plan.backend
      · simp [hx]
      · simp [hx]
  · intro j hj x
    rw [howns]
    by_cases hx : x = w.next k.plan.backend
    · subst hx
      rw [if_pos rfl]
      exact iff_of_false hj (hfresh j)
    · rw [if_neg hx]
  · intro x j hx
    rw [howns] at hx
    by_cases hne : x = w.next k.plan.backend
    · subst hne
      rw [traffic_step hdeed]
      show w.traffic.asked k.plan.backend
        < Function.update w.traffic.asked k.plan.backend (w.traffic.asked k.plan.backend + 1)
            k.plan.backend
      rw [Function.update_self]
      exact Nat.lt_succ_self _
    · rw [if_neg hne] at hx
      exact h.lt_asked_step _ hx

theorem act_ended (h : w.Sound) (hk : w.calls id = some k) {e : AttemptEnd α}
    (hmark : w.mark? id now event = some (.ended e)) : (w.step (.act id now event)).Sound := by
  have hacted := acted_of_calls h hk now event
  rw [hmark] at hacted
  have hended := hacted.endedWith
  obtain ⟨a, ha, -⟩ := hended.exists_running
  obtain ⟨ticket, hticket, hout⟩ := (h.caller hk).running ha
  have hdeed : w.deed? (.act id now event) = some (e.use.turn ticket now) := by
    rw [deed?_act hk, hmark, Option.bind_some, Caller.deed?, hticket]
    rfl
  have huses : ∀ {x}, x ≠ ticket → ∀ d, w.deed? (.act id now event) = some d →
      d.uses ≠ some x := by
    intro x hne d hd
    cases hdeed.symm.trans hd
    rw [PermitUse.turn_uses]
    exact fun heq => hne (Option.some.inj heq).symm
  have hcalls := calls_act hk hmark
  rw [Caller.note, hticket] at hcalls
  refine h.of_caller_of_owner hcalls (owner_act (by simp [hmark])) ?_ ?_
  · refine (h.caller hk).ended ((h.caller hk).coherent.step _) hticket
      (by simp [Call.succeeded, ha]) hended.not_running hended.attempts_eq hended.succeeded_iff ?_
      fun x hx hne => h.permits_step _ hk hx (huses hne)
    rw [traffic_step hdeed]
    exact (Traffic.step_turn hout e.use).2
  · -- the ticket is nobody else's
    intro j k' hj hk' x hx
    refine huses ?_
    rintro rfl
    have htheirs : w.owner x = some j := ((h.caller hk').owner_iff x).mpr hx
    have hmine : w.owner x = some id :=
      ((h.caller hk).owner_iff x).mpr (by simp [Caller.tickets, hticket])
    exact hj (Option.some.inj (htheirs.symm.trans hmine))

theorem act (h : w.Sound) (id now : Nat) (event : CallEvent α) :
    (w.step (.act id now event)).Sound := by
  rcases hk : w.calls id with - | k
  · -- nobody has made this call
    have hstep : w.step (.act id now event) = w := by
      have hcalls : Function.update w.calls id none = w.calls := by
        rw [← hk, Function.update_eq_self]
      simp only [step, deed?, hk, Option.bind_none, Option.map_none, Option.toList_none, hcalls,
        Traffic.run_nil]
    rw [hstep]
    exact h
  · rcases hmark : w.mark? id now event with - | - | e | -
    · exact h.act_kept hk (.inl hmark)
    · exact h.act_started hk hmark
    · exact h.act_ended hk hmark
    · exact h.act_kept hk (.inr hmark)

theorem begin (h : w.Sound) (id : Nat) (plan : CallPlan) (now : Nat) :
    (w.step (.begin id plan now)).Sound := by
  rcases hk : w.calls id with - | k
  · have hcalls : (w.step (.begin id plan now)).calls
        = Function.update w.calls id (some { plan, call := Call.start plan now }) := by
      simp only [step, hk]
    refine h.of_caller_of_owner hcalls rfl ?_ fun _ _ _ _ _ => nofun
    -- a new call has no tickets
    have hattempts : (Call.start plan now : Call α).attempts = 0 := Call.attempts_start plan now
    have hidle : (∀ a, (Call.start plan now : Call α).stage ≠ .running a) ∧
        (Call.start plan now : Call α).succeeded = false := by
      unfold Call.succeeded
      rcases Call.stage_start (α := α) plan now with hs | hs
      · rw [hs]
        exact ⟨fun _ => nofun, rfl⟩
      · rw [hs]
        exact ⟨fun _ => nofun, rfl⟩
    constructor
    case coherent => exact Call.coherent_start plan now
    case running => exact fun ha => absurd ha (hidle.1 _)
    case resting => exact fun _ => rfl
    case spent => exact fun _ => nofun
    case backend_eq => exact fun _ => nofun
    case nodup => exact List.nodup_nil
    case owner_iff => exact fun x => iff_of_false (h.absent hk x) nofun
    case attempts_eq => exact hattempts
    case successes_eq =>
      rw [hidle.2]
      rfl
  · have hstep : w.step (.begin id plan now) = w := by
      simp only [step, deed?, hk, Option.toList_none, Traffic.run_nil]
    rw [hstep]
    exact h

theorem other (h : w.Sound) (e : BreakerTurn) : (w.step (.other e)).Sound := by
  -- the permit of a call is not used
  have huses : ∀ {x j}, w.owner x = some j → ∀ d, w.deed? (.other e) = some d →
      d.uses ≠ some x := by
    intro x j hx d hd he
    rw [deed?] at hd
    split at hd
    · cases hd
    · next hown =>
      obtain rfl := Option.some.inj hd
      rw [he, Option.bind_some, hx] at hown
      exact hown rfl
  refine ⟨fun {j k} hk => ?_, h.absent, fun {x j} hx => h.lt_asked_step _ hx⟩
  refine (h.caller hk).frame (fun x hx => ?_) fun x => Iff.rfl
  exact h.permits_step _ hk hx (huses (((h.caller hk).owner_iff x).mpr hx))

/-- **Every turn keeps the tickets in order.** -/
theorem step (h : w.Sound) (t : CallersTurn α) : (w.step t).Sound := by
  cases t with
  | begin id plan now => exact h.begin id plan now
  | act id now event => exact h.act id now event
  | other e => exact h.other e

theorem run (h : w.Sound) (ts : List (CallersTurn α)) : (w.run ts).Sound := by
  induction ts generalizing w with
  | nil => exact h
  | cons t ts ih => exact ih (h.step t)

end Sound

theorem sound_start (defaults : BreakerSettings) (overrides : Table BreakerSettings) :
    (start defaults overrides : Callers α).Sound where
  caller h := nomatch h
  absent _ _ := nofun
  issued h := nomatch h

end Callers

end Dispatch
