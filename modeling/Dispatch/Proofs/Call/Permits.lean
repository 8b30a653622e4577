/-
Dispatch/Proofs/Call/Permits.lean

What calls do with permits.

Every attempt of a call has a permit of its own, and the end of the attempt uses it up: the ways
out of a call are many, but each of them that leaves a running attempt is the end of that attempt.
So there is one use for each permit, and which use it is depends on nothing but how the attempt
ended.  A call that is over holds nothing, and the slot of a trial that is still taken is somebody
else's.

Traffic is made of what calls are seen to do.  That it is also what they do is said by
`Callers.Sound.breakers_step`: the breakers come out of a turn as the call itself leaves them.
-/
import Dispatch.Proofs.Breaker.Availability
import Dispatch.Proofs.Call.Callers

namespace Dispatch

namespace Callers

variable {α : Type} {w : Callers α} {id now : Nat} {event : CallEvent α} {k : Caller α}

/-- A call that is over has no ticket left. -/
theorem Sound.ticket_of_over (h : w.Sound) (hk : w.calls id = some k)
    (hover : k.call.isOver = true) : k.ticket = none := by
  refine (h.caller hk).resting fun a ha => ?_
  simp [Call.isOver, ha] at hover

/-- The tickets of a call that is over are those of its attempts, and no permit of them is out. -/
theorem Sound.used_of_over (h : w.Sound) (hk : w.calls id = some k)
    (hover : k.call.isOver = true) {x : Ticket} (hx : w.owner x = some id) :
    (∃ e, (x, e) ∈ k.ledger) ∧ w.traffic.permits x = none := by
  have hmem : x ∈ k.tickets := ((h.caller hk).owner_iff x).mp hx
  rw [Caller.tickets, h.ticket_of_over hk hover, Option.toList_none, List.append_nil] at hmem
  obtain ⟨⟨y, e⟩, hy, rfl⟩ := List.mem_map.mp hmem
  exact ⟨⟨e, hy⟩, (h.caller hk).spent (y, e) hy⟩

/-- What a call does to the breakers in a turn is what its mark says.  The end of an attempt uses up
its permit, which was out until then. -/
theorem Sound.deed (h : w.Sound) (hk : w.calls id = some k) (now : Nat) (event : CallEvent α) :
    match w.mark? id now event with
    | none => (k.call.act k.plan (w.found now event)).1 = w.traffic.breakers
    | some .started | some .refused =>
      (k.call.act k.plan (w.found now event)).1 = (w.traffic.breakers.acquire k.plan.backend now).1
    | some (.ended e) => ∃ x p k', k.ticket = some x ∧ w.traffic.permits x = some p ∧
      (k.call.act k.plan (w.found now event)).1 = e.use.apply w.traffic.breakers p now ∧
      (w.step (.act id now event)).calls id = some k' ∧ k'.ledger = k.ledger ++ [(x, e)] := by
  have hacted := acted_of_calls h hk now event
  rcases hmark : w.mark? id now event with - | - | e | -
  · rw [hmark] at hacted
    exact hacted.unmarked.1
  · rw [hmark] at hacted
    exact hacted.startedWith.2.1
  · rw [hmark] at hacted
    obtain ⟨a, ha, hb⟩ := hacted.endedWith.exists_running
    obtain ⟨x, hticket, hout⟩ := (h.caller hk).running ha
    have hcalls := congrFun (calls_act hk hmark) id
    rw [Function.update_self, Caller.note, hticket] at hcalls
    exact ⟨x, a.permit, _, hticket, hout, hb, hcalls, rfl⟩
  · rw [hmark] at hacted
    exact hacted.refusedWith.1

/-- **The breakers come out of a turn as the call leaves them.** -/
theorem Sound.breakers_step (h : w.Sound) (hk : w.calls id = some k) (now : Nat)
    (event : CallEvent α) :
    (w.step (.act id now event)).traffic.breakers
      = (k.call.act k.plan (w.found now event)).1 := by
  have hdeed := h.deed hk now event
  have htraffic : (w.step (.act id now event)).traffic
      = w.traffic.run ((w.mark? id now event).bind (k.deed? now)).toList := by
    rw [← deed?_act hk]
    rfl
  rw [htraffic]
  rcases hmark : w.mark? id now event with - | - | e | -
  · rw [hmark] at hdeed
    exact hdeed.symm
  · rw [hmark] at hdeed
    exact hdeed.symm
  · rw [hmark] at hdeed
    obtain ⟨x, p, -, hticket, hout, hb, -⟩ := hdeed
    rw [hb, Option.bind_some, Caller.deed?, hticket]
    exact (Traffic.step_turn hout e.use).1
  · rw [hmark] at hdeed
    exact hdeed.symm

/-- **Every permit of a call is used up once, as its attempt ended.**  Let calls go on at the same
time, with others at the breakers, in whatever order and at whatever times, and let any of them be
abandoned anywhere.  A call has one permit for each attempt that it started, and no other.  Those of
attempts that are over are used up.  A turn of the call asks the breakers when an attempt is started
or refused; the turn that ends an attempt finds its permit out and uses it up as a success for a
value, as a failure for a failure other than an invalid request and for a time that is over, and as
nothing for the rest; and no other turn of the call touches the breakers.  One permit was a success
if a value has come back, and none otherwise.  When the call is over, no permit of its own is out,
and a slot of a trial that is taken belongs to the permit of somebody else. -/
theorem permits_used_once (defaults : BreakerSettings) (overrides : Table BreakerSettings)
    (turns : List (CallersTurn α)) (id : Nat) (k : Caller α)
    (hk : ((start defaults overrides).run turns).calls id = some k) :
    let w := (start defaults overrides).run turns
    (k.tickets.Nodup ∧ k.tickets.length = k.call.attempts ∧
      ∀ x, w.owner x = some id ↔ x ∈ k.tickets) ∧
    (∀ x e, (x, e) ∈ k.ledger → w.traffic.permits x = none) ∧
    (∀ now event, let b := (k.call.act k.plan (w.found now event)).1
      (w.step (.act id now event)).traffic.breakers = b ∧
      match w.mark? id now event with
      | none => b = w.traffic.breakers
      | some .started | some .refused => b = (w.traffic.breakers.acquire k.plan.backend now).1
      | some (.ended e) => ∃ x p k', k.ticket = some x ∧ w.traffic.permits x = some p ∧
        b = e.use.apply w.traffic.breakers p now ∧
        (w.step (.act id now event)).calls id = some k' ∧ k'.ledger = k.ledger ++ [(x, e)]) ∧
    k.ledger.countP (fun x => x.2.use = .succeeded)
      = (if k.call.succeeded then 1 else 0) ∧
    (k.call.isOver = true →
      (∀ x, w.owner x = some id → (∃ e, (x, e) ∈ k.ledger) ∧ w.traffic.permits x = none) ∧
      ∀ backend, (w.traffic.breakers.circuit backend).phase = .halfOpen true →
        ∃ x p, x.backend = backend ∧ w.traffic.permits x = some p ∧ p.trial = true ∧
          p.generation = (w.traffic.breakers.circuit backend).generation ∧
          w.owner x ≠ some id) := by
  intro w
  have h : w.Sound := (sound_start defaults overrides).run turns
  have hcaller := h.caller hk
  refine ⟨⟨hcaller.nodup, hcaller.attempts_eq.symm, hcaller.owner_iff⟩,
    fun x e hx => hcaller.spent (x, e) hx, fun now event => ?_, hcaller.successes_eq,
    fun hover => ⟨fun x => h.used_of_over hk hover, fun backend hph => ?_⟩⟩
  · exact ⟨h.breakers_step hk now event, h.deed hk now event⟩
  · -- whoever has the slot has a permit that is out, and this call has none
    have hattended : (w.traffic.lane backend).Attended := by
      show (((start defaults overrides).run turns).traffic.lane backend).Attended
      rw [traffic_run]
      exact Traffic.attended_lane _ backend
    obtain ⟨n, p, hp, ht, hg⟩ := hattended.holder hph
    refine ⟨⟨backend, n⟩, p, rfl, hp, ht, hg, fun hmine => ?_⟩
    exact absurd (hp.symm.trans (h.used_of_over hk hover hmine).2) nofun

/-- A call whose attempt fails opens the circuit, and another one is abandoned during the trial. -/
theorem permits_of_abandoned_trial :
    let settings : BreakerSettings := { failureThreshold := 1, cooldown := .zero }
    let plan : CallPlan := {
      backend := "b", timeout := .ofSecs 30, factor := fun _ => ⟨1, 0⟩
      retry := { maxAttempts := 1 } }
    let turns : List (CallersTurn String) := [
      .begin 0 plan 0, .act 0 0 .attempt,
      .act 0 0 (.complete (.error { category := .transient, message := "m" })),
      .begin 1 plan 0, .act 1 0 .attempt, .act 1 0 .cancel]
    let w := (start settings .empty).run turns
    ∃ k, w.calls 1 = some k ∧ k.call.isOver = true ∧ k.tickets = [⟨"b", 1⟩] ∧
      w.traffic.permits ⟨"b", 1⟩ = none ∧ w.owner ⟨"b", 1⟩ = some 1 ∧
      (w.traffic.breakers.circuit "b").phase = .halfOpen false := by
  intro settings plan turns w
  obtain ⟨k, hk⟩ : ∃ k, w.calls 1 = some k := Option.isSome_iff_exists.mp (by decide)
  obtain ⟨⟨-, -, howner⟩, -, -, -, hused⟩ := permits_used_once settings .empty turns 1 k hk
  have hover : ((w.calls 1).map fun k => k.call.isOver) = some true := by decide
  have htickets : ((w.calls 1).map fun k => k.tickets) = some [⟨"b", 1⟩] := by decide
  rw [hk, Option.map_some, Option.some.injEq] at hover htickets
  have hmine : w.owner ⟨"b", 1⟩ = some 1 := (howner _).mpr (by simp [htickets])
  exact ⟨k, hk, hover, htickets, ((hused hover).1 _ hmine).2, hmine, by decide⟩

end Callers

end Dispatch
