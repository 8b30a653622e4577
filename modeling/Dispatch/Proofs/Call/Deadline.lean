/-
Dispatch/Proofs/Call/Deadline.lean

A call does not outlive its deadline.

A call that nobody abandons spends time in two places only.  An attempt takes until its outcome is
there, and at most until its timer fires; a delay takes until its timer fires.  What else the call
does takes no time.  `Due` says when the next turn of a call comes, and a *prompt* run is one whose
turns come when they are due.

Timers fire on a grid.  If the deadline is on the grid, then a time that is not after the deadline
stays so when it is rounded to the grid; hence no timer that a call sets fires after the deadline
(`InTime`).  How many turns there can be is counted beside that: three for each attempt, since an
attempt is started, ends, and is followed by a delay (`Paced`).
-/
import Dispatch.Proofs.Call.Turn

namespace Dispatch

namespace Call

variable {α : Type} {plan : CallPlan} {c : Call α} {t : CallTurn α} {turns : List (CallTurn α)}
  {last n : Nat}

/-! ### Prompt runs -/

/-- The next turn of a call comes now, if the last one came at a time. -/
inductive Due (last : Nat) (c : Call α) (t : CallTurn α) : Prop
  | attempt (hs : c.stage = .ready) (he : t.event = .attempt) (hnow : t.now = last)
  | complete {a : RunningAttempt} {outcome : Except Failure α} (hs : c.stage = .running a)
      (he : t.event = .complete outcome) (hfrom : last ≤ t.now) (huntil : t.now ≤ a.expiresAt)
  | expire {a : RunningAttempt} (hs : c.stage = .running a) (he : t.event = .expire)
      (hnow : t.now = a.expiresAt)
  | wake {w : Nat} (hs : c.stage = .waiting w) (he : t.event = .wake) (hnow : t.now = w)

/-- Every turn comes when it is due. -/
def Prompt (plan : CallPlan) (last : Nat) (c : Call α) : List (CallTurn α) → Prop
  | [] => True
  | t :: turns => Due last c t ∧ Prompt plan t.now (c.step plan t) turns

theorem Due.takes (h : Due last c t) : c.takes t.event = true := by
  cases h with
  | attempt hs he hnow => simp [Call.takes, hs, he]
  | complete hs he hfrom huntil => simp [Call.takes, hs, he]
  | expire hs he hnow => simp [Call.takes, hs, he]
  | wake hs he hnow => simp [Call.takes, hs, he]

theorem Due.ne_cancel (h : Due last c t) : t.event ≠ .cancel := by
  cases h with
  | attempt hs he hnow => simp [he]
  | complete hs he hfrom huntil => simp [he]
  | expire hs he hnow => simp [he]
  | wake hs he hnow => simp [he]

/-- A call that is not over has a next turn, whatever its operation does. -/
theorem exists_due (h : c.isOver = false) (last : Nat) : ∃ t : CallTurn α, Due last c t := by
  unfold isOver at h
  split at h
  · next hs => exact ⟨⟨last, {}, .attempt⟩, .attempt hs rfl rfl⟩
  · next a hs => exact ⟨⟨a.expiresAt, {}, .expire⟩, .expire hs rfl rfl⟩
  · next w hs => exact ⟨⟨w, {}, .wake⟩, .wake hs rfl rfl⟩
  all_goals cases h

/-- A prompt run ends with the call, or can be continued. -/
theorem Prompt.over_or_more (h : Prompt plan last c turns) :
    (c.run plan turns).isOver = true ∨ ∃ t, Prompt plan last c (turns ++ [t]) := by
  induction turns generalizing last c with
  | nil =>
    cases hover : c.isOver with
    | true => exact .inl hover
    | false =>
      obtain ⟨t, ht⟩ := exists_due hover last
      exact .inr ⟨t, ht, trivial⟩
  | cons t turns ih =>
    rcases ih h.2 with hover | ⟨t', hmore⟩
    · exact .inl hover
    · exact .inr ⟨t', h.1, hmore⟩

/-! ### No timer fires after the deadline -/

/-- It is not after the deadline, and no timer that runs fires after it. -/
structure InTime (last : Nat) (c : Call α) : Prop where
  last_le : last ≤ c.deadline
  running : ∀ {a}, c.stage = .running a → a.expiresAt ≤ c.deadline
  waiting : ∀ {w}, c.stage = .waiting w → w ≤ c.deadline

theorem InTime.now_le (h : InTime last c) (hdue : Due last c t) : t.now ≤ c.deadline := by
  cases hdue with
  | attempt hs he hnow => exact hnow ▸ h.last_le
  | complete hs he hfrom huntil => exact Nat.le_trans huntil (h.running hs)
  | expire hs he hnow => exact hnow ▸ h.running hs
  | wake hs he hnow => exact hnow ▸ h.waiting hs

/-- The time of an attempt is over at the deadline, if not before. -/
theorem expiresAt_le {a : RunningAttempt} {deadline : Nat} (h : a.Fits plan deadline)
    (hb : deadline < Clock.bound) (hgrid : Clock.grid ∣ deadline) : a.expiresAt ≤ deadline := by
  refine Clock.onGrid_le_of_dvd ?_ hgrid
  have hleft : a.limit.nanos ≤ deadline - a.since := h.nanos_limit hb ▸ Nat.min_le_right _ _
  have hsince : a.since < deadline := h.inTime
  omega

theorem InTime.step (h : InTime last c) (hc : c.Coherent plan) (hgrid : Clock.grid ∣ c.deadline)
    (hdue : Due last c t) : InTime t.now (c.step plan t) := by
  have hacted : Acted plan c t (c.mark? plan t) (c.act plan t).1 (c.step plan t) := acted hc t
  have hdeadline : (c.step plan t).deadline = c.deadline := deadline_step hc t
  have hopen : c.isOver = false := by
    rw [← Bool.not_eq_true]
    intro hover
    exact absurd hdue.takes (by simp [not_takes_of_over hover])
  constructor
  case last_le =>
    rw [hdeadline]
    exact h.now_le hdue
  case running =>
    intro a ha
    rw [hdeadline]
    rcases hacted.running ha with hran | ⟨hfits, -⟩
    · exact h.running hran
    · exact expiresAt_le hfits (hc.bounded hopen) hgrid
  case waiting =>
    intro w hw
    rw [hdeadline]
    rcases hacted.waiting hw with hwaited | ⟨v, hv, rfl⟩
    · exact h.waiting hwaited
    · exact Clock.onGrid_le_of_dvd (Nat.le_of_lt hv) hgrid

/-- Wherever a prompt run is split, the rest is prompt, and no timer fires after the deadline. -/
theorem Prompt.inTime {u v : List (CallTurn α)} (h : Prompt plan last c (u ++ v))
    (hin : InTime last c) (hc : c.Coherent plan) (hgrid : Clock.grid ∣ c.deadline) :
    ∃ since, InTime since (c.run plan u) ∧ Prompt plan since (c.run plan u) v := by
  induction u generalizing last c with
  | nil => exact ⟨last, hin, h⟩
  | cons t u ih =>
    have hstep : Clock.grid ∣ (c.step plan t).deadline := by rwa [deadline_step hc t]
    exact ih h.2 (hin.step hc hgrid h.1) (hc.step t) hstep

/-! ### How many turns there are -/

/-- So many turns are no more than the attempts account for. -/
structure Paced (plan : CallPlan) (n : Nat) (c : Call α) : Prop where
  attempts_le : c.attempts ≤ plan.retry.maxAttempts
  turns_lt : n < 3 * plan.retry.maxAttempts
  ready : c.stage = .ready → n ≤ 3 * c.attempts ∧ c.attempts < plan.retry.maxAttempts
  running : ∀ {a}, c.stage = .running a → n + 2 ≤ 3 * c.attempts
  waiting : ∀ {w}, c.stage = .waiting w →
    n + 1 ≤ 3 * c.attempts ∧ c.attempts < plan.retry.maxAttempts

/-- One turn more, after which the call is over. -/
theorem Paced.of_over {c' : Call α} (hover : c'.isOver = true)
    (hle : c'.attempts ≤ plan.retry.maxAttempts) (hlt : n < 3 * plan.retry.maxAttempts) :
    Paced plan n c' where
  attempts_le := hle
  turns_lt := hlt
  ready hs := by simp [isOver, hs] at hover
  running hs := by simp [isOver, hs] at hover
  waiting hs := by simp [isOver, hs] at hover

/-- An attempt that ran has failed. -/
theorem Paced.sequel (h : Paced plan n c) {a : RunningAttempt} (hs : c.stage = .running a)
    {now : Nat} {f : Failure} {c' : Call α} (next : c.Sequel plan now f c') :
    Paced plan (n + 1) c' := by
  have hrun : n + 2 ≤ 3 * c.attempts := h.running hs
  have hle : c.attempts ≤ plan.retry.maxAttempts := h.attempts_le
  have hlt : n + 1 < 3 * plan.retry.maxAttempts := by omega
  cases next with
  | waits hf hmore hw hd =>
    constructor
    case attempts_le => exact hle
    case turns_lt => exact hlt
    case ready => exact nofun
    case running => exact nofun
    case waiting => exact fun _ => ⟨hrun, hmore⟩
  | final | exhausted | lost | late => exact .of_over rfl hle hlt

theorem Paced.step (h : Paced plan n c) (hc : c.Coherent plan)
    (htakes : c.takes t.event = true) : Paced plan (n + 1) (c.step plan t) := by
  have hacted : Acted plan c t (c.mark? plan t) (c.act plan t).1 (c.step plan t) := acted hc t
  have hle : c.attempts ≤ plan.retry.maxAttempts := h.attempts_le
  generalize c.mark? plan t = mark, (c.act plan t).1 = b, c.step plan t = c' at hacted ⊢
  -- a call that is ready has an attempt left, and with it three turns
  have hready : c.stage = .ready → n + 1 < 3 * plan.retry.maxAttempts := by
    intro hs
    have hn := h.ready hs
    omega
  have hrunning : ∀ {a}, c.stage = .running a → n + 1 < 3 * plan.retry.maxAttempts := by
    intro a hs
    have hn := h.running hs
    omega
  cases hacted with
  | idle hidle => cases htakes.symm.trans hidle
  | late hs he hd => exact .of_over rfl hle (hready hs)
  | refused hs he hd hb => exact .of_over rfl hle (hready hs)
  | started hs he hd hb hsince fits =>
    have hn := h.ready hs
    constructor
    case attempts_le => exact hn.2
    case turns_lt => exact hready hs
    case ready => exact nofun
    case running =>
      intro a _
      show n + 1 + 2 ≤ 3 * (c.attempts + 1)
      omega
    case waiting => exact nofun
  | produced hs he => exact .of_over rfl hle (hrunning hs)
  | failed hs he next => exact h.sequel hs next
  | timedOut hs he hlong next => exact h.sequel hs next
  | cutShort hs he hshort => exact .of_over rfl hle (hrunning hs)
  | woken hs he =>
    have hn := h.waiting hs
    constructor
    case attempts_le => exact hle
    case turns_lt => omega
    case ready => exact fun _ => hn
    case running => exact nofun
    case waiting => exact nofun
  | abandoned hs he => exact .of_over rfl hle (hrunning hs)
  | left hs he =>
    refine .of_over rfl hle ?_
    rcases hs with hs | ⟨w, hs⟩
    · exact hready hs
    · have hn := h.waiting hs
      omega

theorem paced_start (hmax : 0 < plan.retry.maxAttempts) (now : Nat) :
    Paced plan 0 (start plan now : Call α) := by
  have hattempts : (start plan now : Call α).attempts = 0 := attempts_start plan now
  have hle : (start plan now : Call α).attempts ≤ plan.retry.maxAttempts := by omega
  rcases stage_start (α := α) plan now with hs | hs
  · constructor
    case attempts_le => exact hle
    case turns_lt => omega
    case ready => exact fun _ => ⟨Nat.zero_le _, by omega⟩
    case running => exact fun ha => nomatch hs.symm.trans ha
    case waiting => exact fun hw => nomatch hs.symm.trans hw
  · exact .of_over (by simp [isOver, hs]) hle (by omega)

theorem Prompt.paced (h : Prompt plan last c turns) (hn : Paced plan n c)
    (hc : c.Coherent plan) : Paced plan (n + turns.length) (c.run plan turns) := by
  induction turns generalizing last c n with
  | nil => exact hn
  | cons t turns ih =>
    rw [List.length_cons, Nat.add_comm turns.length, ← Nat.add_assoc]
    exact ih h.2 (hn.step hc h.1.takes) (hc.step t)

/-! ### The end of a prompt run -/

/-- Nobody abandons a call in a prompt run. -/
theorem Prompt.not_cancelled (h : Prompt plan last c turns) (hc : c.Coherent plan)
    (hs : c.stage ≠ .cancelled) : (c.run plan turns).stage ≠ .cancelled := by
  induction turns generalizing last c with
  | nil => exact hs
  | cons t turns ih =>
    have hacted : Acted plan c t (c.mark? plan t) (c.act plan t).1 (c.step plan t) := acted hc t
    have hne : t.event ≠ .cancel := h.1.ne_cancel
    refine ih h.2 (hc.step t) ?_
    generalize c.mark? plan t = mark, (c.act plan t).1 = b, c.step plan t = c' at hacted ⊢
    have hsequel : ∀ {f}, c.Sequel plan t.now f c' → c'.stage ≠ .cancelled := by
      intro f next
      cases next <;> exact nofun
    cases hacted with
    | idle hidle => exact hs
    | failed hs he next => exact hsequel next
    | timedOut hs he hlong next => exact hsequel next
    | abandoned hs he => exact absurd he hne
    | left hs he => exact absurd he hne
    | late | refused | started | produced | cutShort | woken => exact nofun

/-- A call that is over, and that nobody has abandoned, has returned unless it has crashed. -/
theorem finished_iff (hover : c.isOver = true) (hs : c.stage ≠ .cancelled) :
    (∃ result, c.stage = .finished result) ↔ ¬ ∃ fault, c.stage = .crashed fault := by
  unfold isOver at hover
  rcases hstage : c.stage with - | a | w | result | - | fault
  · simp [hstage] at hover
  · simp [hstage] at hover
  · simp [hstage] at hover
  · simp
  · exact absurd hstage hs
  · simp

/-- In a prompt run of a new call, wherever it is split, no timer fires after the deadline; and if
the deadline cannot be represented, there is no turn at all. -/
theorem Prompt.of_start {now : Nat} {u v : List (CallTurn α)}
    (h : Prompt plan now (start plan now) (u ++ v))
    (hgrid : Clock.grid ∣ now + plan.retry.deadline.nanos) :
    (∃ since, InTime since ((start plan now).run plan u) ∧
        ((start plan now).run plan u).deadline = now + plan.retry.deadline.nanos ∧
        Prompt plan since ((start plan now).run plan u) v) ∨
      (u = [] ∧ v = [] ∧ (start plan now : Call α).stage = .crashed .deadline) := by
  have hc : (start plan now : Call α).Coherent plan := coherent_start plan now
  rcases start_cases (α := α) plan now with ⟨delays, -, hstart⟩ | ⟨delays, -, hstart⟩
  · have hdeadline : (start plan now : Call α).deadline = now + plan.retry.deadline.nanos := by
      rw [hstart]
    have hin : InTime now (start plan now : Call α) := by
      rw [hstart]
      exact ⟨Nat.le_add_right _ _, nofun, nofun⟩
    obtain ⟨since, hsince, hrest⟩ := h.inTime hin hc (hdeadline ▸ hgrid)
    exact .inl ⟨since, hsince, (deadline_run hc u).trans hdeadline, hrest⟩
  · have hstage : (start plan now : Call α).stage = .crashed .deadline := by rw [hstart]
    refine .inr ?_
    rcases huv : u ++ v with - | ⟨t, rest⟩
    · obtain ⟨rfl, rfl⟩ := List.append_eq_nil_iff.mp huv
      exact ⟨rfl, rfl, hstage⟩
    · rw [huv] at h
      have htakes := h.1.takes
      simp [takes, hstage] at htakes

/-- **A call does not outlive its deadline.**  Let its deadline be on the grid of the timers.  In a
prompt run, whatever its operation does and however long that takes, whatever the breakers answer,
and whatever the factors of its delays are: no turn comes after the deadline, a turn after which a
new attempt runs comes before it, and no delay ends after it.  If one attempt is allowed at least,
there are no more attempts than allowed, and fewer than three turns for each of them.  Until the
call is over another turn is due.  When it is over, it has returned exactly if every time that it
needed could be represented: its deadline, and the ends of its delays. -/
theorem returns_by_deadline_iff (plan : CallPlan) (now : Nat) (turns : List (CallTurn α))
    (hgrid : Clock.grid ∣ now + plan.retry.deadline.nanos)
    (hprompt : Prompt plan now (start plan now) turns) :
    let c := (start plan now).run plan turns
    let deadline := now + plan.retry.deadline.nanos
    (∀ t ∈ turns, t.now ≤ deadline) ∧
    (∀ u t v a, turns = u ++ t :: v →
      ((start plan now).run plan (u ++ [t])).stage = .running a →
      ((start plan now).run plan u).stage ≠ .running a → t.now < deadline) ∧
    (∀ u v w, turns = u ++ v → ((start plan now).run plan u).stage = .waiting w →
      w ≤ deadline) ∧
    (0 < plan.retry.maxAttempts →
      c.attempts ≤ plan.retry.maxAttempts ∧ turns.length < 3 * plan.retry.maxAttempts) ∧
    (c.isOver = true ∨ ∃ t, Prompt plan now (start plan now) (turns ++ [t])) ∧
    (c.isOver = true → ((∃ result, c.stage = .finished result) ↔
      ¬ (Clock.after? now plan.retry.deadline = none ∨ Stranded plan (start plan now) turns))) := by
  intro c deadline
  have hc : (start plan now : Call α).Coherent plan := coherent_start plan now
  have hleft : c.stage ≠ .cancelled := by
    refine hprompt.not_cancelled hc ?_
    rcases stage_start (α := α) plan now with hs | hs
    · rw [hs]
      exact nofun
    · rw [hs]
      exact nofun
  refine ⟨fun t ht => ?_, ?_, ?_, fun hmax => ?_, hprompt.over_or_more, fun hover => ?_⟩
  · obtain ⟨u, v, rfl⟩ := List.append_of_mem ht
    rcases hprompt.of_start hgrid with ⟨since, hin, hdeadline, hdue, -⟩ | ⟨-, hnil, -⟩
    · show t.now ≤ now + plan.retry.deadline.nanos
      rw [← hdeadline]
      exact hin.now_le hdue
    · cases hnil
  · rintro u t v a rfl ha hnew
    rcases hprompt.of_start hgrid with ⟨since, hin, hdeadline, hdue, -⟩ | ⟨-, hnil, -⟩
    · show t.now < now + plan.retry.deadline.nanos
      rw [← hdeadline]
      rw [run_append] at ha
      exact lt_of_running (hc.run u) ha hnew
    · cases hnil
  · rintro u v w rfl hw
    rcases hprompt.of_start hgrid with ⟨since, hin, hdeadline, -⟩ | ⟨rfl, rfl, hcrash⟩
    · show w ≤ now + plan.retry.deadline.nanos
      rw [← hdeadline]
      exact hin.waiting hw
    · cases hw.symm.trans hcrash
  · have hpaced : Paced plan (0 + turns.length) c := hprompt.paced (paced_start hmax now) hc
    have hlt : 0 + turns.length < 3 * plan.retry.maxAttempts := hpaced.turns_lt
    exact ⟨hpaced.attempts_le, by rwa [Nat.zero_add] at hlt⟩
  · rw [finished_iff hover hleft, crashed_iff]

/-- An attempt that never ends, and that may take longer than the ten seconds of the call. -/
theorem returns_at_deadline :
    let plan : CallPlan := {
      backend := "b", timeout := .ofSecs 30, factor := fun _ => ⟨1, 0⟩
      retry := { deadline := .ofSecs 10 } }
    let turns : List (CallTurn String) := [
      { now := 0, breakers := {}, event := .attempt },
      { now := 10000000000, breakers := {}, event := .expire }]
    let c := (start plan 0).run plan turns
    (Clock.grid ∣ 0 + plan.retry.deadline.nanos ∧ Prompt plan 0 (start plan 0) turns) ∧
    c.stage = .finished (.error (.deadlineExceeded "b" 1)) ∧
      ¬ (Clock.after? 0 plan.retry.deadline = none ∨ Stranded plan (start plan 0) turns) := by
  intro plan turns c
  have hgrid : Clock.grid ∣ 0 + plan.retry.deadline.nanos := by decide
  have hprompt : Prompt plan 0 (start plan 0) turns :=
    ⟨.attempt rfl rfl rfl, .expire rfl rfl (by decide), trivial⟩
  obtain ⟨-, -, -, -, -, hreturned⟩ := returns_by_deadline_iff plan 0 turns hgrid hprompt
  have hs : c.stage = .finished (.error (.deadlineExceeded "b" 1)) := rfl
  exact ⟨⟨hgrid, hprompt⟩, hs, (hreturned rfl).mp ⟨_, hs⟩⟩

/-- The first delay is as long as a duration can be, and after it the call never returns, though its
deadline is a minute away. -/
theorem no_return_after_longest_delay :
    let plan : CallPlan := {
      backend := "b", timeout := .ofSecs 30, factor := fun _ => ⟨1, -1⟩
      retry := {
        deadline := .ofSecs 60
        baseDelay := .ofSecs 18446744073709551615, maxDelay := .ofSecs 18446744073709551615 } }
    let turns : List (CallTurn String) := [
      { now := 0, breakers := {}, event := .attempt },
      { now := 0, breakers := {}
        event := .complete (.error { category := .transient, message := "m" }) }]
    0 < plan.retry.maxAttempts ∧ Clock.grid ∣ plan.timeout.nanos ∧
      Clock.grid ∣ plan.retry.deadline.nanos ∧ Prompt plan 0 (start plan 0) turns ∧
      ∀ later result, ((start plan 0).run plan (turns ++ later)).stage ≠ .finished result := by
  intro plan turns
  have hs : ((start plan 0).run plan turns).stage = .crashed .wakeUp :=
    fault?_eq_some.mp (by decide)
  have hprompt : Prompt plan 0 (start plan 0) turns :=
    ⟨.attempt rfl rfl rfl, .complete rfl rfl (Nat.le_refl _) (Nat.zero_le _), trivial⟩
  refine ⟨by decide, by decide, by decide, hprompt, fun later result => ?_⟩
  rw [run_append, run_of_over (by simp [isOver, hs]), hs]
  simp

end Call

end Dispatch
