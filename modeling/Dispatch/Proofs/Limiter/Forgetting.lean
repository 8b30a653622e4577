/-
Dispatch/Proofs/Limiter/Forgetting.lean

When it goes unnoticed that a caller is forgotten.

A caller whose bucket is gone has a full one.  If its bucket was full, too, when it was forgotten,
nothing has changed for the caller: it is answered as if it were the only one who uses the limiter.
Two runs are compared, that of all turns and that of the caller's own attempts; as long as the
caller is not forgotten *early*, before its bucket is full again, both have the same tokens for it
at all later times (`Alike`).

If it is forgotten early, it notices at once.  As many attempts as a bucket holds tokens are
granted now, and would not all be granted if the caller had not been forgotten
(`burst_granted_iff`).  So the first early turn shows, and a run with whatever the caller may try
after any of its turns is unnoticed exactly if no turn is early.

Buckets are forgotten when a refill time has passed, and the refill time is rounded to the nearest
nanosecond.  Where it was rounded down, a caller that is forgotten just then is forgotten early, and
at no other time is anybody (`ForgetsEarly.at_refillTime`).
-/
import Dispatch.Clock.Basic
import Dispatch.Proofs.Limiter.Tokens

namespace Dispatch

namespace Limiter

/-- A turn forgets a caller whose bucket is not full again. -/
def ForgetsEarly (l : Limiter Rat) (caller : String) (t : LimiterTurn) : Prop :=
  (l.step t).buckets.get? caller = none ∧ l.available caller t.now < l.capacity

instance (l : Limiter Rat) (caller : String) (t : LimiterTurn) :
    Decidable (l.ForgetsEarly caller t) := inferInstanceAs (Decidable (_ ∧ _))

/-- Which attempts of a caller are granted in a run. -/
def verdicts (l : Limiter Rat) (caller : String) (turns : List LimiterTurn) : List Bool :=
  (l.attempts caller turns).map fun a => a.2.isOk

/-- Attempts of a caller at some times. -/
def tries (caller : String) (times : List Nat) : List LimiterTurn :=
  times.map (LimiterTurn.acquire caller)

variable {l l' : Limiter Rat} {caller : String} {t : LimiterTurn} {ts : List LimiterTurn}
  {now n : Nat}

/-! ### Forgetting early -/

theorem not_forgetsEarly_of_isBy (h : t.isBy caller = true) (l : Limiter Rat) :
    ¬ l.ForgetsEarly caller t := by
  rintro ⟨hnone, -⟩
  rw [get?_step_of_isBy h] at hnone
  cases hnone

/-- What others do changes no tokens, unless the caller is forgotten early. -/
theorem available_step_of_not_forgetsEarly (hrate : 0 ≤ l.refillRate)
    (hby : t.isBy caller = false) (h : ¬ l.ForgetsEarly caller t) (hn : t.now ≤ n) :
    (l.step t).available caller n = l.available caller n := by
  have hturned := l.turned caller t
  generalize hx : (l.step t).buckets.get? caller = x at hturned
  cases hturned with
  | tried hby' => exact absurd (hby.symm.trans hby') nofun
  | untouched _ => exact available_step_of_get?_eq hx n
  | forgotten _ hb hidle =>
    -- the bucket was full, and is full at all later times
    have hfull : l.capacity ≤ l.available caller t.now := not_lt.mp fun hlt => h ⟨hx, hlt⟩
    rw [available_of_none hx, capacity_step]
    exact le_antisymm (hfull.trans (available_mono hrate hn)) (available_le_capacity l caller n)

/-- **A caller is forgotten early only when just a refill time has passed**, and only if the refill
time was rounded down. -/
theorem ForgetsEarly.at_refillTime (h : l.ForgetsEarly caller t) (hl : l.Sound) :
    l.gain l.refillTime.nanos < l.capacity ∧
      (t.now < Clock.bound → ∃ b, l.buckets.get? caller = some b ∧
        t.now - b.countedAt = l.refillTime.nanos) := by
  obtain ⟨hnone, hlt⟩ := h
  have hturned := l.turned caller t
  rw [hnone] at hturned
  generalize hx : none = x at hturned
  cases hturned with
  | tried _ => cases hx
  | untouched _ =>
    rw [available_of_none hx.symm] at hlt
    exact absurd hlt (lt_irrefl _)
  | @forgotten _ b hb hidle =>
    rw [available_of_some hb] at hlt
    have hgain : l.gain (t.now - b.countedAt) < l.capacity := by
      have hsum := (min_lt_iff.mp hlt).resolve_right (lt_irrefl _)
      have htokens := hl.tokens hb
      linarith
    refine ⟨(gain_mono hl.refillRate.le hidle).trans_lt hgain, fun hbound => ⟨b, hb, ?_⟩⟩
    have hmax : l.refillTime ≠ Duration.max := by
      intro hmax
      rw [hmax] at hidle
      have hlong : Clock.bound ≤ Duration.max.nanos := by decide
      omega
    have hle : t.now - b.countedAt ≤ l.refillTime.nanos :=
      not_lt.mp fun hlate => hgain.not_ge (capacity_le_gain hl.refillRate hmax hlate)
    exact le_antisymm hle hidle

/-! ### Two limiters that a caller cannot tell apart -/

/-- A caller has the same tokens in two limiters from a time on. -/
structure Alike (caller : String) (now : Nat) (l l' : Limiter Rat) : Prop where
  capacity : l.capacity = l'.capacity
  refillRate : l.refillRate = l'.refillRate
  available : ∀ {n}, now ≤ n → l.available caller n = l'.available caller n

theorem Alike.refl (caller : String) (now : Nat) (l : Limiter Rat) : Alike caller now l l :=
  ⟨rfl, rfl, fun _ => rfl⟩

/-- An attempt is answered alike. -/
theorem Alike.acquire (h : Alike caller now l l') (hn : now ≤ n) :
    (l.acquire caller n).2 = (l'.acquire caller n).2 := by
  rw [acquire_eq, acquire_eq, counted_eq, counted_eq, h.available hn]
  show l.answer _ = l'.answer _
  rw [answer, answer, h.refillRate]

/-- After an attempt in both, they are alike. -/
theorem Alike.step (h : Alike caller now l l') (hby : t.isBy caller = true)
    (hn : now ≤ t.now) : Alike caller t.now (l.step t) (l'.step t) where
  capacity := by rw [capacity_step, capacity_step, h.capacity]
  refillRate := by rw [refillRate_step, refillRate_step, h.refillRate]
  available := by
    intro n _
    have hgain : l.gain = l'.gain := by
      unfold gain
      rw [h.refillRate]
    rw [available_of_some (get?_step_of_isBy hby l), available_of_some (get?_step_of_isBy hby l'),
      h.available hn, capacity_step, capacity_step, h.capacity, gain_step, gain_step, hgain]

/-- What others do in one of them leaves them alike, unless it forgets the caller early. -/
theorem Alike.skip (h : Alike caller now l l') (hrate : 0 ≤ l.refillRate)
    (hby : t.isBy caller = false) (hearly : ¬ l.ForgetsEarly caller t) (hn : now ≤ t.now) :
    Alike caller t.now (l.step t) l' where
  capacity := by rw [capacity_step, h.capacity]
  refillRate := by rw [refillRate_step, h.refillRate]
  available := by
    intro n hle
    rw [available_step_of_not_forgetsEarly hrate hby hearly hle, h.available (hn.trans hle)]

/-- A caller that is not forgotten early is answered as if it were the only one. -/
theorem Alike.attempts_eq (h : Alike caller now l l') (hrate : 0 ≤ l.refillRate)
    (htimes : Timely ts) (hnow : ∀ t ∈ ts, now ≤ t.now)
    (hearly : l.Throughout (fun l t => ¬ l.ForgetsEarly caller t) ts) :
    l.attempts caller ts = l'.attempts caller (ts.filter fun t => t.isBy caller) := by
  induction ts generalizing l l' now with
  | nil => rfl
  | cons t ts ih =>
    have hn : now ≤ t.now := hnow t List.mem_cons_self
    have hrate' : 0 ≤ (l.step t).refillRate := by rwa [refillRate_step]
    have hlater : ∀ u ∈ ts, t.now ≤ u.now := fun u hu => htimes.le hu
    cases hby : t.isBy caller with
    | true =>
      rw [List.filter_cons_of_pos hby, attempts_cons_of_isBy hby, attempts_cons_of_isBy hby,
        h.acquire hn, ih (h.step hby hn) hrate' htimes.tail hlater hearly.2]
    | false =>
      rw [List.filter_cons_of_neg (by simp [hby]), attempts_cons_of_not_isBy hby]
      exact ih (h.skip hrate hby hearly.1 hn) hrate' htimes.tail hlater hearly.2

/-! ### Noticing -/

theorem verdicts_cons_of_isBy (h : t.isBy caller = true) (l : Limiter Rat)
    (ts : List LimiterTurn) :
    l.verdicts caller (t :: ts)
      = decide (1 ≤ l.available caller t.now) :: (l.step t).verdicts caller ts := by
  rw [verdicts, attempts_cons_of_isBy h, List.map_cons, isOk_acquire]
  rfl

theorem verdicts_cons_of_not_isBy (h : t.isBy caller = false) (l : Limiter Rat)
    (ts : List LimiterTurn) :
    l.verdicts caller (t :: ts) = (l.step t).verdicts caller ts := by
  rw [verdicts, attempts_cons_of_not_isBy h]
  rfl

/-- So many attempts at one time are all granted exactly if there are as many tokens. -/
theorem burst_granted_iff (h : 0 ≤ l.available caller now) (k : Nat) :
    l.verdicts caller (tries caller (List.replicate k now)) = List.replicate k true ↔
      (k : Rat) ≤ l.available caller now := by
  induction k generalizing l with
  | zero => simp [tries, verdicts, attempts, h]
  | succ k ih =>
    have hby := LimiterTurn.isBy_acquire caller now
    have hleft : (l.step (.acquire caller now)).available caller now
        = left (l.available caller now) := available_step_of_isBy hby l
    rw [List.replicate_succ, tries, List.map_cons, verdicts_cons_of_isBy hby, List.replicate_succ,
      List.cons.injEq, Nat.cast_add, Nat.cast_one]
    by_cases hone : 1 ≤ l.available caller now
    · simp only [left, if_pos hone] at hleft
      have hrest := ih (l := l.step (.acquire caller now)) (by rw [hleft]; linarith)
      rw [hleft] at hrest
      refine (and_iff_right (decide_eq_true hone)).trans (hrest.trans ?_)
      constructor <;> intro hk <;> linarith
    · have hk : ¬ (k : Rat) + 1 ≤ l.available caller now := by
        have hpos : (0 : Rat) ≤ k := Nat.cast_nonneg k
        intro hle
        exact hone (by linarith)
      refine iff_of_false (fun hall => ?_) hk
      exact hone (of_decide_eq_true hall.1)

theorem timely_burst (caller : String) (t : LimiterTurn) (k : Nat) :
    Timely (t :: tries caller (List.replicate k t.now)) := by
  have hsame : ∀ u ∈ tries caller (List.replicate k t.now), u.now = t.now := by
    intro u hu
    obtain ⟨n, hn, rfl⟩ := List.mem_map.mp hu
    exact List.eq_of_mem_replicate hn
  refine List.pairwise_cons.mpr ⟨fun u hu => (hsame u hu).ge, ?_⟩
  exact List.pairwise_of_forall_mem_list fun u hu v hv => by rw [hsame u hu, hsame v hv]

theorem filter_tries (caller : String) (times : List Nat) :
    (tries caller times).filter (fun t => t.isBy caller) = tries caller times := by
  refine List.filter_eq_self.mpr fun t ht => ?_
  obtain ⟨n, -, rfl⟩ := List.mem_map.mp ht
  exact LimiterTurn.isBy_acquire caller n

/-- A caller that is forgotten early is told so by a burst of attempts. -/
theorem Alike.not_forgetsEarly {capacity : Nat} (h : Alike caller now l l') (hl : l.Sound)
    (hcapacity : l.capacity = capacity) (hn : now ≤ t.now)
    (heq : l.verdicts caller (t :: tries caller (List.replicate capacity t.now))
      = l'.verdicts caller ((t :: tries caller (List.replicate capacity t.now)).filter
          fun t => t.isBy caller)) :
    ¬ l.ForgetsEarly caller t := by
  intro hearly
  have hby : t.isBy caller = false := by
    by_contra hby
    exact not_forgetsEarly_of_isBy (by simpa using hby) l hearly
  rw [List.filter_cons_of_neg (by simp [hby]), filter_tries, verdicts_cons_of_not_isBy hby] at heq
  -- all of them are granted to the caller that is forgotten
  have hfull : (l.step t).available caller t.now = capacity := by
    rw [available_of_none hearly.1, capacity_step, hcapacity]
  have hgranted := (burst_granted_iff ((hl.step t).available_nonneg caller t.now) capacity).mpr
    hfull.ge
  have hle := (burst_granted_iff ((h.available hn).symm ▸ hl.available_nonneg caller t.now)
    capacity).mp (heq.symm.trans hgranted)
  rw [← h.available hn, ← hcapacity] at hle
  exact absurd hearly.2 (not_lt.mpr hle)

/-- A run is never early if nothing that the caller may try after one of its first turns is
answered otherwise than if the caller were the only one. -/
theorem Alike.throughout_of_verdicts_eq {capacity : Nat} (h : Alike caller now l l')
    (hl : l.Sound) (hcapacity : l.capacity = capacity) (htimes : Timely ts)
    (hnow : ∀ t ∈ ts, now ≤ t.now)
    (heq : ∀ u, u <+: ts → ∀ times, (∀ n ∈ times, now ≤ n) → Timely (u ++ tries caller times) →
      l.verdicts caller (u ++ tries caller times)
        = l'.verdicts caller ((u ++ tries caller times).filter fun t => t.isBy caller)) :
    l.Throughout (fun l t => ¬ l.ForgetsEarly caller t) ts := by
  induction ts generalizing l l' now with
  | nil => trivial
  | cons t ts ih =>
    have hn : now ≤ t.now := hnow t List.mem_cons_self
    have hearly : ¬ l.ForgetsEarly caller t := by
      refine h.not_forgetsEarly hl hcapacity hn (heq [t] (by simp) _ (fun n hmem => ?_) ?_)
      · exact (List.eq_of_mem_replicate hmem) ▸ hn
      · exact timely_burst caller t capacity
    refine ⟨hearly, ?_⟩
    have hcapacity' : (l.step t).capacity = capacity := by rw [capacity_step, hcapacity]
    have hlater : ∀ u ∈ ts, t.now ≤ u.now := fun u hu => htimes.le hu
    -- what may follow a first part of the rest may follow it after this turn
    have hcons : ∀ {u times}, u <+: ts → (∀ n ∈ times, t.now ≤ n) →
        Timely (u ++ tries caller times) →
        l.verdicts caller (t :: (u ++ tries caller times))
          = l'.verdicts caller
              ((t :: (u ++ tries caller times)).filter fun t => t.isBy caller) := by
      intro u times hu hafter hrest
      refine heq (t :: u) (List.cons_prefix_cons.mpr ⟨rfl, hu⟩) times
        (fun n hmem => hn.trans (hafter n hmem)) (List.pairwise_cons.mpr ⟨fun v hv => ?_, hrest⟩)
      rcases List.mem_append.mp hv with hv | hv
      · exact hlater v (hu.subset hv)
      · obtain ⟨n, hmem, rfl⟩ := List.mem_map.mp hv
        exact hafter n hmem
    cases hby : t.isBy caller with
    | true =>
      refine ih (h.step hby hn) (hl.step t) hcapacity' htimes.tail hlater
        fun u hu times hafter hrest => ?_
      have hboth := hcons hu hafter hrest
      rw [List.filter_cons_of_pos hby, verdicts_cons_of_isBy hby,
        verdicts_cons_of_isBy hby] at hboth
      exact (List.cons.inj hboth).2
    | false =>
      refine ih (h.skip hl.refillRate.le hby hearly hn) (hl.step t) hcapacity' htimes.tail hlater
        fun u hu times hafter hrest => ?_
      have hboth := hcons hu hafter hrest
      rw [List.filter_cons_of_neg (by simp [hby]), verdicts_cons_of_not_isBy hby] at hboth
      exact hboth

/-- **When nobody notices that callers are forgotten.**  Whoever uses a limiter, in whatever way, as
long as its clock does not go backwards: in a run, and whatever a caller may try after any of its
turns, the same attempts are granted to the caller as if it were the only one, exactly if no turn
forgets it early.  A turn does so only if the refill time was rounded down to whole nanoseconds, and
just a refill time after the bucket was counted. -/
theorem forgetting_unnoticed_iff (capacity : Nat) {refillRate : Rat} (hrate : 0 < refillRate)
    (maxTracked : Nat) (turns : List LimiterTurn) (htimes : Timely turns) (caller : String) :
    let l := exact capacity refillRate maxTracked
    ((∀ u, u <+: turns → ∀ times, Timely (u ++ tries caller times) →
        l.verdicts caller (u ++ tries caller times)
          = l.verdicts caller ((u ++ tries caller times).filter fun t => t.isBy caller)) ↔
      l.Throughout (fun l t => ¬ l.ForgetsEarly caller t) turns) ∧
    l.Throughout (fun l t => l.ForgetsEarly caller t →
      l.refillTime.nanos / Duration.perSecond * l.refillRate < l.capacity ∧
      (t.now < Clock.bound → ∃ b, l.buckets.get? caller = some b ∧
        t.now - b.countedAt = l.refillTime.nanos)) turns := by
  intro l
  have hl : l.Sound := sound_exact capacity hrate maxTracked
  refine ⟨⟨fun h => ?_, fun h u hu times hu' => ?_⟩, ?_⟩
  · refine (Alike.refl caller 0 l).throughout_of_verdicts_eq hl rfl htimes
      (fun t _ => t.now.zero_le) fun u hu times _ htimes' => h u hu times htimes'
  · obtain ⟨rest, rfl⟩ := hu
    have hby : (l.run u).Throughout (fun l t => t.isBy caller = true → ¬ l.ForgetsEarly caller t)
        (tries caller times) :=
      throughout_of_invariant (P := fun _ => True) trivial (fun _ _ _ => trivial)
        fun l t _ hby => not_forgetsEarly_of_isBy hby l
    have htries : (l.run u).Throughout (fun l t => ¬ l.ForgetsEarly caller t)
        (tries caller times) := by
      refine hby.imp fun l t ht hearly => hearly ?_
      obtain ⟨n, -, rfl⟩ := List.mem_map.mp ht
      exact LimiterTurn.isBy_acquire caller n
    have hearly := throughout_append.mpr ⟨(throughout_append.mp h).1, htries⟩
    exact congrArg (List.map _)
      ((Alike.refl caller 0 l).attempts_eq hrate.le hu' (fun t _ => t.now.zero_le) hearly)
  · exact throughout_of_invariant hl (fun _ t h => h.step t)
      fun l t h hearly => hearly.at_refillTime h

/-- A caller that is forgotten one nanosecond after its refill time is answered as if it were the
only one, also if it comes back at once. -/
theorem unnoticed_after_refillTime :
    let l := exact 1 3 1
    let turns : List LimiterTurn := [.acquire "alice" 0, .acquire "bob" 333333334]
    let later := [333333334, 333333334]
    ((0 : Rat) < 3 ∧ Timely turns ∧
      l.Throughout (fun l t => ¬ l.ForgetsEarly "alice" t) turns) ∧
    (l.run [.acquire "alice" 0]).Forgets "alice" (.acquire "bob" 333333334) ∧
    l.refillTime.nanos = 333333333 ∧
    l.verdicts "alice" (turns ++ tries "alice" later) = [true, true, false] := by
  intro l turns later
  have hrate : (0 : Rat) < 3 := by norm_num
  have htimes : Timely turns := by decide
  have hearly : l.Throughout (fun l t => ¬ l.ForgetsEarly "alice" t) turns := by decide +kernel
  refine ⟨⟨hrate, htimes, hearly⟩, by decide +kernel, by decide +kernel, ?_⟩
  have hsame := (forgetting_unnoticed_iff 1 hrate 1 turns htimes "alice").1.mpr hearly turns
    List.prefix_rfl later (by decide)
  refine hsame.trans ?_
  decide +kernel

/-- A caller that is forgotten just when its refill time has passed is granted a token that it does
not have: three tokens a second make one in a third of a second, and the refill time is a third of a
nanosecond short of that. -/
theorem granted_for_being_forgotten :
    let l := exact 1 3 1
    let turns : List LimiterTurn :=
      [.acquire "alice" 0, .acquire "bob" 333333333, .acquire "alice" 333333333]
    Timely turns ∧ l.verdicts "alice" turns = [true, true] ∧
      l.verdicts "alice" (turns.filter fun t => t.isBy "alice") = [true, false] := by
  decide +kernel

end Limiter

end Dispatch
