/-
Dispatch/Proofs/Limiter/Tracked.lean

How many callers have a bucket.

A bucket was last counted when its caller last tried, however often the caller has been forgotten
meanwhile, and who has no bucket has never tried, or tried last a refill time ago or earlier
(`Remembers`).  So once the full buckets are dropped, those are left whose callers have tried less
than a refill time ago, neither more nor fewer (`Remembers.isSome_get?_dropIdle_iff`).

Buckets are dropped only when somebody is new and there are as many as may be kept.  Who is new then
makes one more than those that are left; before that, the number grows by one, and stays within the
limit.  Who has a bucket changes nothing (`tracked_after_attempt`).

None of this depends on how tokens are counted.
-/
import Mathlib.Data.List.Dedup
import Mathlib.Data.List.Induction
import Mathlib.Data.List.Perm.Basic
import Dispatch.Proofs.Limiter.Attempts

namespace Dispatch

/-! ### Sizes of tables -/

namespace Table

variable {α : Type} {t : Table α} {name : String} {value : α} {names : List String}

/-- A table has as many entries as names. -/
theorem size_eq_length (hnames : names.Nodup) (h : ∀ name, (t.get? name).isSome ↔ name ∈ names) :
    t.size = names.length := by
  have hperm : t.names.Perm names :=
    (List.perm_ext_iff_of_nodup t.names_nodup hnames).mpr fun name =>
      (mem_names_iff t).trans (h name)
  rw [← hperm.length_eq]
  exact (List.length_map _).symm

theorem size_insert_of_none (h : t.get? name = none) (value : α) :
    (t.insert name value).size = 1 + t.size := by
  have hnew : name ∉ t.names := by
    rw [mem_names_iff, h]
    exact nofun
  have hsize := (t.insert name value).size_eq_length (List.nodup_cons.mpr ⟨hnew, t.names_nodup⟩)
    fun other => by
      rw [get?_insert, List.mem_cons, mem_names_iff]
      split <;> simp_all
  rw [hsize, List.length_cons, Nat.add_comm]
  exact congrArg _ (List.length_map _)

theorem size_insert_of_some (h : (t.get? name).isSome) (value : α) :
    (t.insert name value).size = t.size := by
  have hsize := (t.insert name value).size_eq_length t.names_nodup fun other => by
    rw [get?_insert, mem_names_iff]
    split <;> simp_all
  exact hsize.trans (List.length_map _)

end Table

/-! ### The latest attempts -/

/-- Who tries in a turn. -/
def LimiterTurn.caller? : LimiterTurn → Option String
  | acquire caller _ => some caller
  | prune .. | available .. => none

theorem LimiterTurn.caller?_eq_some_iff {t : LimiterTurn} {caller : String} :
    t.caller? = some caller ↔ t.isBy caller = true := by
  cases t <;> simp [caller?, isBy]

namespace Limiter

/-- When a caller tried last. -/
def lastAttempt? (turns : List LimiterTurn) (caller : String) : Option Nat :=
  ((turns.filter fun t => t.isBy caller).getLast?).map LimiterTurn.now

/-- Whether a caller has tried less than a time ago. -/
def isRecent (turns : List LimiterTurn) (age : Duration) (now : Nat) (caller : String) : Bool :=
  (lastAttempt? turns caller).any fun tried => now - tried < age.nanos

/-- The other callers that have tried less than a time ago, each of them once. -/
def recentOthers (turns : List LimiterTurn) (caller : String) (age : Duration) (now : Nat) :
    List String :=
  (turns.filterMap LimiterTurn.caller?).dedup.filter fun other =>
    other ≠ caller && isRecent turns age now other

section

variable {turns : List LimiterTurn} {t : LimiterTurn} {caller other : String} {age : Duration}
  {now tried : Nat}

theorem lastAttempt?_append_of_isBy (h : t.isBy caller = true) :
    lastAttempt? (turns ++ [t]) caller = some t.now := by
  simp [lastAttempt?, List.filter_append, h]

theorem lastAttempt?_append_of_not_isBy (h : t.isBy caller = false) :
    lastAttempt? (turns ++ [t]) caller = lastAttempt? turns caller := by
  simp [lastAttempt?, List.filter_append, h]

theorem exists_of_lastAttempt? (h : lastAttempt? turns caller = some tried) :
    ∃ t ∈ turns, t.isBy caller = true ∧ t.now = tried := by
  obtain ⟨t, ht, rfl⟩ := Option.map_eq_some_iff.mp h
  exact ⟨t, List.mem_filter.mp (List.mem_of_getLast? ht) |>.1,
    (List.mem_filter.mp (List.mem_of_getLast? ht)).2, rfl⟩

theorem isRecent_iff :
    isRecent turns age now caller = true ↔
      ∃ tried, lastAttempt? turns caller = some tried ∧ now - tried < age.nanos := by
  rw [isRecent, Option.any_eq_true]
  simp only [decide_eq_true_eq]

theorem nodup_recentOthers (turns : List LimiterTurn) (caller : String) (age : Duration)
    (now : Nat) : (recentOthers turns caller age now).Nodup :=
  (List.nodup_dedup _).filter _

theorem mem_recentOthers_iff :
    other ∈ recentOthers turns caller age now ↔
      other ≠ caller ∧ isRecent turns age now other = true := by
  rw [recentOthers, List.mem_filter, List.mem_dedup, List.mem_filterMap]
  simp only [Bool.and_eq_true, decide_eq_true_eq]
  refine and_iff_right_of_imp fun h => ?_
  obtain ⟨tried, htried, -⟩ := isRecent_iff.mp h.2
  obtain ⟨t, ht, hby, -⟩ := exists_of_lastAttempt? htried
  exact ⟨t, ht, LimiterTurn.caller?_eq_some_iff.mpr hby⟩

end

/-! ### What buckets tell of the past -/

section

variable {α : Type} [TokenCount α] {l : Limiter α} {turns : List LimiterTurn} {t : LimiterTurn}
  {caller : String} {now : Nat}

/-- A limiter that nobody has used. -/
def unused (capacity refillRate : α) (maxTracked : Nat) : Limiter α where
  capacity := capacity
  refillRate := refillRate
  maxTracked := maxTracked

/-- Buckets were counted when their callers last tried, and only callers that have not tried since
are without one. -/
structure Remembers (l : Limiter α) (turns : List LimiterTurn) : Prop where
  counted : ∀ {caller b}, l.buckets.get? caller = some b →
    lastAttempt? turns caller = some b.countedAt
  /-- Who has tried has a bucket, or its bucket was dropped a refill time after that. -/
  kept : ∀ {caller tried}, lastAttempt? turns caller = some tried →
    (l.buckets.get? caller).isSome ∨ ∃ t ∈ turns, l.refillTime.nanos ≤ t.now - tried

theorem remembers_unused (capacity refillRate : α) (maxTracked : Nat) :
    (unused capacity refillRate maxTracked).Remembers [] where
  counted := nofun
  kept := nofun

/-- What is done in a turn is remembered. -/
theorem Remembers.step (h : l.Remembers turns) (t : LimiterTurn) :
    (l.step t).Remembers (turns ++ [t]) where
  counted := by
    intro caller b hb
    have hturned := l.turned caller t
    rw [hb] at hturned
    generalize hx : some b = x at hturned
    cases hturned with
    | tried hby =>
      rw [lastAttempt?_append_of_isBy hby, Option.some.inj hx]
      unfold spent
      split <;> rfl
    | untouched hby =>
      rw [lastAttempt?_append_of_not_isBy hby]
      exact h.counted hx.symm
    | forgotten => cases hx
  kept := by
    intro caller tried hlast
    rw [refillTime_step]
    have hturned := l.turned caller t
    generalize (l.step t).buckets.get? caller = x at hturned ⊢
    cases hturned with
    | tried => exact Or.inl rfl
    | untouched hby =>
      rw [lastAttempt?_append_of_not_isBy hby] at hlast
      refine (h.kept hlast).imp_right fun ⟨u, hu, hlong⟩ => ⟨u, ?_, hlong⟩
      exact List.mem_append_left _ hu
    | forgotten hby hb hidle =>
      rw [lastAttempt?_append_of_not_isBy hby, h.counted hb] at hlast
      obtain rfl := Option.some.inj hlast
      exact Or.inr ⟨t, List.mem_append_right _ List.mem_cons_self, hidle⟩

theorem remembers_run (capacity refillRate : α) (maxTracked : Nat) (turns : List LimiterTurn) :
    ((unused capacity refillRate maxTracked).run turns).Remembers turns := by
  induction turns using List.reverseRecOn with
  | nil => exact remembers_unused capacity refillRate maxTracked
  | append_singleton turns t ih =>
    rw [run_append]
    exact ih.step t

/-- **Of the buckets those are left whose callers have tried less than a refill time ago.** -/
theorem Remembers.isSome_get?_dropIdle_iff (h : l.Remembers turns)
    (hnow : ∀ t ∈ turns, t.now ≤ now) :
    ((l.dropIdle l.refillTime now).buckets.get? caller).isSome ↔
      isRecent turns l.refillTime now caller = true := by
  rw [dropIdle, Table.get?_filter, isRecent_iff]
  constructor
  · intro hleft
    obtain ⟨b, hb⟩ := Option.isSome_iff_exists.mp hleft
    obtain ⟨hbucket, hage⟩ := Option.filter_eq_some_iff.mp hb
    exact ⟨b.countedAt, h.counted hbucket, of_decide_eq_true hage⟩
  · rintro ⟨tried, htried, hage⟩
    rcases h.kept htried with hsome | ⟨t, ht, hlong⟩
    · obtain ⟨b, hb⟩ := Option.isSome_iff_exists.mp hsome
      have hcounted := Option.some.inj ((h.counted hb).symm.trans htried)
      rw [hb, Option.filter_some, if_pos (decide_eq_true (hcounted ▸ hage))]
      rfl
    · have hle := hnow t ht
      omega

/-! ### Attempts -/

/-- The buckets after an attempt: those that are left, and that of the caller. -/
theorem tracked_acquire (l : Limiter α) (caller : String) (now : Nat) :
    (l.acquire caller now).1.tracked
      = ((l.makeRoom caller now).buckets.insert caller (spent (l.counted caller now))).size := by
  rw [acquire_eq]
  rfl

/-- Who has a bucket is not new. -/
theorem tracked_acquire_of_some (h : (l.buckets.get? caller).isSome) (now : Nat) :
    (l.acquire caller now).1.tracked = l.tracked := by
  have hroom : l.makeRoom caller now = l := by
    rw [makeRoom, Table.contains, h]
    exact if_neg (by simp)
  rw [tracked_acquire, hroom]
  exact Table.size_insert_of_some h _

/-- Who is new is one more than the others that are left. -/
theorem tracked_acquire_of_none (h : l.buckets.get? caller = none) (now : Nat) :
    (l.acquire caller now).1.tracked = 1 + (l.makeRoom caller now).tracked := by
  rw [tracked_acquire]
  exact Table.size_insert_of_none ((get?_makeRoom_self l caller now).trans h) _

/-- Room is made for somebody new when there are as many buckets as may be kept. -/
theorem makeRoom_of_none (h : l.buckets.get? caller = none) (now : Nat) :
    l.makeRoom caller now
      = if l.maxTracked ≤ l.tracked then l.dropIdle l.refillTime now else l := by
  have hnew : (decide (l.maxTracked ≤ l.buckets.size) && !l.buckets.contains caller) = true ↔
      l.maxTracked ≤ l.tracked := by
    simp [Table.contains, h, tracked]
  exact if_congr hnew rfl rfl

/-- The others that are left are those that have tried less than a refill time ago. -/
theorem Remembers.tracked_dropIdle (h : l.Remembers turns) (hnow : ∀ t ∈ turns, t.now ≤ now)
    (hnone : l.buckets.get? caller = none) :
    (l.dropIdle l.refillTime now).tracked
      = (recentOthers turns caller l.refillTime now).length := by
  refine Table.size_eq_length (nodup_recentOthers ..) fun other => ?_
  rw [h.isSome_get?_dropIdle_iff hnow, mem_recentOthers_iff]
  refine (and_iff_right_of_imp fun hrecent => ?_).symm
  rintro rfl
  -- nobody without a bucket is recent
  have hleft := (h.isSome_get?_dropIdle_iff hnow).mpr hrecent
  rw [dropIdle, Table.get?_filter, hnone] at hleft
  cases hleft

/-- **How many callers have a bucket.**  However tokens are counted, and whatever was done before,
as long as the clock does not go backwards: an attempt of a caller that has a bucket leaves their
number as it is.  A caller without one makes one more; where there were as many as may be kept, one
more than the others that have tried less than a refill time ago.  So right after that there are no
more than the larger of both. -/
theorem tracked_after_attempt (capacity refillRate : α) (maxTracked : Nat)
    (turns : List LimiterTurn) (caller : String) (now : Nat)
    (htimes : Timely (turns ++ [.acquire caller now])) :
    let l := (unused capacity refillRate maxTracked).run turns
    let l' := (l.acquire caller now).1
    let recent := (recentOthers turns caller l.refillTime now).length
    (l.buckets.contains caller = false →
      l'.tracked ≤ max maxTracked (1 + recent) ∧
      l'.tracked = 1 + if maxTracked ≤ l.tracked then recent else l.tracked) ∧
    (l.buckets.contains caller = true → l'.tracked = l.tracked) := by
  intro l l' recent
  have hremembers : l.Remembers turns := remembers_run capacity refillRate maxTracked turns
  have hmax : l.maxTracked = maxTracked := maxTracked_run _ turns
  have hnow : ∀ t ∈ turns, t.now ≤ now := fun t ht =>
    (List.pairwise_append.mp htimes).2.2 t ht _ List.mem_cons_self
  refine ⟨fun hnew => ?_, fun hold => tracked_acquire_of_some hold now⟩
  have hnone : l.buckets.get? caller = none := by simpa [Table.contains] using hnew
  have htracked : l'.tracked = 1 + if maxTracked ≤ l.tracked then recent else l.tracked := by
    show (l.acquire caller now).1.tracked = _
    rw [tracked_acquire_of_none hnone, makeRoom_of_none hnone, hmax]
    split
    · rw [hremembers.tracked_dropIdle hnow hnone]
    · rfl
  refine ⟨?_, htracked⟩
  rw [htracked]
  split <;> omega

/-- One bucket may be kept, and two are there: the first is dropped for a third caller when it has
been left for a second, and the other one, which has not, stays. -/
theorem tracked_after_third_attempt :
    let turns : List LimiterTurn :=
      [.acquire "alice" 0, .acquire "bob" 200000000, .prune .zero 900000000]
    let l := (unused (1.0 : Float) 1.0 1).run turns
    Timely (turns ++ [.acquire "carol" 1000000000]) ∧ l.buckets.names = ["alice", "bob"] ∧
    l.buckets.contains "carol" = false ∧
    recentOthers turns "carol" l.refillTime 1000000000 = ["bob"] ∧
    (l.acquire "carol" 1000000000).1.tracked = 2 := by
  intro turns l
  have htimes : Timely (turns ++ [.acquire "carol" 1000000000]) := by decide
  have hnames : l.buckets.names = ["alice", "bob"] := by decide +kernel
  have hnew : l.buckets.contains "carol" = false := by decide +kernel
  have hrecent : recentOthers turns "carol" l.refillTime 1000000000 = ["bob"] := by decide +kernel
  refine ⟨htimes, hnames, hnew, hrecent, ?_⟩
  obtain ⟨-, htracked⟩ :=
    (tracked_after_attempt (1.0 : Float) 1.0 1 turns "carol" 1000000000 htimes).1 hnew
  have hfull : 1 ≤ l.tracked := by decide +kernel
  rw [htracked, if_pos hfull]
  exact congrArg (fun others => 1 + others.length) hrecent

end

end Limiter

end Dispatch
