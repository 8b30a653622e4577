/-
Dispatch/Proofs/Metrics/Totals.lean

Metrics add up.

Calls, errors, tokens and latencies are counted in families of their own, each by its own labels,
and whoever records a call touches several of them.  What they have to agree on is the history:
what was recorded of each backend, and which guards are out.  `Metrics.Tallied` says of every
counter which part of the history it counts.  A turn keeps that (`Tallied.perform`), whatever the
backends and codes, and so does one that only reads, though a read makes counters that were not
there.

Counters wrap around, so a counter is its number modulo `Counters.bound`, and what is put together
from several of them agrees with the history in the sense of `Counters.Reads`: exactly, as long as
nothing has wrapped.
-/
import Mathlib.Algebra.BigOperators.Group.Finset.Basic
import Mathlib.Algebra.Order.BigOperators.Group.Finset
import Mathlib.Algebra.Ring.Nat
import Dispatch.Metrics.Basic

namespace Dispatch

/-! ### Counters -/

namespace Counters

theorem value_add (c : Counters) (label other : String) (n : Nat) :
    (c.add label n).value other
      = if other = label then (c.value label + n) % bound else c.value other := by
  unfold value add
  rw [Table.get?_insert]
  split <;> rfl

/-- A reading agrees with a number: as far as counters can tell, and exactly if none of them can
have wrapped around. -/
def Reads (reading n : Nat) : Prop := reading % bound = n % bound ∧ (n < bound → reading = n)

theorem reads_mod (n : Nat) : Reads (n % bound) n :=
  ⟨Nat.mod_mod _ _, Nat.mod_eq_of_lt⟩

theorem Reads.add {x y m n : Nat} (hx : Reads x m) (hy : Reads y n) : Reads (x + y) (m + n) := by
  refine ⟨?_, fun h => ?_⟩
  · rw [Nat.add_mod, hx.1, hy.1, ← Nat.add_mod]
  · rw [hx.2 (Nat.lt_of_le_of_lt (Nat.le_add_right m n) h),
      hy.2 (Nat.lt_of_le_of_lt (Nat.le_add_left n m) h)]

theorem Reads.sum {ι : Type} {s : Finset ι} {f g : ι → Nat} (h : ∀ i ∈ s, Reads (f i) (g i)) :
    Reads (∑ i ∈ s, f i) (∑ i ∈ s, g i) := by
  refine ⟨?_, fun hlt => ?_⟩
  · rw [Finset.sum_nat_mod, Finset.sum_nat_mod s _ g, Finset.sum_congr rfl fun i hi => (h i hi).1]
  · refine Finset.sum_congr rfl fun i hi => (h i hi).2 ?_
    exact Nat.lt_of_le_of_lt (Finset.single_le_sum (fun _ _ => Nat.zero_le _) hi) hlt

end Counters

theorem CounterGrid.value_add (g : CounterGrid) (first second first' second' : String) (n : Nat) :
    (g.add first second n).value first' second'
      = if first' = first ∧ second' = second then (g.value first second + n) % Counters.bound
        else g.value first' second' := by
  unfold value add row
  rw [Table.get?_insert]
  by_cases hfirst : first' = first
  · subst hfirst
    rw [if_pos rfl, Option.getD_some, Counters.value_add]
    simp
  · rw [if_neg hfirst, if_neg fun h => hfirst h.1]

/-- Reading a counter makes it, and leaves what it reads. -/
theorem CounterGrid.value_add_zero {g : CounterGrid} {first second : String}
    (h : g.value first second < Counters.bound) (first' second' : String) :
    (g.add first second 0).value first' second' = g.value first' second' := by
  rw [value_add]
  split
  · next heq => rw [heq.1, heq.2, Nat.add_zero, Nat.mod_eq_of_lt h]
  · rfl

theorem CounterGrid.value_add_zero_twice {g : CounterGrid} {first second second' : String}
    (h : g.value first second < Counters.bound) (h' : g.value first second' < Counters.bound)
    (label label' : String) :
    ((g.add first second 0).add first second' 0).value label label' = g.value label label' := by
  rw [value_add_zero, value_add_zero h]
  rwa [value_add_zero h]

/-! ### Turns -/

/-- What somebody does with metrics. -/
inductive MetricsTurn where
  /-- Records a call. -/
  | call (backend : String) (elapsed : Duration) (outcome : Except CallError Response)
  /-- Records a task that failed. -/
  | taskError (code : String)
  /-- Gets a guard for a task. -/
  | track (holder : Nat)
  /-- Drops a guard. -/
  | drop (holder : Nat)
  | readStats (backend : String)
  | readTaskErrors (code : String)
  | readCallErrors (backend code : String)
  /-- Reads the number of active tasks, or has all metrics written down. -/
  | look

/-- What a turn does to metrics. -/
def Metrics.perform (m : Metrics) : MetricsTurn → Metrics
  | .call backend elapsed outcome => m.recordCall backend elapsed outcome
  | .taskError code => m.recordTaskError code
  | .track _ => m.track
  | .drop _ => m.untrack
  | .readStats backend => (m.readStats backend).1
  | .readTaskErrors code => (m.readTaskErrors code).1
  | .readCallErrors backend code => (m.readCallErrors backend code).1
  | .look => m

/-- Turns one after another. -/
def Metrics.performAll (m : Metrics) (turns : List MetricsTurn) : Metrics :=
  turns.foldl Metrics.perform m

/-- Metrics, and who holds guards. -/
structure Metered where
  metrics : Metrics := {}
  /-- The holders of the guards that have not been dropped; who holds two is there twice. -/
  guards : List Nat := []

namespace Metered

/-- One turn; a guard that nobody holds is not dropped. -/
def step (w : Metered) (t : MetricsTurn) : Metered :=
  match t with
  | .track holder => { metrics := w.metrics.perform t, guards := holder :: w.guards }
  | .drop holder =>
    if holder ∈ w.guards then
      { metrics := w.metrics.perform t, guards := w.guards.erase holder }
    else w
  | _ => { w with metrics := w.metrics.perform t }

/-- Turns one after another. -/
def run (w : Metered) (turns : List MetricsTurn) : Metered := turns.foldl step w

end Metered

/-! ### What has been recorded -/

namespace MetricsTurn

/-- The outcome of a call of a backend, if one is recorded. -/
def outcome? (backend : String) : MetricsTurn → Option (Except CallError Response)
  | .call b _ outcome => if b = backend then some outcome else none
  | _ => none

/-- A turn gets or drops a guard of a holder. -/
def isGuardOf (holder : Nat) : MetricsTurn → Bool
  | .track h | .drop h => h = holder
  | _ => false

/-- The code of a failed task, if one is recorded. -/
def code? : MetricsTurn → Option String
  | .taskError code => some code
  | _ => none

end MetricsTurn

/-- How a call has failed, if it has. -/
def failureOf? : Except CallError Response → Option CallError
  | .ok _ => none
  | .error e => some e

/-- The replies among outcomes of calls. -/
def repliesAmong (outcomes : List (Except CallError Response)) : List Response :=
  outcomes.filterMap Except.toOption

/-- The failures among outcomes of calls. -/
def failuresAmong (outcomes : List (Except CallError Response)) : List CallError :=
  outcomes.filterMap failureOf?

/-- The outcomes of the calls of a backend that are recorded. -/
def outcomesOf (turns : List MetricsTurn) (backend : String) : List (Except CallError Response) :=
  turns.filterMap (MetricsTurn.outcome? backend)

/-- The codes of the failed tasks that are recorded. -/
def codesOf (turns : List MetricsTurn) : List String := turns.filterMap MetricsTurn.code?

@[simp] theorem repliesAmong_ok (outcomes : List (Except CallError Response))
    (response : Response) :
    repliesAmong (outcomes ++ [.ok response]) = repliesAmong outcomes ++ [response] :=
  List.filterMap_append

@[simp] theorem repliesAmong_error (outcomes : List (Except CallError Response)) (e : CallError) :
    repliesAmong (outcomes ++ [.error e]) = repliesAmong outcomes :=
  List.filterMap_append.trans (List.append_nil _)

@[simp] theorem failuresAmong_ok (outcomes : List (Except CallError Response))
    (response : Response) :
    failuresAmong (outcomes ++ [.ok response]) = failuresAmong outcomes :=
  List.filterMap_append.trans (List.append_nil _)

@[simp] theorem failuresAmong_error (outcomes : List (Except CallError Response)) (e : CallError) :
    failuresAmong (outcomes ++ [.error e]) = failuresAmong outcomes ++ [e] :=
  List.filterMap_append

/-- A call either gets a reply or fails. -/
theorem length_outcomes (outcomes : List (Except CallError Response)) :
    outcomes.length = (repliesAmong outcomes).length + (failuresAmong outcomes).length := by
  induction outcomes using List.reverseRecOn with
  | nil => rfl
  | append_singleton outcomes outcome ih =>
    cases outcome with
    | ok response => simp [ih]; omega
    | error e => simp [ih]; omega

theorem outcomesOf_concat (turns : List MetricsTurn) (t : MetricsTurn) (backend : String) :
    outcomesOf (turns ++ [t]) backend
      = outcomesOf turns backend ++ (t.outcome? backend).toList := by
  rw [outcomesOf, List.filterMap_append]
  cases h : t.outcome? backend <;> simp [outcomesOf, h]

theorem codesOf_concat (turns : List MetricsTurn) (t : MetricsTurn) :
    codesOf (turns ++ [t]) = codesOf turns ++ t.code?.toList := by
  rw [codesOf, List.filterMap_append]
  cases h : t.code? <;> simp [codesOf, h]

/-! ### Every counter counts its part -/

namespace Metrics

/-- The counters of a backend count the outcomes of its calls. -/
structure TalliedFor (m : Metrics) (b : String) (outcomes : List (Except CallError Response)) :
    Prop where
  successes : m.calls.value b okLabel = (repliesAmong outcomes).length % Counters.bound
  failures : m.calls.value b errorLabel = (failuresAmong outcomes).length % Counters.bound
  errors : ∀ code, m.callErrors.value b code
    = ((failuresAmong outcomes).map CallError.code).count code % Counters.bound
  latencies : (m.latenciesOf b).count = outcomes.length % Counters.bound
  prompt : m.tokens.value b promptLabel
    = ((repliesAmong outcomes).map fun r => r.usage.prompt).sum % Counters.bound
  completion : m.tokens.value b completionLabel
    = ((repliesAmong outcomes).map fun r => r.usage.completion).sum % Counters.bound

/-- Every counter counts its part of what has been recorded. -/
structure Tallied (m : Metrics) (turns : List MetricsTurn) : Prop where
  backends : ∀ b, m.TalliedFor b (outcomesOf turns b)
  tasks : ∀ code, m.taskErrors.value code = (codesOf turns).count code % Counters.bound

theorem tallied_empty : Tallied {} [] where
  backends _ := ⟨rfl, rfl, fun _ => rfl, rfl, rfl, rfl⟩
  tasks _ := rfl

@[simp] theorem okLabel_ne : okLabel ≠ errorLabel := by decide

@[simp] theorem promptLabel_ne : promptLabel ≠ completionLabel := by decide

theorem mod_lt_bound (n : Nat) : n % Counters.bound < Counters.bound := Nat.mod_lt _ (by decide)

variable {m m' : Metrics} {b backend : String} {outcomes : List (Except CallError Response)}

theorem latenciesOf_recordCall (m : Metrics) (backend other : String) (elapsed : Duration)
    (outcome : Except CallError Response) :
    (m.recordCall backend elapsed outcome).latenciesOf other
      = if other = backend then (m.latenciesOf backend).observe elapsed
        else m.latenciesOf other := by
  have h : (m.recordCall backend elapsed outcome).latencies
      = m.latencies.insert backend ((m.latenciesOf backend).observe elapsed) := by
    cases outcome <;> rfl
  rw [latenciesOf, h, Table.get?_insert]
  split <;> rfl

namespace TalliedFor

/-- What reads as before counts as before. -/
theorem of_same (h : m.TalliedFor b outcomes)
    (hcalls : ∀ l, m'.calls.value b l = m.calls.value b l)
    (herrors : ∀ l, m'.callErrors.value b l = m.callErrors.value b l)
    (hlatencies : m'.latenciesOf b = m.latenciesOf b)
    (htokens : ∀ l, m'.tokens.value b l = m.tokens.value b l) : m'.TalliedFor b outcomes where
  successes := (hcalls _).trans h.successes
  failures := (hcalls _).trans h.failures
  errors code := (herrors code).trans (h.errors code)
  latencies := hlatencies ▸ h.latencies
  prompt := (htokens _).trans h.prompt
  completion := (htokens _).trans h.completion

theorem of_eq (h : m.TalliedFor b outcomes) (hcalls : m'.calls = m.calls)
    (herrors : m'.callErrors = m.callErrors) (hlatencies : m'.latencies = m.latencies)
    (htokens : m'.tokens = m.tokens) : m'.TalliedFor b outcomes := by
  refine h.of_same (fun _ => by rw [hcalls]) (fun _ => by rw [herrors]) ?_
    fun _ => by rw [htokens]
  rw [latenciesOf, latenciesOf, hlatencies]

/-- A reply is counted as a call, and with its tokens. -/
theorem recordReply (h : m.TalliedFor b outcomes) (elapsed : Duration) (response : Response) :
    (m.recordCall b elapsed (.ok response)).TalliedFor b (outcomes ++ [.ok response]) where
  successes := by simp [recordCall, CounterGrid.value_add, h.successes]
  failures := by simp [recordCall, CounterGrid.value_add, h.failures, okLabel_ne.symm]
  errors := by simpa [recordCall] using h.errors
  latencies := by simp [latenciesOf_recordCall, Latencies.observe, h.latencies]
  prompt := by simp [recordCall, CounterGrid.value_add, h.prompt]
  completion := by
    simp [recordCall, CounterGrid.value_add, h.completion, promptLabel_ne.symm]

/-- A failure is counted as a call, and under its code. -/
theorem recordFailure (h : m.TalliedFor b outcomes) (elapsed : Duration) (e : CallError) :
    (m.recordCall b elapsed (.error e)).TalliedFor b (outcomes ++ [.error e]) where
  successes := by simp [recordCall, CounterGrid.value_add, h.successes]
  failures := by simp [recordCall, CounterGrid.value_add, h.failures]
  errors code := by
    by_cases hcode : code = e.code
    · simp [recordCall, CounterGrid.value_add, h.errors, hcode]
    · simp [recordCall, CounterGrid.value_add, h.errors, hcode, Ne.symm hcode]
  latencies := by simp [latenciesOf_recordCall, Latencies.observe, h.latencies]
  prompt := by simpa [recordCall] using h.prompt
  completion := by simpa [recordCall] using h.completion

/-- A call of another backend is not counted. -/
theorem recordElsewhere (h : m.TalliedFor b outcomes) (hb : b ≠ backend) (elapsed : Duration)
    (outcome : Except CallError Response) :
    (m.recordCall backend elapsed outcome).TalliedFor b outcomes := by
  refine h.of_same ?_ ?_ ?_ ?_
  · cases outcome <;> simp [recordCall, CounterGrid.value_add, hb]
  · cases outcome <;> simp [recordCall, CounterGrid.value_add, hb]
  · rw [latenciesOf_recordCall, if_neg hb]
  · cases outcome <;> simp [recordCall, CounterGrid.value_add, hb]

/-- Reading the totals of a backend changes none of them. -/
theorem readStats (h : m.TalliedFor b outcomes) {read : List (Except CallError Response)}
    (hread : m.TalliedFor backend read) : (m.readStats backend).1.TalliedFor b outcomes := by
  refine h.of_same (fun l => ?_) (fun _ => rfl) ?_ fun l => ?_
  · exact CounterGrid.value_add_zero_twice (hread.successes ▸ mod_lt_bound _)
      (hread.failures ▸ mod_lt_bound _) b l
  · -- the latencies of the backend are put where they are already, or made empty
    show ((m.latencies.insert backend (m.latenciesOf backend)).get? b).getD {} = _
    rw [Table.get?_insert]
    split
    · next heq => rw [heq]; rfl
    · rfl
  · exact CounterGrid.value_add_zero_twice (hread.prompt ▸ mod_lt_bound _)
      (hread.completion ▸ mod_lt_bound _) b l

/-- Nor does reading the number of its calls that have failed with a code. -/
theorem readCallErrors (h : m.TalliedFor b outcomes) {read : List (Except CallError Response)}
    (hread : m.TalliedFor backend read) (code : String) :
    (m.readCallErrors backend code).1.TalliedFor b outcomes := by
  refine h.of_same (fun _ => rfl) (fun l => ?_) rfl fun _ => rfl
  exact CounterGrid.value_add_zero (hread.errors code ▸ mod_lt_bound _) b l

end TalliedFor

namespace Tallied

variable {turns : List MetricsTurn} {t : MetricsTurn}

/-- A turn that records nothing. -/
theorem of_unrecorded (h : m.Tallied turns) (houtcome : ∀ b, t.outcome? b = none)
    (hcode : t.code? = none) (hbackends : ∀ b, m'.TalliedFor b (outcomesOf turns b))
    (htasks : ∀ l, m'.taskErrors.value l = m.taskErrors.value l) : m'.Tallied (turns ++ [t]) where
  backends b := by
    rw [outcomesOf_concat, houtcome]
    exact (List.append_nil _).symm ▸ hbackends b
  tasks code := by
    rw [htasks, h.tasks, codesOf_concat, hcode]
    simp

/-- **A turn keeps the counters in step with the history.** -/
theorem perform (h : m.Tallied turns) (t : MetricsTurn) : (m.perform t).Tallied (turns ++ [t]) := by
  cases t with
  | call backend elapsed outcome =>
    refine ⟨fun b => ?_, fun code => ?_⟩
    · -- the outcome is one of the backend of the call, and of no other one
      rw [outcomesOf_concat]
      by_cases hb : b = backend
      · subst hb
        rw [MetricsTurn.outcome?, if_pos rfl]
        cases outcome with
        | ok response => exact (h.backends b).recordReply elapsed response
        | error e => exact (h.backends b).recordFailure elapsed e
      · rw [MetricsTurn.outcome?, if_neg (Ne.symm hb)]
        exact (List.append_nil _).symm ▸ (h.backends b).recordElsewhere hb elapsed outcome
    · have htasks : (m.recordCall backend elapsed outcome).taskErrors = m.taskErrors := by
        cases outcome <;> rfl
      rw [codesOf_concat, Metrics.perform, htasks, h.tasks]
      simp [MetricsTurn.code?]
  | taskError code =>
    refine ⟨fun b => ?_, fun other => ?_⟩
    · rw [outcomesOf_concat]
      exact (List.append_nil _).symm ▸ (h.backends b).of_eq rfl rfl rfl rfl
    · rw [codesOf_concat]
      show (m.taskErrors.add code 1).value other = _
      rw [Counters.value_add]
      by_cases hother : other = code
      · simp [hother, h.tasks, MetricsTurn.code?]
      · simp [hother, h.tasks, Ne.symm hother, MetricsTurn.code?]
  | track holder =>
    exact h.of_unrecorded (fun _ => rfl) rfl (fun b => (h.backends b).of_eq rfl rfl rfl rfl)
      fun _ => rfl
  | drop holder =>
    exact h.of_unrecorded (fun _ => rfl) rfl (fun b => (h.backends b).of_eq rfl rfl rfl rfl)
      fun _ => rfl
  | readStats backend =>
    exact h.of_unrecorded (fun _ => rfl) rfl
      (fun b => (h.backends b).readStats (h.backends backend)) fun _ => rfl
  | readTaskErrors code =>
    refine h.of_unrecorded (fun _ => rfl) rfl (fun b => (h.backends b).of_eq rfl rfl rfl rfl)
      fun l => ?_
    show (m.taskErrors.add code 0).value l = _
    rw [Counters.value_add]
    split
    · next heq => rw [heq, h.tasks, Nat.add_zero, Nat.mod_mod]
    · rfl
  | readCallErrors backend code =>
    exact h.of_unrecorded (fun _ => rfl) rfl
      (fun b => (h.backends b).readCallErrors (h.backends backend) code) fun _ => rfl
  | look => exact h.of_unrecorded (fun _ => rfl) rfl (fun b => h.backends b) fun _ => rfl

/-- A guard that nobody holds is dropped by nobody. -/
theorem undropped (h : m.Tallied turns) (holder : Nat) : m.Tallied (turns ++ [.drop holder]) :=
  h.of_unrecorded (fun _ => rfl) rfl (fun b => h.backends b) fun _ => rfl

end Tallied

end Metrics

/-! ### Runs -/

namespace Metered

variable {w : Metered} {turns : List MetricsTurn}

theorem run_concat (w : Metered) (turns : List MetricsTurn) (t : MetricsTurn) :
    w.run (turns ++ [t]) = (w.run turns).step t := by
  rw [run, List.foldl_append]
  rfl

/-! #### The guards of one holder -/

theorem count_guards_step_of_ne {holder : Nat} {t : MetricsTurn} (h : t.isGuardOf holder = false)
    (w : Metered) : (w.step t).guards.count holder = w.guards.count holder := by
  cases t with
  | track other =>
    have hne : other ≠ holder := by simpa [MetricsTurn.isGuardOf] using h
    exact List.count_cons_of_ne hne
  | drop other =>
    have hne : other ≠ holder := by simpa [MetricsTurn.isGuardOf] using h
    rw [step]
    split
    · exact List.count_erase_of_ne hne.symm
    · rfl
  | _ => rfl

theorem count_guards_step {holder : Nat} {w w' : Metered}
    (hw : w.guards.count holder = w'.guards.count holder) {t : MetricsTurn}
    (h : t.isGuardOf holder = true) :
    (w.step t).guards.count holder = (w'.step t).guards.count holder := by
  cases t with
  | track other =>
    obtain rfl : other = holder := by simpa [MetricsTurn.isGuardOf] using h
    show List.count other (other :: w.guards) = List.count other (other :: w'.guards)
    rw [List.count_cons_self, List.count_cons_self, hw]
  | drop other =>
    obtain rfl : other = holder := by simpa [MetricsTurn.isGuardOf] using h
    have hcount (w : Metered) : (w.step (.drop other)).guards.count other
        = w.guards.count other - 1 := by
      rw [step]
      split
      · exact List.count_erase_self
      · next hmem => rw [List.count_eq_zero_of_not_mem hmem]
    rw [hcount, hcount, hw]
  | _ => cases h

/-- The guards of a holder are up to the turns that get or drop them. -/
theorem count_guards_run (holder : Nat) {w w' : Metered}
    (hw : w.guards.count holder = w'.guards.count holder) (turns : List MetricsTurn) :
    (w.run turns).guards.count holder
      = (w'.run (turns.filter (MetricsTurn.isGuardOf holder))).guards.count holder := by
  induction turns generalizing w w' with
  | nil => exact hw
  | cons t turns ih =>
    show ((w.step t).run turns).guards.count holder = _
    cases h : t.isGuardOf holder with
    | true =>
      rw [List.filter_cons_of_pos h]
      exact ih (count_guards_step hw h)
    | false =>
      rw [List.filter_cons_of_neg (by simp [h])]
      exact ih ((count_guards_step_of_ne h w).trans hw)

/-- The counters are in step with the history, and the active tasks are the guards. -/
structure Sound (w : Metered) (turns : List MetricsTurn) : Prop where
  tallied : w.metrics.Tallied turns
  active : w.metrics.active = w.guards.length

theorem sound_empty : Sound {} [] := ⟨Metrics.tallied_empty, rfl⟩

theorem Sound.step (h : w.Sound turns) (t : MetricsTurn) : (w.step t).Sound (turns ++ [t]) := by
  have hkept (t : MetricsTurn) (hactive : (w.metrics.perform t).active = w.metrics.active) :
      Sound { w with metrics := w.metrics.perform t } (turns ++ [t]) :=
    ⟨h.tallied.perform t, hactive.trans h.active⟩
  cases t with
  | track holder =>
    refine ⟨h.tallied.perform (.track holder), ?_⟩
    show w.metrics.active + 1 = ((holder :: w.guards).length : Int)
    rw [h.active, List.length_cons, Int.natCast_succ]
  | drop holder =>
    -- the gauge goes down only together with the guards
    rw [Metered.step]
    split
    · next hmem =>
      refine ⟨h.tallied.perform (.drop holder), ?_⟩
      show w.metrics.active - 1 = ((w.guards.erase holder).length : Int)
      have := List.length_pos_of_mem hmem
      rw [h.active, List.length_erase_of_mem hmem]
      omega
    · exact ⟨h.tallied.undropped holder, h.active⟩
  | call backend elapsed outcome => exact hkept _ (by cases outcome <;> rfl)
  | taskError code => exact hkept _ rfl
  | readStats backend => exact hkept _ rfl
  | readTaskErrors code => exact hkept _ rfl
  | readCallErrors backend code => exact hkept _ rfl
  | look => exact hkept _ rfl

theorem sound_run (turns : List MetricsTurn) : (({} : Metered).run turns).Sound turns := by
  induction turns using List.reverseRecOn with
  | nil => exact sound_empty
  | append_singleton turns t ih =>
    rw [run_concat]
    exact ih.step t

/-- What is read of metrics agrees with what has been recorded. -/
structure AddUp (w : Metered) (turns : List MetricsTurn) : Prop where
  total : ∀ b, (w.metrics.readStats b).2.calls
    = (w.metrics.readStats b).2.successes + (w.metrics.readStats b).2.failures
  calls : ∀ b, Counters.Reads (w.metrics.readStats b).2.calls (outcomesOf turns b).length
  successes : ∀ b, Counters.Reads (w.metrics.readStats b).2.successes
    (repliesAmong (outcomesOf turns b)).length
  failures : ∀ b, Counters.Reads (w.metrics.readStats b).2.failures
    (failuresAmong (outcomesOf turns b)).length
  /-- The failed calls of a backend are those of all codes. -/
  errors : ∀ b (codes : Finset String), (∀ e ∈ failuresAmong (outcomesOf turns b), e.code ∈ codes) →
    Counters.Reads (∑ code ∈ codes, (w.metrics.readCallErrors b code).2)
      (failuresAmong (outcomesOf turns b)).length
  prompt : ∀ b, (w.metrics.readStats b).2.promptTokens
    = ((repliesAmong (outcomesOf turns b)).map fun r => r.usage.prompt).sum % Counters.bound
  completion : ∀ b, (w.metrics.readStats b).2.completionTokens
    = ((repliesAmong (outcomesOf turns b)).map fun r => r.usage.completion).sum % Counters.bound
  /-- The failed tasks are those of all codes. -/
  tasks : ∀ codes : Finset String, (∀ code ∈ codesOf turns, code ∈ codes) →
    Counters.Reads (∑ code ∈ codes, (w.metrics.readTaskErrors code).2) (codesOf turns).length
  active : w.metrics.active = w.guards.length

/-- What is counted under each label adds up to all that is counted. -/
theorem reads_sum_count {l : List String} {f : String → Nat}
    (hf : ∀ label, f label = l.count label % Counters.bound) {labels : Finset String}
    (hall : ∀ label ∈ l, label ∈ labels) :
    Counters.Reads (∑ label ∈ labels, f label) l.length := by
  have hsum : ∑ label ∈ labels, l.count label = l.length := by
    simpa using Multiset.sum_count_eq_card (m := (l : Multiset String)) hall
  rw [← hsum]
  exact Counters.Reads.sum fun label _ => hf label ▸ Counters.reads_mod _

/-- **Metrics add up**, over any run. -/
theorem addUp_run (turns : List MetricsTurn) : (({} : Metered).run turns).AddUp turns := by
  obtain ⟨⟨hbackends, htasks⟩, hactive⟩ := sound_run turns
  have hsuccesses (b : String) := (hbackends b).successes ▸ Counters.reads_mod _
  have hfailures (b : String) := (hbackends b).failures ▸ Counters.reads_mod _
  exact {
    total := fun b => rfl
    calls := fun b => length_outcomes _ ▸ (hsuccesses b).add (hfailures b)
    successes := hsuccesses
    failures := hfailures
    errors := fun b codes hall => by
      have hall' : ∀ code ∈ (failuresAmong (outcomesOf turns b)).map CallError.code,
          code ∈ codes := by
        intro code hcode
        obtain ⟨e, he, rfl⟩ := List.mem_map.mp hcode
        exact hall e he
      have := reads_sum_count (hbackends b).errors hall'
      rwa [List.length_map] at this
    prompt := fun b => (hbackends b).prompt
    completion := fun b => (hbackends b).completion
    tasks := fun codes hall => reads_sum_count htasks hall
    active := hactive }

end Metered

end Dispatch
