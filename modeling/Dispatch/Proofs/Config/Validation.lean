/-
Dispatch/Proofs/Config/Validation.lean

What a valid configuration says, and what is wrong with one that is not.

Validation is a sequence of checks of which the first that fails is reported.  It succeeds exactly
if every check does (`andThen_eq_ok_iff`, `checkAll_eq_ok_iff`), and `Config.Valid` lists what the
checks then say of the configuration, one field for each part of it (`Config.validate_eq_ok_iff`).
A fault that is reported is a fault of the configuration (`Config.faultOf_of_validate`).
-/
import Mathlib.Data.List.Nodup
import Dispatch.Config.Validation

namespace Dispatch

/-! ### Checks one after another -/

section

variable {ε α : Type}

/-- Two checks in a row succeed if both do. -/
theorem andThen_eq_ok_iff {x : Except ε Unit} {f : Unit → Except ε Unit} :
    x >>= f = .ok () ↔ x = .ok () ∧ f () = .ok () := by
  cases x with
  | error e => exact ⟨nofun, fun h => nomatch h.1⟩
  | ok u => exact ⟨fun h => ⟨rfl, h⟩, fun h => h.2⟩

theorem require_eq_ok_iff {condition : Bool} {fault : ConfigFault} :
    require condition fault = .ok () ↔ condition = true := by
  cases condition with
  | true => exact iff_of_true rfl rfl
  | false => exact iff_of_false nofun nofun

theorem checkAll_eq_ok_iff {check : α → Except ConfigFault Unit} {l : List α} :
    checkAll check l = .ok () ↔ ∀ a ∈ l, check a = .ok () := by
  induction l with
  | nil => simp [checkAll]
  | cons a l ih => rw [checkAll, andThen_eq_ok_iff, ih, List.forall_mem_cons]

/-- A list without a repeated name. -/
theorem firstRepeated?_eq_none_iff {seen l : List String} :
    firstRepeated? seen l = none ↔ l.Nodup ∧ ∀ name ∈ l, name ∉ seen := by
  induction l generalizing seen with
  | nil => simp [firstRepeated?]
  | cons name l ih =>
    unfold firstRepeated?
    split
    · next hseen => simp [hseen]
    · next hseen =>
      rw [ih, List.nodup_cons]
      constructor
      · rintro ⟨hnodup, hl⟩
        refine ⟨⟨fun hmem => hl name hmem List.mem_cons_self, hnodup⟩, fun other hother => ?_⟩
        rcases List.mem_cons.mp hother with rfl | hother
        · exact hseen
        · exact fun hmem => hl other hother (List.mem_cons_of_mem _ hmem)
      · rintro ⟨⟨hname, hnodup⟩, hl⟩
        refine ⟨hnodup, fun other hother hmem => ?_⟩
        rcases List.mem_cons.mp hmem with rfl | hmem
        · exact hname hother
        · exact hl other (List.mem_cons_of_mem _ hother) hmem

/-- A sequence of checks fails where one of them does. -/
theorem andThen_eq_error_iff {x : Except ε Unit} {f : Unit → Except ε Unit} {e : ε} :
    x >>= f = .error e ↔ x = .error e ∨ x = .ok () ∧ f () = .error e := by
  cases x with
  | error e' => exact ⟨fun h => Or.inl h, fun h => h.resolve_right nofun⟩
  | ok u => exact ⟨fun h => Or.inr ⟨rfl, h⟩, fun h => (h.resolve_left nofun).2⟩

theorem require_eq_error_iff {condition : Bool} {fault f : ConfigFault} :
    require condition fault = .error f ↔ condition = false ∧ fault = f := by
  cases condition with
  | true => exact iff_of_false nofun nofun
  | false => exact ⟨fun h => ⟨rfl, Except.error.inj h⟩, fun h => congrArg Except.error h.2⟩

theorem exists_of_checkAll_eq_error {check : α → Except ConfigFault Unit} {l : List α}
    {f : ConfigFault} (h : checkAll check l = .error f) : ∃ a ∈ l, check a = .error f := by
  induction l with
  | nil => cases h
  | cons a l ih =>
    rw [checkAll, andThen_eq_error_iff] at h
    rcases h with h | ⟨-, h⟩
    · exact ⟨a, List.mem_cons_self, h⟩
    · obtain ⟨b, hb, hf⟩ := ih h
      exact ⟨b, List.mem_cons_of_mem _ hb, hf⟩

end

/-! ### Parts of a configuration -/

/-- Breaker settings that make sense. -/
structure BreakerSettings.Valid (b : BreakerSettings) : Prop where
  threshold_ne_zero : b.failureThreshold ≠ 0
  cooldown_pos : 0 < b.cooldown.nanos
  window_pos : 0 < b.window.nanos

/-- Retry settings that make sense. -/
structure RetrySettings.Valid (r : RetrySettings) : Prop where
  attempts_ne_zero : r.maxAttempts ≠ 0
  delays_le : r.baseDelay ≤ r.maxDelay
  deadline_pos : 0 < r.deadline.nanos

/-- Limit settings that make sense. -/
structure LimitSettings.Valid (l : LimitSettings) : Prop where
  capacity_ne_zero : l.capacity ≠ 0
  rate_finite : l.refillRate.isFinite = true
  rate_pos : 0.0 < l.refillRate

/-- What is said of a backend makes sense. -/
structure BackendConfig.Valid (b : BackendConfig) : Prop where
  tokens_ne_zero : b.capabilities.maxTokens ≠ 0
  breaker : ∀ s, b.breaker = some s → s.Valid

theorem Duration.isZero_eq_false_iff {d : Duration} : d.isZero = false ↔ 0 < d.nanos := by
  simp [Duration.isZero, Nat.pos_iff_ne_zero]

namespace Routing

theorem mem_ruleList_iff {r : Routing} {kind : TaskKind} {names : List String} :
    (kind, names) ∈ r.ruleList ↔ r.rules kind = some names := by
  unfold ruleList
  rw [List.mem_filterMap]
  constructor
  · rintro ⟨k, -, hk⟩
    obtain ⟨l, hl, heq⟩ := Option.map_eq_some_iff.mp hk
    cases heq
    exact hl
  · intro h
    exact ⟨kind, TaskKind.mem_byName kind, by rw [h]; rfl⟩

/-- Rules that name somebody, and nobody twice. -/
def RulesValid (r : Routing) : Prop :=
  ∀ kind names, r.rules kind = some names → names ≠ [] ∧ names.Nodup

end Routing

namespace Config

theorem validateRule_eq_ok_iff {rule : TaskKind × List String} :
    validateRule rule = .ok () ↔ rule.2 ≠ [] ∧ rule.2.Nodup := by
  have hrepeated : firstRepeated? [] rule.2 = none ↔ rule.2.Nodup := by
    rw [firstRepeated?_eq_none_iff]
    exact and_iff_left fun _ _ => List.not_mem_nil
  rw [validateRule, andThen_eq_ok_iff, require_eq_ok_iff, ← hrepeated]
  refine and_congr (by simp) ?_
  cases firstRepeated? [] rule.2 with
  | none => exact iff_of_true rfl rfl
  | some name => exact iff_of_false nofun nofun

theorem validateBreaker_eq_ok_iff {path : String} {b : BreakerSettings} :
    validateBreaker path b = .ok () ↔ b.Valid := by
  rw [validateBreaker, andThen_eq_ok_iff, require_eq_ok_iff, require_eq_ok_iff, Bool.and_eq_true,
    Bool.not_eq_true', Bool.not_eq_true', Duration.isZero_eq_false_iff,
    Duration.isZero_eq_false_iff, decide_eq_true_iff]
  exact ⟨fun ⟨ht, hc, hw⟩ => ⟨ht, hc, hw⟩, fun ⟨ht, hc, hw⟩ => ⟨ht, hc, hw⟩⟩

theorem validateBackend_eq_ok_iff {entry : String × BackendConfig} :
    validateBackend entry = .ok () ↔ entry.2.Valid := by
  rw [validateBackend, andThen_eq_ok_iff, require_eq_ok_iff, decide_eq_true_iff]
  cases hb : entry.2.breaker with
  | none => exact ⟨fun h => ⟨h.1, fun s hs => absurd (hb.symm.trans hs) nofun⟩, fun h => ⟨h.1, rfl⟩⟩
  | some b =>
    simp only [validateBreaker_eq_ok_iff]
    refine ⟨fun h => ⟨h.1, fun s hs => ?_⟩, fun h => ⟨h.1, h.2 b hb⟩⟩
    obtain rfl := Option.some.inj (hb.symm.trans hs)
    exact h.2

theorem validateRetry_eq_ok_iff {r : RetrySettings} : validateRetry r = .ok () ↔ r.Valid := by
  rw [validateRetry, andThen_eq_ok_iff, andThen_eq_ok_iff, require_eq_ok_iff, require_eq_ok_iff,
    require_eq_ok_iff, decide_eq_true_iff, decide_eq_true_iff, Bool.not_eq_true',
    Duration.isZero_eq_false_iff]
  exact ⟨fun ⟨ha, hd, hl⟩ => ⟨ha, hd, hl⟩, fun ⟨ha, hd, hl⟩ => ⟨ha, hd, hl⟩⟩

theorem validateLimit_eq_ok_iff {l : LimitSettings} : validateLimit l = .ok () ↔ l.Valid := by
  rw [validateLimit, andThen_eq_ok_iff, require_eq_ok_iff, require_eq_ok_iff, decide_eq_true_iff,
    Bool.and_eq_true, decide_eq_true_iff]
  exact ⟨fun ⟨hc, hf, hp⟩ => ⟨hc, hf, hp⟩, fun ⟨hc, hf, hp⟩ => ⟨hc, hf, hp⟩⟩

/-- A configuration that makes sense. -/
structure Valid (c : Config) : Prop where
  default_not_blank : isBlankText c.routing.defaultBackend = false
  rules : c.routing.RulesValid
  declared : ∀ name ∈ c.routedNames, c.declares name = true
  breaker : c.resilience.breaker.Valid
  backends : ∀ entry ∈ c.backends.entries, entry.2.Valid
  retry : c.resilience.retry.Valid
  limit : c.resilience.limit.Valid
  timeout_pos : 0 < c.history.callTimeout.nanos

/-- **Validation accepts exactly the configurations that make sense.** -/
theorem validate_eq_ok_iff {c : Config} : c.validate = .ok () ↔ c.Valid := by
  have hrules : (∀ rule ∈ c.routing.ruleList, validateRule rule = .ok ()) ↔
      c.routing.RulesValid := by
    simp only [validateRule_eq_ok_iff]
    exact ⟨fun h kind names hk => h (kind, names) (Routing.mem_ruleList_iff.mpr hk),
      fun h rule hr => h rule.1 rule.2 (Routing.mem_ruleList_iff.mp hr)⟩
  simp only [validate, andThen_eq_ok_iff, checkAll_eq_ok_iff, require_eq_ok_iff, hrules,
    validateBreaker_eq_ok_iff, validateBackend_eq_ok_iff, validateRetry_eq_ok_iff,
    validateLimit_eq_ok_iff, Bool.not_eq_true', Duration.isZero_eq_false_iff]
  constructor
  · rintro ⟨h₁, h₂, h₃, h₄, h₅, h₆, h₇, h₈⟩
    exact ⟨h₁, h₂, h₃, h₄, h₅, h₆, h₇, h₈⟩
  · rintro ⟨h₁, h₂, h₃, h₄, h₅, h₆, h₇, h₈⟩
    exact ⟨h₁, h₂, h₃, h₄, h₅, h₆, h₇, h₈⟩

/-! ### Faults -/

/-- All breaker settings, the common ones and those of backends. -/
def breakerSettings (c : Config) : List BreakerSettings :=
  c.resilience.breaker :: c.backends.values.filterMap BackendConfig.breaker

theorem mem_breakerSettings_iff {c : Config} {s : BreakerSettings} :
    s ∈ c.breakerSettings ↔
      s = c.resilience.breaker ∨ ∃ e ∈ c.backends.entries, e.2.breaker = some s := by
  rw [breakerSettings, List.mem_cons, List.mem_filterMap, Table.values]
  refine or_congr_right ⟨?_, ?_⟩
  · rintro ⟨_, hmem, hs⟩
    obtain ⟨e, he, rfl⟩ := List.mem_map.mp hmem
    exact ⟨e, he, hs⟩
  · rintro ⟨e, he, hs⟩
    exact ⟨e.2, List.mem_map_of_mem he, hs⟩

/-- What a fault says of a configuration. -/
def FaultOf (c : Config) : ConfigFault → Prop
  | .defaultBackendMissing => isBlankText c.routing.defaultBackend = true
  | .emptyRule kind => c.routing.rules kind = some []
  | .repeatedInRule kind _ => ∃ names, c.routing.rules kind = some names ∧ ¬ names.Nodup
  | .undeclaredBackend name => name ∈ c.routedNames ∧ c.declares name = false
  | .thresholdNotPositive _ => ∃ b ∈ c.breakerSettings, b.failureThreshold = 0
  | .breakerTimesNotPositive _ =>
    ∃ b ∈ c.breakerSettings, ¬ (0 < b.cooldown.nanos ∧ 0 < b.window.nanos)
  | .maxTokensNotPositive name =>
    ∃ b, c.backends.get? name = some b ∧ b.capabilities.maxTokens = 0
  | .noAttempts => c.resilience.retry.maxAttempts = 0
  | .baseDelayExceedsMax => ¬ c.resilience.retry.baseDelay ≤ c.resilience.retry.maxDelay
  | .deadlineNotPositive => ¬ 0 < c.resilience.retry.deadline.nanos
  | .capacityNotPositive => c.resilience.limit.capacity = 0
  | .refillRateNotPositive =>
    ¬ (c.resilience.limit.refillRate.isFinite = true ∧ 0.0 < c.resilience.limit.refillRate)
  | .callTimeoutNotPositive => ¬ 0 < c.history.callTimeout.nanos

variable {c : Config} {f : ConfigFault}

theorem faultOf_of_validateRule {rule : TaskKind × List String}
    (hrule : c.routing.rules rule.1 = some rule.2) (h : validateRule rule = .error f) :
    c.FaultOf f := by
  rw [validateRule, andThen_eq_error_iff, require_eq_error_iff] at h
  rcases h with ⟨hempty, rfl⟩ | ⟨-, h⟩
  · have hnil : rule.2 = [] := by simpa using hempty
    exact hrule.trans (congrArg some hnil)
  · split at h
    · next name hname =>
      cases h
      refine ⟨rule.2, hrule, fun hnodup => ?_⟩
      rw [firstRepeated?_eq_none_iff.mpr ⟨hnodup, fun _ _ => List.not_mem_nil⟩] at hname
      cases hname
    · cases h

theorem faultOf_of_validateBreaker {path : String} {b : BreakerSettings}
    (hb : b ∈ c.breakerSettings) (h : validateBreaker path b = .error f) : c.FaultOf f := by
  rw [validateBreaker, andThen_eq_error_iff, require_eq_error_iff, require_eq_error_iff] at h
  rcases h with ⟨hthreshold, rfl⟩ | ⟨-, htimes, rfl⟩
  · exact ⟨b, hb, by simpa using hthreshold⟩
  · refine ⟨b, hb, fun ⟨hc, hw⟩ => ?_⟩
    simp [Duration.isZero_eq_false_iff.mpr hc, Duration.isZero_eq_false_iff.mpr hw] at htimes

theorem faultOf_of_validateBackend {entry : String × BackendConfig}
    (hentry : entry ∈ c.backends.entries) (h : validateBackend entry = .error f) :
    c.FaultOf f := by
  rw [validateBackend, andThen_eq_error_iff, require_eq_error_iff] at h
  rcases h with ⟨htokens, rfl⟩ | ⟨-, h⟩
  · exact ⟨entry.2, c.backends.get?_eq_some_iff_mem.mpr hentry, by simpa using htokens⟩
  · split at h
    · cases h
    · next b hb =>
      exact faultOf_of_validateBreaker
        (mem_breakerSettings_iff.mpr (Or.inr ⟨entry, hentry, hb⟩)) h

theorem faultOf_of_validateRetry (h : validateRetry c.resilience.retry = .error f) :
    c.FaultOf f := by
  rw [validateRetry, andThen_eq_error_iff, andThen_eq_error_iff, require_eq_error_iff,
    require_eq_error_iff, require_eq_error_iff] at h
  rcases h with ⟨hattempts, rfl⟩ | ⟨-, ⟨hdelays, rfl⟩ | ⟨-, hdeadline, rfl⟩⟩
  · simpa [FaultOf] using hattempts
  · simpa [FaultOf] using hdelays
  · simpa [FaultOf, Duration.isZero] using hdeadline

theorem faultOf_of_validateLimit (h : validateLimit c.resilience.limit = .error f) :
    c.FaultOf f := by
  rw [validateLimit, andThen_eq_error_iff, require_eq_error_iff, require_eq_error_iff] at h
  rcases h with ⟨hcapacity, rfl⟩ | ⟨-, hrate, rfl⟩
  · simpa [FaultOf] using hcapacity
  · rintro ⟨hfinite, hpos⟩
    simp [hfinite, hpos] at hrate

/-- **A fault that is reported is one.** -/
theorem faultOf_of_validate (h : c.validate = .error f) : c.FaultOf f := by
  simp only [validate, andThen_eq_error_iff, require_eq_error_iff] at h
  rcases h with ⟨hblank, rfl⟩ | ⟨-, h | ⟨-, h | ⟨-, h | ⟨-, h | ⟨-, h | ⟨-, h | ⟨-, h, rfl⟩⟩⟩⟩⟩⟩⟩
  · simpa [FaultOf] using hblank
  · obtain ⟨rule, hrule, hf⟩ := exists_of_checkAll_eq_error h
    exact faultOf_of_validateRule (Routing.mem_ruleList_iff.mp hrule) hf
  · obtain ⟨name, hname, hf⟩ := exists_of_checkAll_eq_error h
    obtain ⟨hdeclared, rfl⟩ := require_eq_error_iff.mp hf
    exact ⟨hname, hdeclared⟩
  · exact faultOf_of_validateBreaker List.mem_cons_self h
  · obtain ⟨entry, hentry, hf⟩ := exists_of_checkAll_eq_error h
    exact faultOf_of_validateBackend hentry hf
  · exact faultOf_of_validateRetry h
  · exact faultOf_of_validateLimit h
  · simpa [FaultOf, Duration.isZero] using h

end Config

end Dispatch
