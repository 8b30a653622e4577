/-
Dispatch/Proofs/Config/Loading.lean

What is loaded.

A document that has the form of a configuration is loaded exactly if two things hold of it.  It is
`Readable`: its whole numbers are written without a fraction and fit 32 bits, and its durations
parse.  And it is `Meaningful`: the names that it routes to are declared, if any are, and durations
that must be positive, or in order, are.  Both are said of the document, with the defaults of what
is left out.

Validation asks for more, but the form has already said the rest (`Formed`), so that only five of
its faults can be met (`ConfigFault.BeyondForm`).
-/
import Dispatch.Config.Load
import Dispatch.Proofs.Config.Formed
import Dispatch.Proofs.Json.Proper
import Dispatch.Proofs.Number.Positive

namespace Dispatch.Config

open Form Json

/-! ### What stands in a document -/

namespace Draft

/-- The value at the end of a path of names. -/
def at? : List String → Json → Option Json
  | [], v => some v
  | name :: path, v => (v.member? name).bind (at? path)

/-- A part of a document; what is not there says nothing. -/
def part (path : List String) (v : Json) : Json := (at? path v).getD .null

/-- What stands under some of the names of a part. -/
def present (path names : List String) (v : Json) : List Json :=
  names.filterMap fun name => at? (path ++ [name]) v

/-- The members of an object. -/
def membersOf : Json → List (String × Json)
  | .obj members => members
  | _ => []

/-- The items of an array. -/
def itemsOf : Json → List Json
  | .arr items => items
  | _ => []

/-- The declared backends, under their names. -/
def declared (v : Json) : List (String × Json) := membersOf (part ["backends"] v)

/-- All breaker settings, the common ones and those of backends. -/
def breakers (v : Json) : List Json :=
  present ["resilience"] ["breaker"] v ++ (declared v).flatMap fun e => present [] ["breaker"] e.2

/-- All whole numbers. -/
def counts (v : Json) : List Json :=
  (breakers v).flatMap (present [] ["failure_threshold"])
    ++ (declared v).flatMap (fun e => present ["capabilities"] ["max_tokens"] e.2)
    ++ present ["resilience", "retry"] ["max_attempts"] v
    ++ present ["resilience", "rate_limit"] ["capacity"] v
    ++ present ["context"] ["max_window_tokens", "reserved_response_tokens"] v

/-- All durations. -/
def times (v : Json) : List Json :=
  (breakers v).flatMap (present [] ["cooldown", "window"])
    ++ present ["resilience", "retry"] ["base_delay", "max_delay", "deadline"] v
    ++ present ["context"] ["call_timeout"] v

/-- Every name that is routed to. -/
def routed (v : Json) : List Json :=
  present ["routing"] ["default_backend"] v
    ++ (membersOf (part ["routing", "rules"] v)).flatMap fun rule => itemsOf rule.2

/-- A duration of some settings: what stands under its name, else the default. -/
def timeIn (settings : Json) (name : String) (default : Duration) : Duration :=
  ((settings.member? name).bind Duration.ofJson?).getD default

/-- Whether the times of breaker settings are positive. -/
def PositiveTimes (breaker : Json) : Prop :=
  0 < (timeIn breaker "cooldown" ({} : BreakerSettings).cooldown).nanos ∧
  0 < (timeIn breaker "window" ({} : BreakerSettings).window).nanos

/-- Whole numbers are of 32 bits, and durations parse. -/
structure Readable (v : Json) : Prop where
  counts : ∀ j ∈ counts v, IsNat32 j
  times : ∀ j ∈ times v, IsTime j

/-- Names are declared, if any are, and durations make sense. -/
structure Meaningful (v : Json) : Prop where
  declared : declared v ≠ [] → ∀ name ∈ routed v, ∃ e ∈ declared v, name = .str e.1
  breakers : ∀ breaker ∈ breakers v, PositiveTimes breaker
  delays :
    let retry := part ["resilience", "retry"] v
    timeIn retry "base_delay" ({} : RetrySettings).baseDelay
      ≤ timeIn retry "max_delay" ({} : RetrySettings).maxDelay
  deadline : 0 < (timeIn (part ["resilience", "retry"] v) "deadline"
    ({} : RetrySettings).deadline).nanos
  timeout : 0 < (timeIn (part ["context"] v) "call_timeout"
    ({} : HistorySettings).callTimeout).nanos

end Draft

end Dispatch.Config

namespace Dispatch

/-- A fault that the form does not rule out. -/
def ConfigFault.BeyondForm : ConfigFault → Prop
  | .undeclaredBackend _ | .breakerTimesNotPositive _ | .baseDelayExceedsMax
  | .deadlineNotPositive | .callTimeoutNotPositive => True
  | .defaultBackendMissing | .emptyRule _ | .repeatedInRule .. | .thresholdNotPositive _
  | .maxTokensNotPositive _ | .noAttempts | .capacityNotPositive | .refillRateNotPositive => False

end Dispatch

namespace Dispatch.Config

open Form Json Draft

variable {members : List (String × Json)} {v j : Json}

/-! ### Reading -/

theorem mem_present_iff {path names : List String} :
    j ∈ present path names v ↔ ∃ name ∈ names, at? (path ++ [name]) v = some j := List.mem_filterMap

/-- Where a part is found. -/
theorem at?_obj_iff {name : String} {path : List String} :
    at? (name :: path) (.obj members) = some j ↔
      ∃ w, Entries.lookup name members = some w ∧ at? path w = some j :=
  Option.bind_eq_some_iff

theorem at?_field_iff {name : String} :
    at? [name] (.obj members) = some j ↔ Entries.lookup name members = some j := by
  simp [at?, Json.member?]

/-- Breaker settings stand in the common part or with a backend. -/
theorem mem_breakers_iff :
    j ∈ breakers v ↔ at? ["resilience", "breaker"] v = some j ∨
      ∃ e ∈ declared v, at? ["breaker"] e.2 = some j := by
  simp [breakers, mem_present_iff]

theorem mem_counts_iff :
    j ∈ counts v ↔
      (∃ b ∈ breakers v, at? ["failure_threshold"] b = some j) ∨
      (∃ e ∈ declared v, at? ["capabilities", "max_tokens"] e.2 = some j) ∨
      at? ["resilience", "retry", "max_attempts"] v = some j ∨
      at? ["resilience", "rate_limit", "capacity"] v = some j ∨
      at? ["context", "max_window_tokens"] v = some j ∨
      at? ["context", "reserved_response_tokens"] v = some j := by
  simp [counts, mem_present_iff]

theorem mem_times_iff :
    j ∈ times v ↔
      (∃ b ∈ breakers v, at? ["cooldown"] b = some j ∨ at? ["window"] b = some j) ∨
      at? ["resilience", "retry", "base_delay"] v = some j ∨
      at? ["resilience", "retry", "max_delay"] v = some j ∨
      at? ["resilience", "retry", "deadline"] v = some j ∨
      at? ["context", "call_timeout"] v = some j := by
  simp [times, mem_present_iff, or_assoc]

/-- What is declared stands in the table of backends. -/
theorem declared_eq {bs : List (String × Json)}
    (h : Entries.lookup "backends" members = some (.obj bs)) : declared (.obj members) = bs := by
  simp [declared, part, at?, Json.member?, h, membersOf]

theorem exists_of_mem_declared {e : String × Json} (hform : DocumentForm members)
    (h : e ∈ declared (.obj members)) :
    ∃ bs, Entries.lookup "backends" members = some (.obj bs) ∧ e ∈ bs ∧ BackendsForm bs := by
  cases hlookup : Entries.lookup "backends" members with
  | none => simp [declared, part, at?, Json.member?, hlookup, membersOf] at h
  | some b =>
    obtain ⟨bs, rfl, hbs⟩ := hform.backends b hlookup
    rw [declared_eq hlookup] at h
    exact ⟨bs, rfl, h, hbs⟩

section

variable (hform : DocumentForm members) (h : DocumentReads members)

include hform h

theorem backend_of_reads {e : String × Json} (he : e ∈ declared (.obj members)) :
    ∃ ms, e.2 = .obj ms ∧ BackendForm ms ∧ BackendReads ms := by
  obtain ⟨bs, hlookup, hmem, hbs⟩ := exists_of_mem_declared hform he
  obtain ⟨-, ms, hms, hmsform⟩ := hbs e hmem
  exact ⟨ms, hms, hmsform, h.backends _ hlookup bs rfl e hmem ms hms⟩

theorem breaker_of_reads {b : Json} (hb : b ∈ breakers (.obj members)) :
    ∃ ms, b = .obj ms ∧ BreakerReads ms := by
  rcases mem_breakers_iff.mp hb with hb | ⟨e, he, hb⟩
  · obtain ⟨r, hr, hb⟩ := at?_obj_iff.mp hb
    obtain ⟨rs, rfl, hrs⟩ := hform.resilience r hr
    have hlookup := at?_field_iff.mp hb
    obtain ⟨ms, rfl, -⟩ := hrs.breaker b hlookup
    exact ⟨ms, rfl, (h.resilience _ hr rs rfl).breaker _ hlookup ms rfl⟩
  · obtain ⟨bs, hbs, hbsform, hreads⟩ := backend_of_reads hform h he
    rw [hbs] at hb
    have hlookup := at?_field_iff.mp hb
    obtain ⟨ms, rfl, -⟩ := hbsform.breaker b hlookup
    exact ⟨ms, rfl, hreads.breaker _ hlookup ms rfl⟩

theorem retry_of_reads {name : String}
    (hj : at? ["resilience", "retry", name] (.obj members) = some j) :
    ∃ ms, RetryReads ms ∧ Entries.lookup name ms = some j := by
  obtain ⟨r, hr, hj⟩ := at?_obj_iff.mp hj
  obtain ⟨rs, rfl, hrs⟩ := hform.resilience r hr
  obtain ⟨t, ht, hj⟩ := at?_obj_iff.mp hj
  obtain ⟨ms, rfl, -⟩ := hrs.retry t ht
  exact ⟨ms, (h.resilience _ hr rs rfl).retry _ ht ms rfl, at?_field_iff.mp hj⟩

theorem history_of_reads {name : String}
    (hj : at? ["context", name] (.obj members) = some j) :
    ∃ ms, HistoryReads ms ∧ Entries.lookup name ms = some j := by
  obtain ⟨t, ht, hj⟩ := at?_obj_iff.mp hj
  obtain ⟨ms, rfl, -⟩ := hform.history t ht
  exact ⟨ms, h.history _ ht ms rfl, at?_field_iff.mp hj⟩

theorem count_of_reads (hj : j ∈ counts (.obj members)) : IsNat32 j := by
  rcases mem_counts_iff.mp hj with ⟨b, hb, hj⟩ | ⟨e, he, hj⟩ | hj | hj | hj | hj
  · obtain ⟨ms, rfl, hms⟩ := breaker_of_reads hform h hb
    exact hms.threshold _ (at?_field_iff.mp hj)
  · obtain ⟨ms, hms, hmsform, hreads⟩ := backend_of_reads hform h he
    rw [hms] at hj
    obtain ⟨c, hc, hj⟩ := at?_obj_iff.mp hj
    obtain ⟨cs, rfl, -⟩ := hmsform.capabilities c hc
    exact hreads.capabilities _ hc cs rfl _ (at?_field_iff.mp hj)
  · obtain ⟨ms, hms, hlookup⟩ := retry_of_reads hform h hj
    exact hms.attempts _ hlookup
  · obtain ⟨r, hr, hj⟩ := at?_obj_iff.mp hj
    obtain ⟨rs, rfl, hrs⟩ := hform.resilience r hr
    obtain ⟨l, hl, hj⟩ := at?_obj_iff.mp hj
    obtain ⟨ms, rfl, -⟩ := hrs.limit l hl
    exact (h.resilience _ hr rs rfl).limit _ hl ms rfl _ (at?_field_iff.mp hj)
  · obtain ⟨ms, hms, hlookup⟩ := history_of_reads hform h hj
    exact hms.window _ hlookup
  · obtain ⟨ms, hms, hlookup⟩ := history_of_reads hform h hj
    exact hms.reserved _ hlookup

theorem time_of_reads (hj : j ∈ times (.obj members)) : IsTime j := by
  rcases mem_times_iff.mp hj with ⟨b, hb, hj⟩ | hj | hj | hj | hj
  · obtain ⟨ms, rfl, hms⟩ := breaker_of_reads hform h hb
    rcases hj with hj | hj
    · exact hms.cooldown _ (at?_field_iff.mp hj)
    · exact hms.window _ (at?_field_iff.mp hj)
  · obtain ⟨ms, hms, hlookup⟩ := retry_of_reads hform h hj
    exact hms.base _ hlookup
  · obtain ⟨ms, hms, hlookup⟩ := retry_of_reads hform h hj
    exact hms.max _ hlookup
  · obtain ⟨ms, hms, hlookup⟩ := retry_of_reads hform h hj
    exact hms.deadline _ hlookup
  · obtain ⟨ms, hms, hlookup⟩ := history_of_reads hform h hj
    exact hms.timeout _ hlookup

end

section

variable (h : Readable (.obj members))

include h

theorem breakerReads_of_readable {ms : List (String × Json)}
    (hms : .obj ms ∈ breakers (.obj members)) : BreakerReads ms where
  threshold j hj := h.counts j (mem_counts_iff.mpr (Or.inl ⟨_, hms, at?_field_iff.mpr hj⟩))
  cooldown j hj :=
    h.times j (mem_times_iff.mpr (Or.inl ⟨_, hms, Or.inl (at?_field_iff.mpr hj)⟩))
  window j hj :=
    h.times j (mem_times_iff.mpr (Or.inl ⟨_, hms, Or.inr (at?_field_iff.mpr hj)⟩))

theorem resilienceReads_of_readable {rs : List (String × Json)}
    (hr : Entries.lookup "resilience" members = some (.obj rs)) : ResilienceReads rs := by
  refine ⟨?_, ?_, ?_⟩
  · rintro _ hb bs rfl
    exact breakerReads_of_readable h (mem_breakers_iff.mpr
      (Or.inl (at?_obj_iff.mpr ⟨_, hr, at?_field_iff.mpr hb⟩)))
  · rintro _ ht ts rfl
    have hat {name : String} {j : Json} (hj : Entries.lookup name ts = some j) :
        at? ["resilience", "retry", name] (.obj members) = some j :=
      at?_obj_iff.mpr ⟨_, hr, at?_obj_iff.mpr ⟨_, ht, at?_field_iff.mpr hj⟩⟩
    exact ⟨fun j hj => h.counts j (mem_counts_iff.mpr (by simp [hat hj])),
      fun j hj => h.times j (mem_times_iff.mpr (by simp [hat hj])),
      fun j hj => h.times j (mem_times_iff.mpr (by simp [hat hj])),
      fun j hj => h.times j (mem_times_iff.mpr (by simp [hat hj]))⟩
  · rintro _ hl ls rfl j hj
    refine h.counts j (mem_counts_iff.mpr (Or.inr (Or.inr (Or.inr (Or.inl ?_)))))
    exact at?_obj_iff.mpr ⟨_, hr, at?_obj_iff.mpr ⟨_, hl, at?_field_iff.mpr hj⟩⟩

theorem historyReads_of_readable {hs : List (String × Json)}
    (hh : Entries.lookup "context" members = some (.obj hs)) : HistoryReads hs := by
  have hat {name : String} {j : Json} (hj : Entries.lookup name hs = some j) :
      at? ["context", name] (.obj members) = some j :=
    at?_obj_iff.mpr ⟨_, hh, at?_field_iff.mpr hj⟩
  exact ⟨fun j hj => h.counts j (mem_counts_iff.mpr (by simp [hat hj])),
    fun j hj => h.counts j (mem_counts_iff.mpr (by simp [hat hj])),
    fun j hj => h.times j (mem_times_iff.mpr (by simp [hat hj]))⟩

theorem backendReads_of_readable {e : String × Json} {ms : List (String × Json)}
    (he : e ∈ declared (.obj members)) (hms : e.2 = .obj ms) : BackendReads ms := by
  refine ⟨?_, ?_⟩
  · rintro _ hc cs rfl j hj
    refine h.counts j (mem_counts_iff.mpr (Or.inr (Or.inl ⟨e, he, ?_⟩)))
    rw [hms]
    exact at?_obj_iff.mpr ⟨_, hc, at?_field_iff.mpr hj⟩
  · rintro _ hb bs rfl
    refine breakerReads_of_readable h (mem_breakers_iff.mpr (Or.inr ⟨e, he, ?_⟩))
    rw [hms]
    exact at?_field_iff.mpr hb

end

/-- **A document of the form can be read exactly if it is readable.** -/
theorem documentReads_iff (hform : DocumentForm members) :
    DocumentReads members ↔ Readable (.obj members) := by
  constructor
  · exact fun h => ⟨fun j => count_of_reads hform h, fun j => time_of_reads hform h⟩
  · refine fun h => ⟨?_, ?_, ?_⟩
    · rintro _ hlookup bs rfl e he ms hms
      exact backendReads_of_readable h (declared_eq hlookup ▸ he) hms
    · rintro _ hr rs rfl
      exact resilienceReads_of_readable h hr
    · rintro _ hh hs rfl
      exact historyReads_of_readable h hh

/-! ### Meaning -/

/-- What was read for a duration is what stands in the document. -/
theorem timeIn_eq {place : Nat} {name : String} {default d : Duration}
    (h : (Record.named members).optional place name default Duration.ofJson? = some d) :
    timeIn (.obj members) name default = d := by
  unfold timeIn Json.member?
  rcases Record.optional_named_iff.mp h with ⟨hnone, rfl⟩ | ⟨j, hj, hread⟩
  · simp [hnone]
  · simp [hj, hread]

theorem positiveTimes_iff {b : BreakerSettings}
    (h : BreakerSettings.ofJson? (.obj members) = some b) :
    PositiveTimes (.obj members) ↔ 0 < b.cooldown.nanos ∧ 0 < b.window.nanos := by
  obtain ⟨-, hcooldown, hwindow⟩ := BreakerSettings.ofJson?_obj_iff.mp h
  rw [PositiveTimes, timeIn_eq hcooldown, timeIn_eq hwindow]

/-- A part that is read is the default or what stands there. -/
theorem read_part {α : Type} {place : Nat} {name : String} {default x : α}
    {read : Json → Option α} {form : List (String × Json) → Prop}
    (hform : Under members name fun v => ∃ part, v = .obj part ∧ form part)
    (h : (Record.named members).optional place name default read = some x) :
    (Entries.lookup name members = none ∧ x = default) ∨
      ∃ ms, Entries.lookup name members = some (.obj ms) ∧ form ms ∧ read (.obj ms) = some x := by
  rcases Record.optional_named_iff.mp h with hnone | ⟨j, hj, hread⟩
  · exact Or.inl hnone
  · obtain ⟨ms, rfl, hms⟩ := hform j hj
    exact Or.inr ⟨ms, hj, hms, hread⟩

/-! #### Rates -/

theorem isRate_int_iff {n : Int} : IsRate (.int n) ↔ 0 < n := by
  simp [IsRate, quotient?, Quotient.below, Quotient.same]
  omega

/-- A float is a rate if it is finite and positive. -/
theorem isRate_float_iff {x : Float} : IsRate (.float x) ↔ x.isFinite = true ∧ 0.0 < x := by
  rw [Binary64.pos_iff_decode]
  cases hdecode : Binary64.decode x with
  | nan => simp [IsRate, quotient?, hdecode]
  | infinite negative => simp [IsRate, quotient?, hdecode]
  | finite negative m e =>
    have hshift : 0 < m <<< e.toNat ↔ 0 < m := by
      rw [Nat.shiftLeft_eq]
      exact Nat.mul_pos_iff_of_pos_right (Nat.two_pow_pos _)
    simp only [IsRate, quotient?, hdecode, Option.some.injEq, exists_eq_left', Quotient.below,
      Quotient.same, Binary64.finite.injEq]
    generalize m <<< e.toNat = k at hshift ⊢
    cases negative with
    | true =>
      refine iff_of_false ?_ (by simp)
      rintro ⟨hbelow, hsame⟩
      simp at hbelow hsame
      omega
    | false =>
      simp
      omega

/-- What is read for a rate is finite and positive. -/
theorem rate_of_form {x : Float} (hform : IsRate j) (hproper : j.Proper)
    (h : asFloat? j = some x) : x.isFinite = true ∧ 0.0 < x := by
  cases j with
  | int n =>
    have hn := isRate_int_iff.mp hform
    rw [Proper] at hproper
    cases h
    unfold floatOfInt
    rw [if_neg (by omega)]
    refine Binary64.pos_toFloat (by omega) ?_
    show n.toNat < 2 ^ 64
    omega
  | float y =>
    cases h
    exact isRate_float_iff.mp hform
  | _ => cases h

section

variable {c : Config} (hform : DocumentForm members)
  (h : Config.ofJson? (.obj members) = some c)

include hform h

theorem retry_times :
    let retry := part ["resilience", "retry"] (.obj members)
    timeIn retry "base_delay" ({} : RetrySettings).baseDelay = c.resilience.retry.baseDelay ∧
    timeIn retry "max_delay" ({} : RetrySettings).maxDelay = c.resilience.retry.maxDelay ∧
    timeIn retry "deadline" ({} : RetrySettings).deadline = c.resilience.retry.deadline := by
  have hresilience := (Config.ofJson?_obj_iff.mp h).2.2.1
  rcases read_part hform.resilience hresilience with ⟨hnone, heq⟩ | ⟨rs, hr, hrs, hread⟩
  · have hpart : part ["resilience", "retry"] (.obj members) = .null := by
      simp [part, at?, Json.member?, hnone]
    rw [hpart, heq]
    exact ⟨rfl, rfl, rfl⟩
  · rcases read_part hrs.retry (ResilienceSettings.ofJson?_obj_iff.mp hread).2.1 with
      ⟨hnone, heq⟩ | ⟨ts, ht, -, hread⟩
    · have hpart : part ["resilience", "retry"] (.obj members) = .null := by
        simp [part, at?, Json.member?, hr, hnone]
      rw [hpart, heq]
      exact ⟨rfl, rfl, rfl⟩
    · have hpart : part ["resilience", "retry"] (.obj members) = .obj ts := by
        simp [part, at?, Json.member?, hr, ht]
      obtain ⟨-, hb, hm, hd⟩ := RetrySettings.ofJson?_obj_iff.mp hread
      rw [hpart]
      exact ⟨timeIn_eq hb, timeIn_eq hm, timeIn_eq hd⟩

theorem history_time :
    timeIn (part ["context"] (.obj members)) "call_timeout" ({} : HistorySettings).callTimeout
      = c.history.callTimeout := by
  have hhistory := (Config.ofJson?_obj_iff.mp h).2.2.2.1
  rcases read_part hform.history hhistory with ⟨hnone, heq⟩ | ⟨hs, hh, -, hread⟩
  · have hpart : part ["context"] (.obj members) = .null := by
      simp [part, at?, Json.member?, hnone]
    rw [hpart, heq]
    rfl
  · have hpart : part ["context"] (.obj members) = .obj hs := by
      simp [part, at?, Json.member?, hh]
    rw [hpart]
    exact timeIn_eq (HistorySettings.ofJson?_obj_iff.mp hread).2.2

/-- The rate is positive and finite, whole or not. -/
theorem rate_of_read (hproper : (Json.obj members).Proper) :
    c.resilience.limit.refillRate.isFinite = true ∧ 0.0 < c.resilience.limit.refillRate := by
  have hdefault : ({} : LimitSettings).refillRate.isFinite = true ∧
      0.0 < ({} : LimitSettings).refillRate := by decide +kernel
  have hresilience := (Config.ofJson?_obj_iff.mp h).2.2.1
  rcases read_part hform.resilience hresilience with ⟨-, heq⟩ | ⟨rs, hr, hrs, hread⟩
  · rw [heq]
    exact hdefault
  · rcases read_part hrs.limit (ResilienceSettings.ofJson?_obj_iff.mp hread).2.2 with
      ⟨-, heq⟩ | ⟨ls, hl, hls, hread⟩
    · rw [heq]
      exact hdefault
    · rcases Record.optional_named_iff.mp (LimitSettings.ofJson?_obj_iff.mp hread).2 with
        ⟨-, heq⟩ | ⟨j, hj, hrate⟩
      · rw [heq]
        exact hdefault
      · have hjproper : j.Proper :=
          ((hproper.member? "resilience" hr).member? "rate_limit" hl).member? "refill_rate" hj
        exact rate_of_form (hls.rate j hj) hjproper hrate

/-- The declared backends are read in their order. -/
theorem declared_read (hproper : (Json.obj members).Proper) :
    List.Forall₂ (fun m e => m.1 = e.1 ∧ BackendConfig.ofJson? m.2 = some e.2)
      (declared (.obj members)) c.backends.entries := by
  have hbackends := (Config.ofJson?_obj_iff.mp h).2.1
  rcases read_part hform.backends hbackends with ⟨hnone, heq⟩ | ⟨bs, hb, -, hread⟩
  · have hdeclared : declared (.obj members) = [] := by
      simp [declared, part, at?, Json.member?, hnone, membersOf]
    rw [hdeclared, heq]
    exact .nil
  · rw [declared_eq hb]
    exact forall₂_of_asTable? hread (hproper.member? "backends" hb).sorted

theorem common_breaker_iff :
    (∀ b, at? ["resilience", "breaker"] (.obj members) = some b → PositiveTimes b) ↔
      0 < c.resilience.breaker.cooldown.nanos ∧ 0 < c.resilience.breaker.window.nanos := by
  have hdefault : 0 < ({} : BreakerSettings).cooldown.nanos ∧
      0 < ({} : BreakerSettings).window.nanos := by decide
  have hresilience := (Config.ofJson?_obj_iff.mp h).2.2.1
  rcases read_part hform.resilience hresilience with ⟨hnone, heq⟩ | ⟨rs, hr, hrs, hread⟩
  · rw [heq]
    refine iff_of_true (fun b hb => ?_) hdefault
    obtain ⟨w, hw, -⟩ := at?_obj_iff.mp hb
    rw [hnone] at hw
    cases hw
  · have hat {b : Json} : at? ["resilience", "breaker"] (.obj members) = some b ↔
        Entries.lookup "breaker" rs = some b := by
      simp [at?, Json.member?, hr]
    rcases read_part hrs.breaker (ResilienceSettings.ofJson?_obj_iff.mp hread).1 with
      ⟨hnone, heq⟩ | ⟨bs, hb, -, hread⟩
    · rw [heq]
      refine iff_of_true (fun b hb => ?_) hdefault
      rw [hat, hnone] at hb
      cases hb
    · simp only [hat, hb, Option.some.injEq, forall_eq']
      exact positiveTimes_iff hread

end

theorem own_breaker_iff {b : BackendConfig} (hform : BackendForm members)
    (h : BackendConfig.ofJson? (.obj members) = some b) :
    (∀ j, at? ["breaker"] (.obj members) = some j → PositiveTimes j) ↔
      ∀ s, b.breaker = some s → 0 < s.cooldown.nanos ∧ 0 < s.window.nanos := by
  simp only [at?_field_iff]
  rcases read_part hform.breaker (BackendConfig.ofJson?_obj_iff.mp h).2.1 with
    ⟨hnone, heq⟩ | ⟨bs, hb, -, hread⟩
  · rw [heq, hnone]
    exact iff_of_true nofun nofun
  · obtain ⟨s, hs, heq⟩ := Option.map_eq_some_iff.mp hread
    rw [← heq, hb]
    simp only [Option.some.injEq, forall_eq']
    exact positiveTimes_iff hs

/-- A condition on corresponding elements. -/
theorem forall_mem_congr {α β : Type} {r : α → β → Prop} {p : α → Prop} {q : β → Prop}
    {l : List α} {l' : List β} (h : List.Forall₂ r l l')
    (hr : ∀ a ∈ l, ∀ b, r a b → (p a ↔ q b)) : (∀ a ∈ l, p a) ↔ ∀ b ∈ l', q b := by
  induction h with
  | nil => simp
  | cons hab _ ih =>
    rw [List.forall_mem_cons, List.forall_mem_cons, hr _ List.mem_cons_self _ hab,
      ih fun a ha => hr a (List.mem_cons_of_mem _ ha)]

section

variable {c : Config} (hform : DocumentForm members)
  (h : Config.ofJson? (.obj members) = some c) (hproper : (Json.obj members).Proper)

include hform h hproper

/-- **Breakers.**  Times of breakers are positive in a document and in what is read. -/
theorem breakers_iff :
    (∀ b ∈ breakers (.obj members), PositiveTimes b) ↔
      ∀ b ∈ c.breakerSettings, 0 < b.cooldown.nanos ∧ 0 < b.window.nanos := by
  have hown := forall_mem_congr
    (p := fun m => ∀ j, at? ["breaker"] m.2 = some j → PositiveTimes j)
    (q := fun e => ∀ s, e.2.breaker = some s → 0 < s.cooldown.nanos ∧ 0 < s.window.nanos)
    (declared_read hform h hproper) fun m hm e he => by
      obtain ⟨bs, -, hmem, hbs⟩ := exists_of_mem_declared hform hm
      obtain ⟨-, ms, hms, hmsform⟩ := hbs m hmem
      rw [hms] at he ⊢
      exact own_breaker_iff hmsform he.2
  have hdocument : (∀ b ∈ breakers (.obj members), PositiveTimes b) ↔
      (∀ b, at? ["resilience", "breaker"] (.obj members) = some b → PositiveTimes b) ∧
      ∀ m ∈ declared (.obj members), ∀ j, at? ["breaker"] m.2 = some j → PositiveTimes j := by
    simp only [mem_breakers_iff, or_imp, forall_and, forall_exists_index, and_imp]
    exact and_congr_right fun _ => ⟨fun h m hm j hj => h j m hm hj, fun h j m hm hj => h m hm j hj⟩
  have hread : (∀ b ∈ c.breakerSettings, 0 < b.cooldown.nanos ∧ 0 < b.window.nanos) ↔
      (0 < c.resilience.breaker.cooldown.nanos ∧ 0 < c.resilience.breaker.window.nanos) ∧
      ∀ e ∈ c.backends.entries, ∀ s, e.2.breaker = some s →
        0 < s.cooldown.nanos ∧ 0 < s.window.nanos := by
    constructor
    · intro hall
      exact ⟨hall _ (mem_breakerSettings_iff.mpr (Or.inl rfl)),
        fun e he s hs => hall s (mem_breakerSettings_iff.mpr (Or.inr ⟨e, he, hs⟩))⟩
    · rintro ⟨hcommon, hbackends⟩ s hs
      rcases mem_breakerSettings_iff.mp hs with rfl | ⟨e, he, hs⟩
      · exact hcommon
      · exact hbackends e he s hs
  rw [hdocument, hread, common_breaker_iff hform h, hown]

/-- What the rules of a document list. -/
theorem mem_rule_items_iff :
    (∃ rule ∈ membersOf (part ["routing", "rules"] (.obj members)), j ∈ itemsOf rule.2) ↔
      ∃ kind names, c.routing.rules kind = some names ∧ ∃ name ∈ names, j = .str name := by
  obtain ⟨v, hv, hrouting⟩ := Record.required_named_iff.mp (Config.ofJson?_obj_iff.mp h).1
  obtain ⟨rs, rfl, hrs⟩ := hform.routing v hv
  rcases read_part hrs.rules (Routing.ofJson?_obj_iff.mp hrouting).2 with
    ⟨hnone, heq⟩ | ⟨ms, hms, hmsform, hread⟩
  · have hpart : part ["routing", "rules"] (.obj members) = .null := by
      simp [part, at?, Json.member?, hv, hnone]
    rw [hpart, heq]
    simp [membersOf]
  · have hpart : part ["routing", "rules"] (.obj members) = .obj ms := by
      simp [part, at?, Json.member?, hv, hms]
    -- in a proper document no kind has two rules, so the one that stands there is read
    have hmsproper : (Json.obj ms).Proper :=
      (hproper.member? "routing" hv).member? "rules" hms
    rw [hpart, membersOf]
    constructor
    · rintro ⟨m, hm, hj⟩
      obtain ⟨kind, names, rfl⟩ := exists_rule_eq hmsform hm
      obtain ⟨name, hname, rfl⟩ := List.mem_map.mp hj
      exact ⟨kind, names, Routing.rule_of_mem hread hmsproper.sorted.nodup hm, name, hname, rfl⟩
    · rintro ⟨kind, names, hrule, name, hname, rfl⟩
      exact ⟨_, Routing.mem_of_rulesOf? hread hrule, List.mem_map_of_mem hname⟩

/-- Names are routed to in a document and in what is read. -/
theorem mem_routed_iff :
    j ∈ routed (.obj members) ↔ ∃ name ∈ c.routedNames, j = .str name := by
  have hpresent : j ∈ present ["routing"] ["default_backend"] (.obj members) ↔
      j = .str c.routing.defaultBackend := by
    obtain ⟨v, hv, hrouting⟩ := Record.required_named_iff.mp (Config.ofJson?_obj_iff.mp h).1
    obtain ⟨rs, rfl, hrs⟩ := hform.routing v hv
    obtain ⟨w, hw, hname⟩ := Record.required_named_iff.mp (Routing.ofJson?_obj_iff.mp hrouting).1
    obtain rfl := asStr?_eq_some_iff.mp hname
    simp [mem_present_iff, at?, Json.member?, hv, hw, eq_comm]
  rw [routed, List.mem_append, List.mem_flatMap, hpresent, mem_rule_items_iff hform h hproper,
    routedNames]
  simp only [List.mem_cons, List.mem_flatMap, exists_eq_or_imp]
  refine or_congr_right ⟨?_, ?_⟩
  · rintro ⟨kind, names, hrule, name, hname, rfl⟩
    exact ⟨name, ⟨(kind, names), Routing.mem_ruleList_iff.mpr hrule, hname⟩, rfl⟩
  · rintro ⟨name, ⟨rule, hrule, hname⟩, rfl⟩
    exact ⟨rule.1, rule.2, Routing.mem_ruleList_iff.mp hrule, name, hname, rfl⟩

/-- **Names.**  What is routed to is declared in a document and in what is read. -/
theorem declared_iff :
    (declared (.obj members) ≠ [] →
      ∀ j ∈ routed (.obj members), ∃ e ∈ declared (.obj members), j = .str e.1) ↔
    ∀ name ∈ c.routedNames, c.declares name = true := by
  have hread := declared_read hform h hproper
  have hempty : c.backends.isEmpty = true ↔ declared (.obj members) = [] := by
    rw [Table.isEmpty, List.isEmpty_iff, ← List.length_eq_zero_iff, ← hread.length_eq,
      List.length_eq_zero_iff]
  have hnames : (declared (.obj members)).map Prod.fst = c.backends.names := by
    rw [Table.names, ← List.forall₂_eq_eq_eq, List.forall₂_map_left_iff,
      List.forall₂_map_right_iff]
    exact hread.imp fun _ _ h => h.1
  have hcontains (name : String) : c.backends.contains name = true ↔
      ∃ e ∈ declared (.obj members), name = e.1 := by
    rw [Table.contains, ← Table.mem_names_iff, ← hnames, List.mem_map]
    exact exists_congr fun e => and_congr_right fun _ => eq_comm
  have hdeclares (name : String) : c.declares name = true ↔
      (declared (.obj members) ≠ [] → ∃ e ∈ declared (.obj members), name = e.1) := by
    rw [declares, Bool.or_eq_true, hempty, hcontains]
    exact ⟨fun h hne => h.resolve_left hne, fun h => or_iff_not_imp_left.mpr h⟩
  simp only [hdeclares, mem_routed_iff hform h hproper]
  constructor
  · intro hall name hname hne
    obtain ⟨e, he, heq⟩ := hall hne (.str name) ⟨name, hname, rfl⟩
    exact ⟨e, he, Json.str.inj heq⟩
  · rintro hall hne _ ⟨name, hname, rfl⟩
    obtain ⟨e, he, heq⟩ := hall name hname hne
    exact ⟨e, he, congrArg Json.str heq⟩

/-- **What is read is valid exactly if the document is meaningful.** -/
theorem valid_iff_meaningful : c.Valid ↔ Meaningful (.obj members) := by
  have hformed := formed_of_read hform h
  obtain ⟨hbase, hmax, hdeadline⟩ := retry_times hform h
  have htimeout := history_time hform h
  have hrate := rate_of_read hform h hproper
  have hbreakers := breakers_iff hform h hproper
  have hdeclared := declared_iff hform h hproper
  constructor
  · intro hvalid
    refine ⟨hdeclared.mpr hvalid.declared, hbreakers.mpr fun b hb => ?_, ?_, ?_, ?_⟩
    · rcases mem_breakerSettings_iff.mp hb with rfl | ⟨e, he, hbreaker⟩
      · exact ⟨hvalid.breaker.cooldown_pos, hvalid.breaker.window_pos⟩
      · have := (hvalid.backends e he).breaker b hbreaker
        exact ⟨this.cooldown_pos, this.window_pos⟩
    · simp only [hbase, hmax]
      exact hvalid.retry.delays_le
    · rw [hdeadline]
      exact hvalid.retry.deadline_pos
    · rw [htimeout]
      exact hvalid.timeout_pos
  · intro hmeaningful
    -- what validation asks for beyond that, the form has promised
    have htimes := hbreakers.mp hmeaningful.breakers
    obtain ⟨hcooldown, hwindow⟩ := htimes _ (mem_breakerSettings_iff.mpr (Or.inl rfl))
    refine ⟨not_blank_of_isName hformed.name, fun kind names hrule => ?_,
      hdeclared.mp hmeaningful.declared,
      ⟨Nat.pos_iff_ne_zero.mp hformed.threshold.1, hcooldown, hwindow⟩, fun e he => ?_,
      ⟨Nat.pos_iff_ne_zero.mp hformed.attempts.1, ?_, ?_⟩,
      ⟨Nat.pos_iff_ne_zero.mp hformed.capacity.1, hrate.1, hrate.2⟩, ?_⟩
    · obtain ⟨hne, hnodup, -⟩ := hformed.rules kind names hrule
      exact ⟨hne, hnodup⟩
    · obtain ⟨-, hbackend⟩ := hformed.backends e he
      refine ⟨Nat.pos_iff_ne_zero.mp hbackend.tokens.1, fun s hs => ?_⟩
      obtain ⟨hcooldown, hwindow⟩ := htimes s (mem_breakerSettings_iff.mpr (Or.inr ⟨e, he, hs⟩))
      exact ⟨Nat.pos_iff_ne_zero.mp (hbackend.threshold s hs).1, hcooldown, hwindow⟩
    · have := hmeaningful.delays
      simp only [hbase, hmax] at this
      exact this
    · exact hdeadline ▸ hmeaningful.deadline
    · exact htimeout ▸ hmeaningful.timeout

end

/-- What is wrong with a configuration of the form is what the form does not rule out. -/
theorem beyondForm_of_faultOf {c : Config} {f : ConfigFault} (hformed : Formed c)
    (hrate : c.resilience.limit.refillRate.isFinite = true ∧ 0.0 < c.resilience.limit.refillRate)
    (h : c.FaultOf f) : f.BeyondForm := by
  cases f with
  | defaultBackendMissing =>
    have hblank : isBlankText c.routing.defaultBackend = true := h
    rw [not_blank_of_isName hformed.name] at hblank
    cases hblank
  | emptyRule kind => exact absurd rfl (hformed.rules kind [] h).1
  | repeatedInRule kind name =>
    obtain ⟨names, hrule, hrepeated⟩ := h
    exact absurd (hformed.rules kind names hrule).2.1 hrepeated
  | thresholdNotPositive path =>
    obtain ⟨b, hb, hzero⟩ := h
    have hpos : 1 ≤ b.failureThreshold := by
      rcases mem_breakerSettings_iff.mp hb with rfl | ⟨e, he, hbreaker⟩
      · exact hformed.threshold.1
      · exact ((hformed.backends e he).2.threshold b hbreaker).1
    omega
  | maxTokensNotPositive name =>
    obtain ⟨b, hb, hzero⟩ := h
    have hpos : 1 ≤ b.capabilities.maxTokens :=
      (hformed.backends (name, b) (c.backends.get?_eq_some_iff_mem.mp hb)).2.tokens.1
    omega
  | noAttempts =>
    have hzero : c.resilience.retry.maxAttempts = 0 := h
    have := hformed.attempts.1
    omega
  | capacityNotPositive =>
    have hzero : c.resilience.limit.capacity = 0 := h
    have := hformed.capacity.1
    omega
  | refillRateNotPositive => exact absurd hrate h
  | undeclaredBackend name => trivial
  | breakerTimesNotPositive path => trivial
  | baseDelayExceedsMax => trivial
  | deadlineNotPositive => trivial
  | callTimeoutNotPositive => trivial

/-! ### Loading -/

/-- **What is loaded.**  A document that has the form of a configuration is loaded exactly if it is
readable and meaningful.  One that is not readable is refused for its data; one that is readable
and not meaningful is refused for a fault, and the fault is one that the form does not rule out. -/
theorem loads_iff (document : Json) (hproper : document.Proper)
    (hform : Form.document.valid document = true) :
    ((∃ c, ofDocument document = .ok c) ↔ Readable document ∧ Meaningful document) ∧
    (¬ Readable document → ofDocument document = .error .data) ∧
    (Readable document → ¬ Meaningful document →
      ∃ f, ofDocument document = .error (.fault f) ∧ f.BeyondForm) := by
  obtain ⟨members, rfl, hmembers⟩ := document_valid_iff.mp hform
  have hreads : (∃ c, Config.ofJson? (.obj members) = some c) ↔ Readable (.obj members) :=
    (exists_ofJson?_iff hmembers).trans (documentReads_iff hmembers)
  unfold ofDocument
  simp only [hform, Bool.not_true, Bool.false_eq_true, if_false]
  cases hread : Config.ofJson? (.obj members) with
  | none =>
    have hnot : ¬ Readable (.obj members) := fun hreadable => by
      obtain ⟨c, hc⟩ := hreads.mpr hreadable
      rw [hread] at hc
      cases hc
    exact ⟨iff_of_false nofun fun h => hnot h.1, fun _ => rfl, fun h => absurd h hnot⟩
  | some c =>
    have hreadable := hreads.mp ⟨c, hread⟩
    have hvalid := valid_iff_meaningful hmembers hread hproper
    simp only
    cases hcheck : c.validate with
    | ok u =>
      have hmeaningful := hvalid.mp (validate_eq_ok_iff.mp hcheck)
      exact ⟨iff_of_true ⟨c, rfl⟩ ⟨hreadable, hmeaningful⟩, fun h => absurd hreadable h,
        fun _ h => absurd hmeaningful h⟩
    | error f =>
      have hnot : ¬ Meaningful (.obj members) := fun h => by
        rw [validate_eq_ok_iff.mpr (hvalid.mpr h)] at hcheck
        cases hcheck
      refine ⟨iff_of_false nofun fun h => hnot h.2, fun h => absurd hreadable h, fun _ _ => ?_⟩
      exact ⟨f, rfl, beyondForm_of_faultOf (formed_of_read hmembers hread)
        (rate_of_read hmembers hread hproper) (faultOf_of_validate hcheck)⟩

/-- A document with a routing and nothing else is loaded. -/
theorem loads_routing_only :
    let document : Json := .obj [("routing", .obj [("default_backend", .str "a")])]
    document.Proper ∧ Form.document.valid document = true ∧ Readable document ∧
      Meaningful document := by
  intro document
  have hproper : document.Proper := by
    simp [document, Proper, ProperMembers, Entries.Sorted]
  have hform : Form.document.valid document = true := by decide +kernel
  have hloaded : ∃ c, ofDocument document = .ok c :=
    ⟨{ routing := { defaultBackend := "a" } }, by decide +kernel⟩
  exact ⟨hproper, hform, (loads_iff document hproper hform).1.mp hloaded⟩

end Dispatch.Config
