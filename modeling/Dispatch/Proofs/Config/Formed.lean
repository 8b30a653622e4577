/-
Dispatch/Proofs/Config/Formed.lean

What is read from a document that has the form of a configuration.

The form leaves the readers three questions only: whether a whole number is written without a
fraction and fits 32 bits, and whether a duration parses.  `exists_ofJson?_iff` holds so for a whole
document.  What is read has then kept what the form promised (`Formed`): names are names of
backends, no rule is empty or repeats a name, and no count is zero that must not be.
-/
import Dispatch.Proofs.Config.Form
import Dispatch.Proofs.Config.Reading
import Dispatch.Proofs.Config.Validation

namespace Dispatch.Config

open Form Json

/-! ### What the form leaves open -/

/-- A whole number without a fraction, of 32 bits. -/
def IsNat32 (j : Json) : Prop := ∃ n : Nat, j = .int n ∧ n < UInt32.size

/-- A duration that parses. -/
def IsTime (j : Json) : Prop := ∃ s d, j = .str s ∧ Duration.parse s = .ok d

theorem exists_asNat32?_iff {j : Json} : (∃ n, asNat32? j = some n) ↔ IsNat32 j :=
  exists_congr fun _ => asNat32?_eq_some_iff

theorem exists_duration_iff {j : Json} : (∃ d, Duration.ofJson? j = some d) ↔ IsTime j := by
  simp only [Duration.ofJson?_eq_some_iff]
  exact exists_comm

variable {members : List (String × Json)}

/-- A field with a default can be read if what is there can be. -/
theorem exists_field_iff {α : Type} {place : Nat} {name : String} {default : α}
    {read : Json → Option α} {holds : Json → Prop} (h : ∀ j, (∃ x, read j = some x) ↔ holds j) :
    (∃ x, (Record.named members).optional place name default read = some x) ↔
      Under members name holds :=
  Record.exists_optional_iff.trans (forall₂_congr fun j _ => h j)

/-- The same, where the form has already said that it can. -/
theorem exists_field {α : Type} {place : Nat} {name : String} {default : α}
    {read : Json → Option α} {holds : Json → Prop} (h : Under members name holds)
    (hread : ∀ j, holds j → ∃ x, read j = some x) :
    ∃ x, (Record.named members).optional place name default read = some x :=
  Record.exists_optional_iff.mpr fun j hj => hread j (h j hj)

theorem exists_flag {j : Json} (h : IsFlag j) : ∃ b, asBool? j = some b := by
  obtain ⟨b, rfl⟩ := h
  exact ⟨b, rfl⟩

theorem exists_rate {j : Json} (h : IsRate j) : ∃ x, asFloat? j = some x := by
  obtain ⟨q, hq, -⟩ := h
  cases j with
  | int n => exact ⟨_, rfl⟩
  | float x => exact ⟨_, rfl⟩
  | _ => cases hq

/-! #### Parts -/

/-- Breaker settings that can be read. -/
structure BreakerReads (members : List (String × Json)) : Prop where
  threshold : Under members "failure_threshold" IsNat32
  cooldown : Under members "cooldown" IsTime
  window : Under members "window" IsTime

theorem exists_breaker_iff :
    (∃ b, BreakerSettings.ofJson? (.obj members) = some b) ↔ BreakerReads members := by
  constructor
  · rintro ⟨b, hb⟩
    obtain ⟨ht, hc, hw⟩ := BreakerSettings.ofJson?_obj_iff.mp hb
    exact ⟨(exists_field_iff fun _ => exists_asNat32?_iff).mp ⟨_, ht⟩,
      (exists_field_iff fun _ => exists_duration_iff).mp ⟨_, hc⟩,
      (exists_field_iff fun _ => exists_duration_iff).mp ⟨_, hw⟩⟩
  · rintro ⟨ht, hc, hw⟩
    obtain ⟨t, ht⟩ := (exists_field_iff fun _ => exists_asNat32?_iff).mpr ht
    obtain ⟨c, hc⟩ := (exists_field_iff fun _ => exists_duration_iff).mpr hc
    obtain ⟨w, hw⟩ := (exists_field_iff fun _ => exists_duration_iff).mpr hw
    exact ⟨⟨t, c, w⟩, BreakerSettings.ofJson?_obj_iff.mpr ⟨ht, hc, hw⟩⟩

/-- Retry settings that can be read. -/
structure RetryReads (members : List (String × Json)) : Prop where
  attempts : Under members "max_attempts" IsNat32
  base : Under members "base_delay" IsTime
  max : Under members "max_delay" IsTime
  deadline : Under members "deadline" IsTime

theorem exists_retry_iff :
    (∃ r, RetrySettings.ofJson? (.obj members) = some r) ↔ RetryReads members := by
  constructor
  · rintro ⟨r, hr⟩
    obtain ⟨ha, hb, hm, hd⟩ := RetrySettings.ofJson?_obj_iff.mp hr
    exact ⟨(exists_field_iff fun _ => exists_asNat32?_iff).mp ⟨_, ha⟩,
      (exists_field_iff fun _ => exists_duration_iff).mp ⟨_, hb⟩,
      (exists_field_iff fun _ => exists_duration_iff).mp ⟨_, hm⟩,
      (exists_field_iff fun _ => exists_duration_iff).mp ⟨_, hd⟩⟩
  · rintro ⟨ha, hb, hm, hd⟩
    obtain ⟨a, ha⟩ := (exists_field_iff fun _ => exists_asNat32?_iff).mpr ha
    obtain ⟨b, hb⟩ := (exists_field_iff fun _ => exists_duration_iff).mpr hb
    obtain ⟨m, hm⟩ := (exists_field_iff fun _ => exists_duration_iff).mpr hm
    obtain ⟨d, hd⟩ := (exists_field_iff fun _ => exists_duration_iff).mpr hd
    exact ⟨⟨a, b, m, d⟩, RetrySettings.ofJson?_obj_iff.mpr ⟨ha, hb, hm, hd⟩⟩

theorem exists_limit_iff (hform : LimitForm members) :
    (∃ l, LimitSettings.ofJson? (.obj members) = some l) ↔ Under members "capacity" IsNat32 := by
  constructor
  · rintro ⟨l, hl⟩
    exact (exists_field_iff fun _ => exists_asNat32?_iff).mp
      ⟨_, (LimitSettings.ofJson?_obj_iff.mp hl).1⟩
  · intro hc
    obtain ⟨c, hc⟩ := (exists_field_iff fun _ => exists_asNat32?_iff).mpr hc
    obtain ⟨r, hr⟩ := exists_field hform.rate fun _ => exists_rate
    exact ⟨⟨c, r⟩, LimitSettings.ofJson?_obj_iff.mpr ⟨hc, hr⟩⟩

/-- Settings of history that can be read. -/
structure HistoryReads (members : List (String × Json)) : Prop where
  window : Under members "max_window_tokens" IsNat32
  reserved : Under members "reserved_response_tokens" IsNat32
  timeout : Under members "call_timeout" IsTime

theorem exists_history_iff :
    (∃ h, HistorySettings.ofJson? (.obj members) = some h) ↔ HistoryReads members := by
  constructor
  · rintro ⟨h, hh⟩
    obtain ⟨hw, hr, ht⟩ := HistorySettings.ofJson?_obj_iff.mp hh
    exact ⟨(exists_field_iff fun _ => exists_asNat32?_iff).mp ⟨_, hw⟩,
      (exists_field_iff fun _ => exists_asNat32?_iff).mp ⟨_, hr⟩,
      (exists_field_iff fun _ => exists_duration_iff).mp ⟨_, ht⟩⟩
  · rintro ⟨hw, hr, ht⟩
    obtain ⟨w, hw⟩ := (exists_field_iff fun _ => exists_asNat32?_iff).mpr hw
    obtain ⟨r, hr⟩ := (exists_field_iff fun _ => exists_asNat32?_iff).mpr hr
    obtain ⟨t, ht⟩ := (exists_field_iff fun _ => exists_duration_iff).mpr ht
    exact ⟨⟨w, r, t⟩, HistorySettings.ofJson?_obj_iff.mpr ⟨hw, hr, ht⟩⟩

theorem exists_storage (hform : StorageForm members) :
    ∃ s, StorageSettings.ofJson? (.obj members) = some s := by
  obtain ⟨p, hp⟩ : ∃ p, (Record.named members).optional 0 "database_path"
      ({} : StorageSettings).databasePath asStr? = some p := exists_field hform.path fun j hj => by
    obtain ⟨s, rfl, -⟩ := hj
    exact ⟨s, rfl⟩
  exact ⟨⟨p⟩, StorageSettings.ofJson?_obj_iff.mpr hp⟩

theorem exists_capabilities_iff (hform : CapabilitiesForm members) :
    (∃ c, Capabilities.ofJson? (.obj members) = some c) ↔ Under members "max_tokens" IsNat32 := by
  obtain ⟨v, hv⟩ := hform.there
  constructor
  · rintro ⟨c, hc⟩ j hj
    obtain ⟨j', hj', hread⟩ :=
      Record.required_named_iff.mp (Capabilities.ofJson?_obj_iff.mp hc).2.2
    obtain rfl := Option.some.inj (hj.symm.trans hj')
    exact exists_asNat32?_iff.mp ⟨_, hread⟩
  · intro h
    obtain ⟨n, hn⟩ := exists_asNat32?_iff.mpr (h v hv)
    obtain ⟨s, hs⟩ := exists_field hform.streaming fun _ => exists_flag
    obtain ⟨c, hc⟩ := exists_field hform.code fun _ => exists_flag
    exact ⟨⟨s, c, n⟩, Capabilities.ofJson?_obj_iff.mpr
      ⟨hs, hc, Record.required_named_iff.mpr ⟨v, hv, hn⟩⟩⟩

/-- What is said of a backend, where it can be read. -/
structure BackendReads (members : List (String × Json)) : Prop where
  capabilities : Under members "capabilities" fun v =>
    ∀ c, v = .obj c → Under c "max_tokens" IsNat32
  breaker : Under members "breaker" fun v => ∀ b, v = .obj b → BreakerReads b

theorem exists_backend_iff (hform : BackendForm members) :
    (∃ b, BackendConfig.ofJson? (.obj members) = some b) ↔ BackendReads members := by
  obtain ⟨v, hv⟩ := hform.there
  obtain ⟨cs, rfl, hcs⟩ := hform.capabilities v hv
  have hcapabilities : (∃ c, (Record.named members).required 0 "capabilities"
      Capabilities.ofJson? = some c) ↔
      Under members "capabilities" fun v => ∀ c, v = .obj c → Under c "max_tokens" IsNat32 := by
    simp only [Record.required_named_iff, hv, Option.some.injEq, exists_eq_left', Under,
      forall_eq', Json.obj.injEq]
    exact exists_capabilities_iff hcs
  have hbreaker : (∃ b, (Record.named members).optional 1 "breaker" none
      (asOption? BreakerSettings.ofJson?) = some b) ↔
      Under members "breaker" fun v => ∀ b, v = .obj b → BreakerReads b := by
    rw [Record.exists_optional_iff]
    refine forall₂_congr fun j hj => ?_
    obtain ⟨bs, rfl, -⟩ := hform.breaker j hj
    simp only [asOption?, Option.map_eq_some_iff, Json.obj.injEq, forall_eq']
    rw [← exists_breaker_iff]
    exact ⟨fun ⟨_, b, hb, _⟩ => ⟨b, hb⟩, fun ⟨b, hb⟩ => ⟨_, b, hb, rfl⟩⟩
  constructor
  · rintro ⟨b, hb⟩
    obtain ⟨hc, hb, -⟩ := BackendConfig.ofJson?_obj_iff.mp hb
    exact ⟨hcapabilities.mp ⟨_, hc⟩, hbreaker.mp ⟨_, hb⟩⟩
  · rintro ⟨hc, hb⟩
    obtain ⟨c, hc⟩ := hcapabilities.mpr hc
    obtain ⟨b, hb⟩ := hbreaker.mpr hb
    obtain ⟨e, he⟩ := exists_field hform.enabled fun _ => exists_flag
    exact ⟨⟨c, b, e⟩, BackendConfig.ofJson?_obj_iff.mpr ⟨hc, hb, he⟩⟩

/-- Settings of everything that guards calls, where they can be read. -/
structure ResilienceReads (members : List (String × Json)) : Prop where
  breaker : Under members "breaker" fun v => ∀ b, v = .obj b → BreakerReads b
  retry : Under members "retry" fun v => ∀ r, v = .obj r → RetryReads r
  limit : Under members "rate_limit" fun v => ∀ l, v = .obj l → Under l "capacity" IsNat32

/-- A part of a document with a default can be read if what is there can be. -/
theorem exists_part_iff {α : Type} (place : Nat) {name : String} (default : α)
    (read : Json → Option α) {form reads : List (String × Json) → Prop}
    (hform : Under members name fun v => ∃ part, v = .obj part ∧ form part)
    (h : ∀ part, form part → ((∃ x, read (.obj part) = some x) ↔ reads part)) :
    (∃ x, (Record.named members).optional place name default read = some x) ↔
      Under members name fun v => ∀ part, v = .obj part → reads part := by
  rw [Record.exists_optional_iff]
  refine forall₂_congr fun j hj => ?_
  obtain ⟨part, rfl, hpart⟩ := hform j hj
  simp only [Json.obj.injEq, forall_eq']
  exact h part hpart

theorem exists_resilience_iff (hform : ResilienceForm members) :
    (∃ r, ResilienceSettings.ofJson? (.obj members) = some r) ↔ ResilienceReads members := by
  have hbreaker := exists_part_iff 0 {} BreakerSettings.ofJson? hform.breaker
    fun _ _ => exists_breaker_iff
  have hretry := exists_part_iff 1 {} RetrySettings.ofJson? hform.retry fun _ _ => exists_retry_iff
  have hlimit := exists_part_iff 2 {} LimitSettings.ofJson? hform.limit fun _ => exists_limit_iff
  constructor
  · rintro ⟨r, hr⟩
    obtain ⟨hb, hr, hl⟩ := ResilienceSettings.ofJson?_obj_iff.mp hr
    exact ⟨hbreaker.mp ⟨_, hb⟩, hretry.mp ⟨_, hr⟩, hlimit.mp ⟨_, hl⟩⟩
  · rintro ⟨hb, hr, hl⟩
    obtain ⟨b, hb⟩ := hbreaker.mpr hb
    obtain ⟨r, hr⟩ := hretry.mpr hr
    obtain ⟨l, hl⟩ := hlimit.mpr hl
    exact ⟨⟨b, r, l⟩, ResilienceSettings.ofJson?_obj_iff.mpr ⟨hb, hr, hl⟩⟩

/-- A rule has the tag of a kind, and lists names. -/
theorem exists_rule_eq (hform : RulesForm members) {m : String × Json} (hm : m ∈ members) :
    ∃ (kind : TaskKind) (names : List String), m = (kind.tag, .strings names) := by
  obtain ⟨htag, items, hitems, -, -, hnames⟩ := hform m hm
  obtain ⟨kind, -, hkind⟩ := List.mem_map.mp htag
  obtain ⟨names, hread⟩ : ∃ names, asList? asStr? (.arr items) = some names :=
    exists_readAll_iff.mpr fun item hitem => by
      obtain ⟨s, rfl, -⟩ := hnames item hitem
      exact ⟨s, rfl⟩
  have hstrings := hitems.trans (asList?_asStr?_eq_some_iff.mp hread)
  exact ⟨kind, names, Prod.ext hkind.symm hstrings⟩

/-- Rules can be read as they are. -/
theorem exists_rules (hform : RulesForm members) :
    ∃ rules, Routing.rulesOf? (.obj members) = some rules := by
  have hall : ∃ l : List (TaskKind × List String),
      members = l.map fun e => (e.1.tag, .strings e.2) := by
    induction members with
    | nil => exact ⟨[], rfl⟩
    | cons m rest ih =>
      obtain ⟨l, hl⟩ := ih fun x hx => hform x (List.mem_cons_of_mem _ hx)
      obtain ⟨kind, names, rfl⟩ := exists_rule_eq hform List.mem_cons_self
      exact ⟨(kind, names) :: l, List.cons_eq_cons.mpr ⟨rfl, hl⟩⟩
  obtain ⟨l, hl⟩ := hall
  exact ⟨_, Routing.rulesOf?_obj_iff.mpr ⟨l, hl, rfl⟩⟩

theorem exists_routing (hform : RoutingForm members) :
    ∃ r, Routing.ofJson? (.obj members) = some r := by
  obtain ⟨v, hv⟩ := hform.there
  obtain ⟨s, rfl, -⟩ := hform.default v hv
  obtain ⟨rules, hrules⟩ : ∃ rules, (Record.named members).optional 1 "rules" (fun _ => none)
      Routing.rulesOf? = some rules := exists_field hform.rules fun j hj => by
    obtain ⟨rs, rfl, hrs⟩ := hj
    exact exists_rules hrs
  exact ⟨⟨s, rules⟩, Routing.ofJson?_obj_iff.mpr
    ⟨Record.required_named_iff.mpr ⟨_, hv, rfl⟩, hrules⟩⟩

/-- A document that can be read. -/
structure DocumentReads (members : List (String × Json)) : Prop where
  backends : Under members "backends" fun v => ∀ bs, v = .obj bs →
    ∀ m ∈ bs, ∀ b, m.2 = .obj b → BackendReads b
  resilience : Under members "resilience" fun v => ∀ r, v = .obj r → ResilienceReads r
  history : Under members "context" fun v => ∀ h, v = .obj h → HistoryReads h

/-- **What the form leaves open.**  A document that has the form can be read exactly if its whole
numbers are of 32 bits and its durations parse. -/
theorem exists_ofJson?_iff (hform : DocumentForm members) :
    (∃ c, Config.ofJson? (.obj members) = some c) ↔ DocumentReads members := by
  -- routing and storage have no numbers and no durations, and can be read as they are
  have hrouting : ∃ r, (Record.named members).required 0 "routing" Routing.ofJson? = some r := by
    obtain ⟨v, hv⟩ := hform.there
    obtain ⟨rs, rfl, hrs⟩ := hform.routing v hv
    obtain ⟨r, hr⟩ := exists_routing hrs
    exact ⟨r, Record.required_named_iff.mpr ⟨_, hv, hr⟩⟩
  have htable : ∀ bs, BackendsForm bs →
      ((∃ t, asTable? BackendConfig.ofJson? (.obj bs) = some t) ↔
        ∀ m ∈ bs, ∀ b, m.2 = .obj b → BackendReads b) := fun bs hbs => by
    rw [exists_asTable?_iff]
    refine forall₂_congr fun m hm => ?_
    obtain ⟨-, b, hb, hform⟩ := hbs m hm
    rw [hb]
    simp only [Json.obj.injEq, forall_eq']
    exact exists_backend_iff hform
  have hbackends := exists_part_iff 1 .empty (asTable? BackendConfig.ofJson?) hform.backends htable
  have hresilience := exists_part_iff 2 {} ResilienceSettings.ofJson? hform.resilience
    fun _ => exists_resilience_iff
  have hhistory := exists_part_iff 3 {} HistorySettings.ofJson? hform.history
    fun _ _ => exists_history_iff
  have hstorage : ∃ s, (Record.named members).optional 4 "storage" {} StorageSettings.ofJson?
      = some s := exists_field hform.storage fun j hj => by
    obtain ⟨p, rfl, hp⟩ := hj
    exact exists_storage hp
  constructor
  · rintro ⟨c, hc⟩
    obtain ⟨-, hb, hr, hh, -⟩ := Config.ofJson?_obj_iff.mp hc
    exact ⟨hbackends.mp ⟨_, hb⟩, hresilience.mp ⟨_, hr⟩, hhistory.mp ⟨_, hh⟩⟩
  · rintro ⟨hb, hr, hh⟩
    obtain ⟨routing, hrouting⟩ := hrouting
    obtain ⟨b, hb⟩ := hbackends.mpr hb
    obtain ⟨r, hr⟩ := hresilience.mpr hr
    obtain ⟨h, hh⟩ := hhistory.mpr hh
    obtain ⟨s, hs⟩ := hstorage
    exact ⟨⟨routing, b, r, h, s⟩, Config.ofJson?_obj_iff.mpr ⟨hrouting, hb, hr, hh, hs⟩⟩

/-! ### What has been read -/

/-- A count that has been read is as large as the form wants it. -/
theorem count_of_read {place k x default : Nat} {name : String}
    (hform : Under members name (IsCount k)) (hdefault : k ≤ default ∧ default < UInt32.size)
    (hread : (Record.named members).optional place name default asNat32? = some x) :
    k ≤ x ∧ x < UInt32.size := by
  rcases Record.optional_named_iff.mp hread with ⟨-, rfl⟩ | ⟨j, hj, hx⟩
  · exact hdefault
  · obtain ⟨rfl, hlt⟩ := asNat32?_eq_some_iff.mp hx
    obtain ⟨q, hq, -, hbelow⟩ := hform _ hj
    cases hq
    have hle : ¬ (x : Int) < (k : Int) * (1 : Nat) := of_decide_eq_false hbelow
    omega

/-- A part of a document that has been read has what holds of its default and of all that is
read. -/
theorem part_of_read {α : Type} {place : Nat} {name : String} {default x : α}
    {read : Json → Option α} {form : List (String × Json) → Prop} (holds : α → Prop)
    (hform : Under members name fun v => ∃ part, v = .obj part ∧ form part)
    (hread : (Record.named members).optional place name default read = some x)
    (hdefault : holds default)
    (h : ∀ part, form part → ∀ y, read (.obj part) = some y → holds y) : holds x := by
  rcases Record.optional_named_iff.mp hread with ⟨-, rfl⟩ | ⟨j, hj, hx⟩
  · exact hdefault
  · obtain ⟨part, rfl, hpart⟩ := hform j hj
    exact h part hpart x hx

theorem threshold_of_read {b : BreakerSettings} (hform : BreakerForm members)
    (h : BreakerSettings.ofJson? (.obj members) = some b) :
    1 ≤ b.failureThreshold ∧ b.failureThreshold < UInt32.size :=
  count_of_read (k := 1) hform.threshold (by decide) (BreakerSettings.ofJson?_obj_iff.mp h).1

theorem tokens_of_read {c : Capabilities} (hform : CapabilitiesForm members)
    (h : Capabilities.ofJson? (.obj members) = some c) :
    1 ≤ c.maxTokens ∧ c.maxTokens < UInt32.size := by
  obtain ⟨v, hv⟩ := hform.there
  have hread : (Record.named members).optional 2 "max_tokens" 1 asNat32? = some c.maxTokens := by
    rw [Record.optional_of_lookup hv, ← Option.bind_some (f := asNat32?), ← hv]
    exact (Capabilities.ofJson?_obj_iff.mp h).2.2
  exact count_of_read (k := 1) hform.tokens (by decide) hread

/-- What a backend is declared with. -/
structure FormedBackend (b : BackendConfig) : Prop where
  tokens : 1 ≤ b.capabilities.maxTokens ∧ b.capabilities.maxTokens < UInt32.size
  threshold : ∀ s, b.breaker = some s → 1 ≤ s.failureThreshold ∧ s.failureThreshold < UInt32.size

theorem formedBackend_of_read {b : BackendConfig} (hform : BackendForm members)
    (h : BackendConfig.ofJson? (.obj members) = some b) : FormedBackend b := by
  obtain ⟨hc, hb, -⟩ := BackendConfig.ofJson?_obj_iff.mp h
  refine ⟨?_, fun s hs => ?_⟩
  · obtain ⟨j, hj, hread⟩ := Record.required_named_iff.mp hc
    obtain ⟨cs, rfl, hcs⟩ := hform.capabilities j hj
    exact tokens_of_read hcs hread
  · refine part_of_read (fun o => ∀ s, o = some s →
      1 ≤ s.failureThreshold ∧ s.failureThreshold < UInt32.size) hform.breaker hb nofun ?_ s hs
    rintro bs hbs o ho s rfl
    obtain ⟨s', hs', heq⟩ := Option.map_eq_some_iff.mp ho
    cases heq
    exact threshold_of_read hbs hs'

/-- The name of a backend is not blank: it begins with a letter or a digit. -/
theorem not_blank_of_isName {s : String} (h : IsName s) : isBlankText s = false := by
  unfold IsName namePattern at h
  simp only at h
  split at h
  · cases h
  · next c rest hs =>
    have hstart : c.isAlphanum = true := (Bool.and_eq_true_iff.mp h).1
    have hrange : (65 ≤ c.toNat ∧ c.toNat ≤ 90) ∨ (97 ≤ c.toNat ∧ c.toNat ≤ 122) ∨
        (48 ≤ c.toNat ∧ c.toNat ≤ 57) := by
      unfold Char.isAlphanum Char.isAlpha Char.isUpper Char.isLower Char.isDigit at hstart
      simpa [UInt32.le_iff_toNat_le, or_assoc] using hstart
    have hblank : isBlank c = false := by
      simp only [isBlank, Bool.or_eq_false_iff, Bool.and_eq_false_iff, decide_eq_false_iff_not]
      omega
    rw [isBlankText, hs, List.all_cons, hblank, Bool.false_and]

/-- What is read from a document of the form. -/
structure Formed (c : Config) : Prop where
  name : IsName c.routing.defaultBackend
  rules : ∀ kind names, c.routing.rules kind = some names →
    names ≠ [] ∧ names.Nodup ∧ ∀ n ∈ names, IsName n
  backends : ∀ e ∈ c.backends.entries, IsName e.1 ∧ FormedBackend e.2
  threshold : 1 ≤ c.resilience.breaker.failureThreshold ∧
    c.resilience.breaker.failureThreshold < UInt32.size
  attempts : 1 ≤ c.resilience.retry.maxAttempts ∧ c.resilience.retry.maxAttempts < UInt32.size
  capacity : 1 ≤ c.resilience.limit.capacity ∧ c.resilience.limit.capacity < UInt32.size
  window : c.history.maxWindowTokens < UInt32.size
  reserved : c.history.reservedResponseTokens < UInt32.size
  path : c.storage.databasePath ≠ ""

/-- Texts that do not mean the same are different. -/
theorem nodup_of_distinct {names : List String} (h : Json.distinct (names.map .str) = true) :
    names.Nodup := by
  induction names with
  | nil => exact List.nodup_nil
  | cons name names ih =>
    simp only [List.map_cons, Json.distinct, Bool.and_eq_true, Bool.not_eq_true'] at h
    refine List.nodup_cons.mpr ⟨fun hmem => ?_, ih h.2⟩
    refine List.any_eq_false.mp h.1 (.str name) (List.mem_map_of_mem hmem) ?_
    simp [Json.same, Json.sameLeaf]

theorem formed_rules {rules : TaskKind → Option (List String)} (hform : RulesForm members)
    (h : Routing.rulesOf? (.obj members) = some rules) (kind : TaskKind) (names : List String)
    (hnames : rules kind = some names) : names ≠ [] ∧ names.Nodup ∧ ∀ n ∈ names, IsName n := by
  obtain ⟨-, items, hitems, hsome, hdistinct, hall⟩ :=
    hform _ (Routing.mem_of_rulesOf? h hnames)
  obtain rfl := Json.arr.inj hitems
  refine ⟨fun hnil => hsome (by rw [hnil]; rfl), nodup_of_distinct hdistinct, fun n hn => ?_⟩
  obtain ⟨s, hs, hname⟩ := hall (.str n) (List.mem_map_of_mem hn)
  cases hs
  exact hname

/-- Names that are routed to. -/
theorem names_of_read {r : Routing} (hform : RoutingForm members)
    (h : Routing.ofJson? (.obj members) = some r) :
    IsName r.defaultBackend ∧ ∀ kind names, r.rules kind = some names →
      names ≠ [] ∧ names.Nodup ∧ ∀ n ∈ names, IsName n := by
  obtain ⟨hdefault, hrules⟩ := Routing.ofJson?_obj_iff.mp h
  constructor
  · obtain ⟨v, hv, hread⟩ := Record.required_named_iff.mp hdefault
    obtain ⟨s, rfl, hs⟩ := hform.default v hv
    cases hread
    exact hs
  · refine part_of_read (fun rules : TaskKind → Option (List String) =>
      ∀ kind names, rules kind = some names → names ≠ [] ∧ names.Nodup ∧ ∀ n ∈ names, IsName n)
      hform.rules hrules nofun ?_
    exact fun ms hms rules hread => formed_rules hms hread

/-- The table of backends. -/
theorem backends_of_read {t : Table BackendConfig} (hform : BackendsForm members)
    (h : asTable? BackendConfig.ofJson? (.obj members) = some t) :
    ∀ e ∈ t.entries, IsName e.1 ∧ FormedBackend e.2 := by
  intro e he
  obtain ⟨j, hmem, hread⟩ := exists_mem_of_asTable? h he
  obtain ⟨hname, ms, hms, hbackend⟩ := hform _ hmem
  obtain rfl : j = .obj ms := hms
  exact ⟨hname, formedBackend_of_read hbackend hread⟩

/-- The counts of everything that guards calls. -/
theorem counts_of_read {r : ResilienceSettings} (hform : ResilienceForm members)
    (h : ResilienceSettings.ofJson? (.obj members) = some r) :
    (1 ≤ r.breaker.failureThreshold ∧ r.breaker.failureThreshold < UInt32.size) ∧
    (1 ≤ r.retry.maxAttempts ∧ r.retry.maxAttempts < UInt32.size) ∧
    (1 ≤ r.limit.capacity ∧ r.limit.capacity < UInt32.size) := by
  obtain ⟨hb, ht, hl⟩ := ResilienceSettings.ofJson?_obj_iff.mp h
  refine ⟨?_, ?_, ?_⟩
  · exact part_of_read (fun b : BreakerSettings => 1 ≤ b.failureThreshold ∧
      b.failureThreshold < UInt32.size) hform.breaker hb (by decide)
      fun bs hbs y => threshold_of_read hbs
  · exact part_of_read (fun t : RetrySettings => 1 ≤ t.maxAttempts ∧
      t.maxAttempts < UInt32.size) hform.retry ht (by decide) fun ts hts y hy =>
        count_of_read (k := 1) hts.attempts (by decide) (RetrySettings.ofJson?_obj_iff.mp hy).1
  · exact part_of_read (fun l : LimitSettings => 1 ≤ l.capacity ∧
      l.capacity < UInt32.size) hform.limit hl (by decide) fun ls hls y hy =>
        count_of_read (k := 1) hls.capacity (by decide) (LimitSettings.ofJson?_obj_iff.mp hy).1

/-- The counts of history. -/
theorem window_of_read {s : HistorySettings} (hform : HistoryForm members)
    (h : HistorySettings.ofJson? (.obj members) = some s) :
    s.maxWindowTokens < UInt32.size ∧ s.reservedResponseTokens < UInt32.size := by
  obtain ⟨hw, hr, -⟩ := HistorySettings.ofJson?_obj_iff.mp h
  exact ⟨(count_of_read (k := 0) hform.window (by decide) hw).2,
    (count_of_read (k := 0) hform.reserved (by decide) hr).2⟩

theorem path_of_read {s : StorageSettings} (hform : StorageForm members)
    (h : StorageSettings.ofJson? (.obj members) = some s) : s.databasePath ≠ "" := by
  rcases Record.optional_named_iff.mp (StorageSettings.ofJson?_obj_iff.mp h) with
    ⟨-, heq⟩ | ⟨j, hj, hread⟩
  · rw [heq]
    decide
  · obtain ⟨s, rfl, hs⟩ := hform.path j hj
    cases hread
    exact hs

/-- **What is read from a document of the form keeps what the form says.** -/
theorem formed_of_read {c : Config} (hform : DocumentForm members)
    (h : Config.ofJson? (.obj members) = some c) : Formed c := by
  obtain ⟨hrouting, hbackends, hresilience, hhistory, hstorage⟩ := Config.ofJson?_obj_iff.mp h
  obtain ⟨j, hj, hrouting⟩ := Record.required_named_iff.mp hrouting
  obtain ⟨rs, rfl, hrs⟩ := hform.routing j hj
  obtain ⟨hname, hrules⟩ := names_of_read hrs hrouting
  -- the other parts have defaults, which keep it as well
  obtain ⟨hthreshold, hattempts, hcapacity⟩ := part_of_read (fun r : ResilienceSettings =>
      (1 ≤ r.breaker.failureThreshold ∧ r.breaker.failureThreshold < UInt32.size) ∧
      (1 ≤ r.retry.maxAttempts ∧ r.retry.maxAttempts < UInt32.size) ∧
      (1 ≤ r.limit.capacity ∧ r.limit.capacity < UInt32.size))
    hform.resilience hresilience (by decide) fun _ hms _ => counts_of_read hms
  obtain ⟨hwindow, hreserved⟩ := part_of_read (fun s : HistorySettings =>
      s.maxWindowTokens < UInt32.size ∧ s.reservedResponseTokens < UInt32.size)
    hform.history hhistory (by decide) fun _ hms _ => window_of_read hms
  have htable := part_of_read (fun t : Table BackendConfig =>
      ∀ e ∈ t.entries, IsName e.1 ∧ FormedBackend e.2)
    hform.backends hbackends nofun fun _ hms _ => backends_of_read hms
  have hpath := part_of_read (fun s : StorageSettings => s.databasePath ≠ "")
    hform.storage hstorage (by decide) fun _ hms _ => path_of_read hms
  exact ⟨hname, hrules, htable, hthreshold, hattempts, hcapacity, hwindow, hreserved, hpath⟩

end Dispatch.Config
