/-
Dispatch/Proofs/Config/Saving.lean

Configurations saved and loaded again.

A record that was loaded is within its bounds (`Formed`).  Written as a document, and that brought
into name order, such a record has the form that is asked of it and is read as the record again:
one lemma `saved` for each record, and one for the rules and the table of backends, where the order
of what is written and of what is read may differ.  The lemma on a backend asks for breaker
settings of its own: without them the writer puts `null`, and the form knows an object only
(`not_backendForm`).  Texts come in last, where a document is read back from its text
(`legible_toJson`).
-/
import Dispatch.Proofs.Config.Loading
import Dispatch.Proofs.Duration.Text
import Dispatch.Proofs.Json.RoundTrip

namespace Dispatch

open Config.Form Json

/-! ### Fields -/

namespace Config.Form

variable {ms : List (String × Json)} {name : String} {v : Json} {holds : Json → Prop}

theorem under_of_lookup (h : Entries.lookup name ms = some v) (hv : holds v) :
    Under ms name holds := by
  intro w hw
  rw [h] at hw
  cases hw
  exact hv

theorem isCount_int {k n : Nat} (h : k ≤ n) : IsCount k (.int n) :=
  ⟨⟨n, 1⟩, rfl, by simp [Quotient.isWhole], by simp [Quotient.below]; omega⟩

/-- The text of a duration has the form of one. -/
theorem isDuration_toJson (d : Duration) : IsDuration d.toJson := by
  obtain ⟨c, cs, hcs, hdigit, -⟩ := d.exists_format_eq_cons
  refine ⟨d.format, rfl, ?_⟩
  have hblank : isLeadingBlank c = false := by
    refine Bool.eq_false_iff.mpr fun hblank => ?_
    simp only [isLeadingBlank, List.mem_cons, List.not_mem_nil, or_false, decide_eq_true_eq]
      at hblank
    rcases hblank with rfl | rfl | rfl | rfl | rfl | rfl | rfl | rfl | rfl | rfl <;> cases hdigit
  simp [durationPattern, hcs, hblank, hdigit]

end Config.Form

theorem Duration.ofJson?_toJson (d : Duration) : Duration.ofJson? d.toJson = some d :=
  Duration.ofJson?_eq_some_iff.mpr ⟨d.format, rfl, d.parse_format⟩

theorem Duration.canonical_toJson (d : Duration) : d.toJson.canonical = d.toJson := by
  rw [Duration.toJson, canonical]

theorem Json.asNat32?_int {n : Nat} (h : n < UInt32.size) : asNat32? (.int n) = some n :=
  asNat32?_eq_some_iff.mpr ⟨rfl, h⟩

/-! ### Records -/

theorem BreakerSettings.saved {b : BreakerSettings}
    (h : 1 ≤ b.failureThreshold ∧ b.failureThreshold < UInt32.size) :
    ∃ ms, b.toJson.canonical = .obj ms ∧ BreakerForm ms ∧
      BreakerSettings.ofJson? (.obj ms) = some b := by
  obtain ⟨ms, heq, -, hnames, hlookup⟩ := exists_canonical_obj_eq
    [("failure_threshold", .int b.failureThreshold), ("cooldown", b.cooldown.toJson),
      ("window", b.window.toJson)] ["failure_threshold", "cooldown", "window"] rfl (by decide)
  have hthreshold : Entries.lookup "failure_threshold" ms = some (.int b.failureThreshold) := by
    simp [hlookup, Entries.lookup, canonical]
  have hcooldown : Entries.lookup "cooldown" ms = some b.cooldown.toJson := by
    simp [hlookup, Entries.lookup, Duration.canonical_toJson]
  have hwindow : Entries.lookup "window" ms = some b.window.toJson := by
    simp [hlookup, Entries.lookup, Duration.canonical_toJson]
  refine ⟨ms, heq, ⟨hnames, under_of_lookup hthreshold (isCount_int h.1),
    under_of_lookup hcooldown (isDuration_toJson _),
    under_of_lookup hwindow (isDuration_toJson _)⟩, ?_⟩
  refine BreakerSettings.ofJson?_obj_iff.mpr ⟨?_, ?_, ?_⟩
  · rw [Record.optional_of_lookup hthreshold, asNat32?_int h.2]
  · rw [Record.optional_of_lookup hcooldown, Duration.ofJson?_toJson]
  · rw [Record.optional_of_lookup hwindow, Duration.ofJson?_toJson]

theorem Capabilities.saved {c : Capabilities}
    (h : 1 ≤ c.maxTokens ∧ c.maxTokens < UInt32.size) :
    ∃ ms, c.toJson.canonical = .obj ms ∧ CapabilitiesForm ms ∧
      Capabilities.ofJson? (.obj ms) = some c := by
  obtain ⟨ms, heq, -, hnames, hlookup⟩ := exists_canonical_obj_eq
    [("streaming", .bool c.streaming), ("code_context", .bool c.codeContext),
      ("max_tokens", .int c.maxTokens)] ["streaming", "code_context", "max_tokens"] rfl (by decide)
  have hstreaming : Entries.lookup "streaming" ms = some (.bool c.streaming) := by
    simp [hlookup, Entries.lookup, canonical]
  have hcode : Entries.lookup "code_context" ms = some (.bool c.codeContext) := by
    simp [hlookup, Entries.lookup, canonical]
  have htokens : Entries.lookup "max_tokens" ms = some (.int c.maxTokens) := by
    simp [hlookup, Entries.lookup, canonical]
  refine ⟨ms, heq, ⟨⟨_, htokens⟩, hnames, under_of_lookup hstreaming ⟨_, rfl⟩,
    under_of_lookup hcode ⟨_, rfl⟩, under_of_lookup htokens (isCount_int h.1)⟩, ?_⟩
  refine Capabilities.ofJson?_obj_iff.mpr ⟨?_, ?_, ?_⟩
  · rw [Record.optional_of_lookup hstreaming, asBool?]
  · rw [Record.optional_of_lookup hcode, asBool?]
  · exact Record.required_named_iff.mpr ⟨_, htokens, asNat32?_int h.2⟩

theorem RetrySettings.saved {r : RetrySettings}
    (h : 1 ≤ r.maxAttempts ∧ r.maxAttempts < UInt32.size) :
    ∃ ms, r.toJson.canonical = .obj ms ∧ RetryForm ms ∧
      RetrySettings.ofJson? (.obj ms) = some r := by
  obtain ⟨ms, heq, -, hnames, hlookup⟩ := exists_canonical_obj_eq
    [("max_attempts", .int r.maxAttempts), ("base_delay", r.baseDelay.toJson),
      ("max_delay", r.maxDelay.toJson), ("deadline", r.deadline.toJson)]
    ["max_attempts", "base_delay", "max_delay", "deadline"] rfl (by decide)
  have hattempts : Entries.lookup "max_attempts" ms = some (.int r.maxAttempts) := by
    simp [hlookup, Entries.lookup, canonical]
  have hbase : Entries.lookup "base_delay" ms = some r.baseDelay.toJson := by
    simp [hlookup, Entries.lookup, Duration.canonical_toJson]
  have hmax : Entries.lookup "max_delay" ms = some r.maxDelay.toJson := by
    simp [hlookup, Entries.lookup, Duration.canonical_toJson]
  have hdeadline : Entries.lookup "deadline" ms = some r.deadline.toJson := by
    simp [hlookup, Entries.lookup, Duration.canonical_toJson]
  refine ⟨ms, heq, ⟨hnames, under_of_lookup hattempts (isCount_int h.1),
    under_of_lookup hbase (isDuration_toJson _), under_of_lookup hmax (isDuration_toJson _),
    under_of_lookup hdeadline (isDuration_toJson _)⟩, ?_⟩
  refine RetrySettings.ofJson?_obj_iff.mpr ⟨?_, ?_, ?_, ?_⟩
  · rw [Record.optional_of_lookup hattempts, asNat32?_int h.2]
  · rw [Record.optional_of_lookup hbase, Duration.ofJson?_toJson]
  · rw [Record.optional_of_lookup hmax, Duration.ofJson?_toJson]
  · rw [Record.optional_of_lookup hdeadline, Duration.ofJson?_toJson]

theorem LimitSettings.saved {l : LimitSettings} (h : 1 ≤ l.capacity ∧ l.capacity < UInt32.size)
    (hrate : l.refillRate.isFinite = true ∧ 0.0 < l.refillRate) :
    ∃ ms, l.toJson.canonical = .obj ms ∧ LimitForm ms ∧
      LimitSettings.ofJson? (.obj ms) = some l := by
  obtain ⟨ms, heq, -, hnames, hlookup⟩ := exists_canonical_obj_eq
    [("capacity", .int l.capacity), ("refill_rate", .float l.refillRate)]
    ["capacity", "refill_rate"] rfl (by decide)
  have hcapacity : Entries.lookup "capacity" ms = some (.int l.capacity) := by
    simp [hlookup, Entries.lookup, canonical]
  have hfloat : Entries.lookup "refill_rate" ms = some (.float l.refillRate) := by
    simp [hlookup, Entries.lookup, canonical]
  refine ⟨ms, heq, ⟨hnames, under_of_lookup hcapacity (isCount_int h.1),
    under_of_lookup hfloat (Config.isRate_float_iff.mpr hrate)⟩, ?_⟩
  refine LimitSettings.ofJson?_obj_iff.mpr ⟨?_, ?_⟩
  · rw [Record.optional_of_lookup hcapacity, asNat32?_int h.2]
  · rw [Record.optional_of_lookup hfloat, asFloat?]

theorem ResilienceSettings.saved {r : ResilienceSettings}
    (hthreshold : 1 ≤ r.breaker.failureThreshold ∧ r.breaker.failureThreshold < UInt32.size)
    (hattempts : 1 ≤ r.retry.maxAttempts ∧ r.retry.maxAttempts < UInt32.size)
    (hcapacity : 1 ≤ r.limit.capacity ∧ r.limit.capacity < UInt32.size)
    (hrate : r.limit.refillRate.isFinite = true ∧ 0.0 < r.limit.refillRate) :
    ∃ ms, r.toJson.canonical = .obj ms ∧ ResilienceForm ms ∧
      ResilienceSettings.ofJson? (.obj ms) = some r := by
  obtain ⟨bs, hbs, hbform, hbread⟩ := BreakerSettings.saved hthreshold
  obtain ⟨rs, hrs, hrform, hrread⟩ := RetrySettings.saved hattempts
  obtain ⟨ls, hls, hlform, hlread⟩ := LimitSettings.saved hcapacity hrate
  obtain ⟨ms, heq, -, hnames, hlookup⟩ := exists_canonical_obj_eq
    [("breaker", r.breaker.toJson), ("retry", r.retry.toJson),
      ("rate_limit", r.limit.toJson)] ["breaker", "retry", "rate_limit"] rfl (by decide)
  have hbreaker : Entries.lookup "breaker" ms = some (.obj bs) := by
    simp [hlookup, Entries.lookup, hbs]
  have hretry : Entries.lookup "retry" ms = some (.obj rs) := by
    simp [hlookup, Entries.lookup, hrs]
  have hlimit : Entries.lookup "rate_limit" ms = some (.obj ls) := by
    simp [hlookup, Entries.lookup, hls]
  refine ⟨ms, heq, ⟨hnames, under_of_lookup hbreaker ⟨_, rfl, hbform⟩,
    under_of_lookup hretry ⟨_, rfl, hrform⟩, under_of_lookup hlimit ⟨_, rfl, hlform⟩⟩, ?_⟩
  refine ResilienceSettings.ofJson?_obj_iff.mpr ⟨?_, ?_, ?_⟩
  · rw [Record.optional_of_lookup hbreaker, hbread]
  · rw [Record.optional_of_lookup hretry, hrread]
  · rw [Record.optional_of_lookup hlimit, hlread]

theorem HistorySettings.saved {h : HistorySettings} (hwindow : h.maxWindowTokens < UInt32.size)
    (hreserved : h.reservedResponseTokens < UInt32.size) :
    ∃ ms, h.toJson.canonical = .obj ms ∧ HistoryForm ms ∧
      HistorySettings.ofJson? (.obj ms) = some h := by
  obtain ⟨ms, heq, -, hnames, hlookup⟩ := exists_canonical_obj_eq
    [("max_window_tokens", .int h.maxWindowTokens),
      ("reserved_response_tokens", .int h.reservedResponseTokens),
      ("call_timeout", h.callTimeout.toJson)]
    ["max_window_tokens", "reserved_response_tokens", "call_timeout"] rfl (by decide)
  have hmax : Entries.lookup "max_window_tokens" ms = some (.int h.maxWindowTokens) := by
    simp [hlookup, Entries.lookup, canonical]
  have hresponse : Entries.lookup "reserved_response_tokens" ms
      = some (.int h.reservedResponseTokens) := by
    simp [hlookup, Entries.lookup, canonical]
  have htimeout : Entries.lookup "call_timeout" ms = some h.callTimeout.toJson := by
    simp [hlookup, Entries.lookup, Duration.canonical_toJson]
  refine ⟨ms, heq, ⟨hnames, under_of_lookup hmax (isCount_int (k := 0) (Nat.zero_le _)),
    under_of_lookup hresponse (isCount_int (k := 0) (Nat.zero_le _)),
    under_of_lookup htimeout (isDuration_toJson _)⟩, ?_⟩
  refine HistorySettings.ofJson?_obj_iff.mpr ⟨?_, ?_, ?_⟩
  · rw [Record.optional_of_lookup hmax, asNat32?_int hwindow]
  · rw [Record.optional_of_lookup hresponse, asNat32?_int hreserved]
  · rw [Record.optional_of_lookup htimeout, Duration.ofJson?_toJson]

theorem StorageSettings.saved {s : StorageSettings} (h : s.databasePath ≠ "") :
    ∃ ms, s.toJson.canonical = .obj ms ∧ StorageForm ms ∧
      StorageSettings.ofJson? (.obj ms) = some s := by
  obtain ⟨ms, heq, -, hnames, hlookup⟩ := exists_canonical_obj_eq
    [("database_path", .str s.databasePath)] ["database_path"] rfl (by decide)
  have hpath : Entries.lookup "database_path" ms = some (.str s.databasePath) := by
    simp [hlookup, Entries.lookup, canonical]
  refine ⟨ms, heq, ⟨hnames, under_of_lookup hpath ⟨_, rfl, h⟩⟩, ?_⟩
  exact StorageSettings.ofJson?_obj_iff.mpr (Record.optional_of_lookup hpath)

/-! ### Routing -/

/-- Different texts do not mean the same. -/
theorem Json.distinct_of_nodup {names : List String} (h : names.Nodup) :
    Json.distinct (names.map .str) = true := by
  induction names with
  | nil => rfl
  | cons name names ih =>
    obtain ⟨hname, hnames⟩ := List.nodup_cons.mp h
    simp only [List.map_cons, Json.distinct, Bool.and_eq_true, Bool.not_eq_true', ih hnames,
      and_true]
    refine List.any_eq_false.mpr fun j hj hsame => ?_
    obtain ⟨other, hother, rfl⟩ := List.mem_map.mp hj
    have heq : name = other := by simpa [Json.same, Json.sameLeaf] using hsame
    exact hname (heq ▸ hother)

namespace Routing

/-- The rules as they are written. -/
def writtenRules (r : Routing) : List (String × Json) :=
  r.ruleList.map fun e => (e.1.tag, Json.strings e.2)

theorem nodup_writtenRules (r : Routing) : (r.writtenRules.map Prod.fst).Nodup := by
  have hlist : r.ruleList.Nodup := by
    refine List.Nodup.filterMap (fun a a' e he he' => ?_) (by decide)
    obtain ⟨_, -, rfl⟩ := Option.map_eq_some_iff.mp he
    obtain ⟨_, -, heq⟩ := Option.map_eq_some_iff.mp he'
    exact (congrArg Prod.fst heq).symm
  rw [writtenRules, List.map_map]
  refine List.Nodup.map_on (fun e he e' he' heq => ?_) hlist
  have hkind : e.1 = e'.1 := TaskKind.tag_injective heq
  have hrule := mem_ruleList_iff.mp he
  have hrule' := mem_ruleList_iff.mp he'
  rw [hkind, hrule'] at hrule
  exact Prod.ext hkind (Option.some.inj hrule).symm

theorem mem_writtenRules_iff {r : Routing} {kind : TaskKind} {names : List String} :
    (kind.tag, Json.strings names) ∈ r.writtenRules ↔ r.rules kind = some names := by
  rw [← mem_ruleList_iff, writtenRules, List.mem_map]
  constructor
  · rintro ⟨⟨k, ns⟩, hmem, heq⟩
    have hkind : k = kind := TaskKind.tag_injective (congrArg Prod.fst heq)
    have hnames : ns = names := by
      have := congrArg Prod.snd heq
      simpa [Json.strings, List.map_inj_right] using this
    exact hkind ▸ hnames ▸ hmem
  · exact fun h => ⟨_, h, rfl⟩

/-- Rules are read back, in whatever order they stand. -/
theorem rules_saved {r : Routing} (h : ∀ kind names, r.rules kind = some names →
      names ≠ [] ∧ names.Nodup ∧ ∀ n ∈ names, IsName n) :
    ∃ ms, canonical (.obj r.writtenRules) = .obj ms ∧ RulesForm ms ∧
      rulesOf? (.obj ms) = some r.rules := by
  obtain ⟨ms, heq, hsorted, -, hlookup⟩ := exists_canonical_obj_eq _ _ rfl r.nodup_writtenRules
  -- what is read back stands under the tag of a kind
  have hmem : ∀ m ∈ ms, ∃ kind names, m = (kind.tag, Json.strings names) ∧
      r.rules kind = some names := by
    rintro ⟨name, v⟩ hm
    have hv := Entries.lookup_eq_some_of_mem hsorted hm
    rw [hlookup, Option.map_eq_some_iff] at hv
    obtain ⟨j, hj, rfl⟩ := hv
    obtain ⟨⟨kind, names⟩, hrule, hpair⟩ := List.mem_map.mp (Entries.mem_of_lookup_eq_some hj)
    cases hpair
    exact ⟨kind, names, by rw [canonical_strings], mem_ruleList_iff.mp hrule⟩
  have hform : RulesForm ms := by
    intro m hm
    obtain ⟨kind, names, rfl, hrule⟩ := hmem m hm
    obtain ⟨hne, hnodup, hnames⟩ := h kind names hrule
    refine ⟨List.mem_map_of_mem (TaskKind.mem_byName kind), names.map .str, rfl, by simpa using hne,
      distinct_of_nodup hnodup, fun item hitem => ?_⟩
    obtain ⟨n, hn, rfl⟩ := List.mem_map.mp hitem
    exact ⟨n, rfl, hnames n hn⟩
  obtain ⟨rules, hread⟩ := Config.exists_rules hform
  -- the rules that are read are those that were written: both stand in the document
  refine ⟨ms, heq, hform,
    hread.trans (congrArg some (funext fun kind => Option.ext fun names => ?_))⟩
  constructor
  · intro hrule
    obtain ⟨kind', names', hpair, hrule'⟩ := hmem _ (mem_of_rulesOf? hread hrule)
    have hkind := mem_writtenRules_iff.mpr hrule'
    rw [← hpair] at hkind
    exact mem_writtenRules_iff.mp hkind
  · intro hrule
    have hwritten := Entries.lookup_eq_some_of_nodup r.nodup_writtenRules
      (mem_writtenRules_iff.mpr hrule)
    have hfound := hlookup kind.tag
    rw [hwritten, Option.map_some, canonical_strings] at hfound
    exact rule_of_mem hread hsorted.nodup (Entries.mem_of_lookup_eq_some hfound)

theorem saved {r : Routing} (hname : IsName r.defaultBackend)
    (h : ∀ kind names, r.rules kind = some names →
      names ≠ [] ∧ names.Nodup ∧ ∀ n ∈ names, IsName n) :
    ∃ ms, r.toJson.canonical = .obj ms ∧ RoutingForm ms ∧ Routing.ofJson? (.obj ms) = some r := by
  obtain ⟨rs, hrs, hrform, hrread⟩ := rules_saved h
  obtain ⟨ms, heq, -, hnames, hlookup⟩ := exists_canonical_obj_eq
    [("default_backend", .str r.defaultBackend), ("rules", .obj r.writtenRules)]
    ["default_backend", "rules"] rfl (by decide)
  have hdefault : Entries.lookup "default_backend" ms = some (.str r.defaultBackend) := by
    simp [hlookup, Entries.lookup, canonical]
  have hrules : Entries.lookup "rules" ms = some (.obj rs) := by
    simp [hlookup, Entries.lookup, hrs]
  refine ⟨ms, heq, ⟨⟨_, hdefault⟩, hnames, under_of_lookup hdefault ⟨_, rfl, hname⟩,
    under_of_lookup hrules ⟨_, rfl, hrform⟩⟩, ?_⟩
  refine Routing.ofJson?_obj_iff.mpr ⟨?_, ?_⟩
  · exact Record.required_named_iff.mpr ⟨_, hdefault, rfl⟩
  · rw [Record.optional_of_lookup hrules, hrread]

end Routing

/-! ### Backends -/

theorem BackendConfig.saved {b : BackendConfig} {s : BreakerSettings} (h : Config.FormedBackend b)
    (hown : b.breaker = some s) :
    ∃ ms, b.toJson.canonical = .obj ms ∧ BackendForm ms ∧
      BackendConfig.ofJson? (.obj ms) = some b := by
  obtain ⟨cs, hcs, hcform, hcread⟩ := Capabilities.saved h.tokens
  obtain ⟨bs, hbs, hbform, hbread⟩ := BreakerSettings.saved (h.threshold s hown)
  obtain ⟨ms, heq, -, hnames, hlookup⟩ := exists_canonical_obj_eq
    [("capabilities", b.capabilities.toJson),
      ("breaker", .ofOption BreakerSettings.toJson b.breaker), ("enabled", .bool b.enabled)]
    ["capabilities", "breaker", "enabled"] rfl (by decide)
  have hcapabilities : Entries.lookup "capabilities" ms = some (.obj cs) := by
    simp [hlookup, Entries.lookup, hcs]
  have hbreaker : Entries.lookup "breaker" ms = some (.obj bs) := by
    simp [hlookup, Entries.lookup, hown, ofOption, hbs]
  have henabled : Entries.lookup "enabled" ms = some (.bool b.enabled) := by
    simp [hlookup, Entries.lookup, canonical]
  refine ⟨ms, heq, ⟨⟨_, hcapabilities⟩, hnames, under_of_lookup hcapabilities ⟨_, rfl, hcform⟩,
    under_of_lookup hbreaker ⟨_, rfl, hbform⟩, under_of_lookup henabled ⟨_, rfl⟩⟩, ?_⟩
  refine BackendConfig.ofJson?_obj_iff.mpr ⟨?_, ?_, ?_⟩
  · exact Record.required_named_iff.mpr ⟨_, hcapabilities, hcread⟩
  · rw [Record.optional_of_lookup hbreaker, asOption?, hbread, hown]
    · rfl
    · exact Json.noConfusion
  · rw [Record.optional_of_lookup henabled, asBool?]

namespace Config

/-- A backend with settings of its own for the breaker. -/
def HasOwnBreakers (c : Config) : Prop := ∀ e ∈ c.backends.entries, e.2.breaker ≠ none

instance (c : Config) : Decidable c.HasOwnBreakers :=
  inferInstanceAs (Decidable (∀ e ∈ c.backends.entries, e.2.breaker ≠ none))

/-- The backends as they are written. -/
def writtenBackends (c : Config) : Table Json := c.backends.mapValues fun _ b => b.toJson

/-- The table of backends is written in name order. -/
theorem canonical_writtenBackends (c : Config) :
    canonical (.obj c.writtenBackends.entries)
      = .obj (c.backends.entries.map fun e => (e.1, e.2.toJson.canonical)) := by
  rw [canonical_obj_of_sorted c.writtenBackends.sorted, writtenBackends, Table.mapValues,
    List.map_map]
  rfl

theorem backends_saved {c : Config} (hformed : Formed c) (hown : c.HasOwnBreakers) :
    BackendsForm (c.backends.entries.map fun e => (e.1, e.2.toJson.canonical)) ∧
      asTable? BackendConfig.ofJson?
        (.obj (c.backends.entries.map fun e => (e.1, e.2.toJson.canonical))) = some c.backends := by
  have hsaved : ∀ e ∈ c.backends.entries, ∃ ms, e.2.toJson.canonical = .obj ms ∧ BackendForm ms ∧
      BackendConfig.ofJson? (.obj ms) = some e.2 := fun e he => by
    obtain ⟨s, hs⟩ := Option.ne_none_iff_exists'.mp (hown e he)
    exact BackendConfig.saved (hformed.backends e he).2 hs
  constructor
  · intro m hm
    obtain ⟨e, he, rfl⟩ := List.mem_map.mp hm
    obtain ⟨ms, hms, hform, -⟩ := hsaved e he
    exact ⟨(hformed.backends e he).1, ms, hms, hform⟩
  · refine asTable?_obj_iff.mpr ⟨c.backends.entries, ?_, ?_⟩
    · rw [List.forall₂_map_left_iff, List.forall₂_same]
      intro e he
      obtain ⟨ms, hms, -, hread⟩ := hsaved e he
      exact ⟨rfl, hms ▸ hread⟩
    · exact Table.ofList_entries c.backends

/-- Breaker settings that are not there are written as `null`, and that is no object. -/
theorem not_backendForm {b : BackendConfig} (h : b.breaker = none) :
    ¬ ∃ ms, b.toJson.canonical = .obj ms ∧ BackendForm ms := by
  rintro ⟨ms, heq, hform⟩
  obtain ⟨ms', heq', -, -, hlookup⟩ := exists_canonical_obj_eq
    [("capabilities", b.capabilities.toJson),
      ("breaker", .ofOption BreakerSettings.toJson b.breaker), ("enabled", .bool b.enabled)]
    ["capabilities", "breaker", "enabled"] rfl (by decide)
  obtain rfl : ms' = ms := Json.obj.inj (heq'.symm.trans heq)
  have hbreaker : Entries.lookup "breaker" ms' = some .null := by
    simp [hlookup, Entries.lookup, h, ofOption, canonical]
  obtain ⟨bs, hbs, -⟩ := hform.breaker _ hbreaker
  cases hbs

/-! ### Configurations -/

/-- The parts of a configuration are read back under their names. -/
theorem exists_canonical_toJson_eq (c : Config) :
    ∃ ms, c.toJson.canonical = .obj ms ∧
      Within ms ["routing", "backends", "resilience", "context", "storage"] ∧
      Entries.lookup "routing" ms = some c.routing.toJson.canonical ∧
      Entries.lookup "backends" ms
        = some (.obj (c.backends.entries.map fun e => (e.1, e.2.toJson.canonical))) ∧
      Entries.lookup "resilience" ms = some c.resilience.toJson.canonical ∧
      Entries.lookup "context" ms = some c.history.toJson.canonical ∧
      Entries.lookup "storage" ms = some c.storage.toJson.canonical := by
  obtain ⟨ms, heq, -, hnames, hlookup⟩ := exists_canonical_obj_eq
    [("routing", c.routing.toJson), ("backends", .obj c.writtenBackends.entries),
      ("resilience", c.resilience.toJson), ("context", c.history.toJson),
      ("storage", c.storage.toJson)]
    ["routing", "backends", "resilience", "context", "storage"] rfl (by decide)
  refine ⟨ms, heq, hnames, ?_, ?_, ?_, ?_, ?_⟩ <;>
    simp [hlookup, Entries.lookup, canonical_writtenBackends]

/-- **A configuration is read back from what is written of it**, if every backend has breaker
settings of its own. -/
theorem saved {c : Config} (hformed : Formed c)
    (hrate : c.resilience.limit.refillRate.isFinite = true ∧ 0.0 < c.resilience.limit.refillRate)
    (hown : c.HasOwnBreakers) :
    ∃ ms, c.toJson.canonical = .obj ms ∧ DocumentForm ms ∧ Config.ofJson? (.obj ms) = some c := by
  obtain ⟨ms, heq, hnames, hrouting, hbackends, hresilience, hhistory, hstorage⟩ :=
    c.exists_canonical_toJson_eq
  obtain ⟨rs, hrs, hrform, hrread⟩ := Routing.saved hformed.name hformed.rules
  obtain ⟨hbform, hbread⟩ := backends_saved hformed hown
  obtain ⟨ss, hss, hsform, hsread⟩ := ResilienceSettings.saved hformed.threshold hformed.attempts
    hformed.capacity hrate
  obtain ⟨hs, hhs, hhform, hhread⟩ := HistorySettings.saved hformed.window hformed.reserved
  obtain ⟨ps, hps, hpform, hpread⟩ := StorageSettings.saved hformed.path
  rw [hrs] at hrouting
  rw [hss] at hresilience
  rw [hhs] at hhistory
  rw [hps] at hstorage
  refine ⟨ms, heq, ⟨⟨_, hrouting⟩, hnames, under_of_lookup hrouting ⟨_, rfl, hrform⟩,
    under_of_lookup hbackends ⟨_, rfl, hbform⟩, under_of_lookup hresilience ⟨_, rfl, hsform⟩,
    under_of_lookup hhistory ⟨_, rfl, hhform⟩, under_of_lookup hstorage ⟨_, rfl, hpform⟩⟩, ?_⟩
  refine Config.ofJson?_obj_iff.mpr ⟨?_, ?_, ?_, ?_, ?_⟩
  · exact Record.required_named_iff.mpr ⟨_, hrouting, hrread⟩
  · rw [Record.optional_of_lookup hbackends, hbread]
  · rw [Record.optional_of_lookup hresilience, hsread]
  · rw [Record.optional_of_lookup hhistory, hhread]
  · rw [Record.optional_of_lookup hstorage, hpread]

/-- A backend without breaker settings of its own spoils the document. -/
theorem not_valid_of_not_hasOwnBreakers {c : Config} (h : ¬ c.HasOwnBreakers) :
    Form.document.valid c.toJson.canonical = false := by
  refine Bool.eq_false_iff.mpr fun hvalid => h fun e he hnone => ?_
  obtain ⟨ms, heq, hform⟩ := document_valid_iff.mp hvalid
  obtain ⟨ms', heq', -, -, hbackends, -⟩ := c.exists_canonical_toJson_eq
  obtain rfl : ms' = ms := Json.obj.inj (heq'.symm.trans heq)
  obtain ⟨bs, hbs, hbsform⟩ := hform.backends _ hbackends
  obtain rfl := Json.obj.inj hbs
  obtain ⟨-, b, hb, hbform⟩ := hbsform _ (List.mem_map_of_mem he)
  exact not_backendForm hnone ⟨b, hb, hbform⟩

end Config

/-! ### Texts -/

section

variable {depth : Nat}

theorem Json.legible_nat {n : Nat} (h : n < UInt32.size) : (Json.int n).Legible depth := by
  have hsize : UInt32.size = 4294967296 := rfl
  rw [Legible]
  omega

theorem Duration.legible_toJson (d : Duration) : d.toJson.Legible depth := legible_str

/-- **Durations survive a reload.**  What is written of a duration is read back as the same
duration, from the text of a document too, and it has the form that is asked of durations. -/
theorem Duration.survives_reload (d : Duration) :
    Duration.parse d.format = .ok d ∧ durationPattern.accepts d.format = true ∧
      Json.parse d.toJson.compact = .ok d.toJson ∧ duration.valid d.toJson = true ∧
      Duration.ofJson? d.toJson = some d := by
  have hform := isDuration_toJson d
  refine ⟨d.parse_format, ?_, ?_, Schema.valid_iff.mpr (duration_iff.mpr hform), d.ofJson?_toJson⟩
  · obtain ⟨text, htext, haccepts⟩ := hform
    cases htext
    exact haccepts
  · rw [Json.parse_compact d.legible_toJson, d.canonical_toJson]

/-- The longest duration has items of nearly all units. -/
example : Duration.max.format
    = "584542046090years 7months 15days 17h 5m 3s 999ms 999us 999ns" := by
  decide

theorem BreakerSettings.legible_toJson {b : BreakerSettings} (hdepth : 1 < depth)
    (h : b.failureThreshold < UInt32.size) : b.toJson.Legible depth := by
  simp [BreakerSettings.toJson, legible_obj_iff, hdepth, legible_nat h, Duration.legible_toJson]

theorem RetrySettings.legible_toJson {r : RetrySettings} (hdepth : 1 < depth)
    (h : r.maxAttempts < UInt32.size) : r.toJson.Legible depth := by
  simp [RetrySettings.toJson, legible_obj_iff, hdepth, legible_nat h, Duration.legible_toJson]

theorem LimitSettings.legible_toJson {l : LimitSettings} (hdepth : 1 < depth)
    (h : l.capacity < UInt32.size)
    (hrate : Json.parse (floatText l.refillRate) = .ok (.float l.refillRate)) :
    l.toJson.Legible depth := by
  have hfloat : (Json.float l.refillRate).Legible (depth - 1) := by
    rw [Legible]
    exact hrate
  simp [LimitSettings.toJson, legible_obj_iff, hdepth, legible_nat h, hfloat]

/-- The default rate is read back from its text. -/
theorem LimitSettings.parse_defaultRate :
    Json.parse (floatText ({} : LimitSettings).refillRate)
      = .ok (.float ({} : LimitSettings).refillRate) := by
  have htext : floatText ({} : LimitSettings).refillRate = "1.0" := by decide +kernel
  have hvalue : (NumberText.mk false ['1'] (some ['0']) none).magnitude? = some 1.0 := by
    decide +kernel
  have hnumber : (NumberText.mk false ['1'] (some ['0']) none).toJson = .ok (.float 1.0) := by
    simp [NumberText.toJson, hvalue]
  have hread : Leaves (readMagnitude false ['1', '.', '0']) (.float 1.0) [] :=
    leaves_readMagnitude_iff.mpr ⟨['1'], ['.', '0'], some ['0'], [], none, ⟨_, rfl, rfl⟩,
      ⟨_, rfl, rfl⟩, ⟨_, rfl, rfl⟩, hnumber⟩
  rw [htext]
  exact parse_eq_ok_iff.mpr (((takeValue_digit_iff (by decide)).mpr hread).blanks ends_nil)

theorem HistorySettings.legible_toJson {s : HistorySettings} (hdepth : 1 < depth)
    (hwindow : s.maxWindowTokens < UInt32.size)
    (hreserved : s.reservedResponseTokens < UInt32.size) : s.toJson.Legible depth := by
  simp [HistorySettings.toJson, legible_obj_iff, hdepth, legible_nat hwindow,
    legible_nat hreserved, Duration.legible_toJson]

theorem Capabilities.legible_toJson {c : Capabilities} (hdepth : 1 < depth)
    (h : c.maxTokens < UInt32.size) : c.toJson.Legible depth := by
  simp [Capabilities.toJson, legible_obj_iff, hdepth, legible_nat h]

theorem Routing.legible_toJson (r : Routing) (hdepth : 3 < depth) : r.toJson.Legible depth := by
  have hrule (names : List String) : (Json.strings names).Legible (depth - 1 - 1) := by
    refine legible_arr_iff.mpr ⟨by omega, fun j hj => ?_⟩
    obtain ⟨s, -, rfl⟩ := List.mem_map.mp hj
    exact legible_str
  have hrules : (Json.obj r.writtenRules).Legible (depth - 1) := by
    refine legible_obj_iff.mpr ⟨by omega, fun m hm => ?_⟩
    obtain ⟨e, -, rfl⟩ := List.mem_map.mp hm
    exact hrule e.2
  rw [Routing.toJson, legible_obj_iff]
  simp only [List.forall_mem_cons, legible_str, true_and]
  exact ⟨by omega, hrules, List.forall_mem_nil _⟩

theorem BackendConfig.legible_toJson {b : BackendConfig} (hdepth : 2 < depth)
    (h : Config.FormedBackend b) : b.toJson.Legible depth := by
  have hcapabilities : b.capabilities.toJson.Legible (depth - 1) :=
    Capabilities.legible_toJson (by omega) h.tokens.2
  have hbreaker : (Json.ofOption BreakerSettings.toJson b.breaker).Legible (depth - 1) := by
    cases hown : b.breaker with
    | none => exact legible_null
    | some s => exact BreakerSettings.legible_toJson (by omega) (h.threshold s hown).2
  rw [BackendConfig.toJson, legible_obj_iff]
  simp only [List.forall_mem_cons, legible_bool, true_and]
  exact ⟨by omega, hcapabilities, hbreaker, List.forall_mem_nil _⟩

/-- A configuration can be read from its text, if its one float can. -/
theorem Config.legible_toJson {c : Config} (hdepth : 4 < depth) (hformed : Config.Formed c)
    (hrate : Json.parse (floatText c.resilience.limit.refillRate)
      = .ok (.float c.resilience.limit.refillRate)) : c.toJson.Legible depth := by
  have hbackends : (Json.obj c.writtenBackends.entries).Legible (depth - 1) := by
    refine legible_obj_iff.mpr ⟨by omega, fun m hm => ?_⟩
    obtain ⟨e, he, rfl⟩ := List.mem_map.mp hm
    exact BackendConfig.legible_toJson (by omega) (hformed.backends e he).2
  have hresilience : c.resilience.toJson.Legible (depth - 1) := by
    rw [ResilienceSettings.toJson, legible_obj_iff]
    simp only [List.forall_mem_cons]
    exact ⟨by omega, BreakerSettings.legible_toJson (by omega) hformed.threshold.2,
      RetrySettings.legible_toJson (by omega) hformed.attempts.2,
      LimitSettings.legible_toJson (by omega) hformed.capacity.2 hrate, List.forall_mem_nil _⟩
  have hhistory : c.history.toJson.Legible (depth - 1) :=
    HistorySettings.legible_toJson (by omega) hformed.window hformed.reserved
  have hstorage : c.storage.toJson.Legible (depth - 1) := by
    simp [StorageSettings.toJson, legible_obj_iff]
    omega
  rw [Config.toJson, legible_obj_iff]
  simp only [List.forall_mem_cons]
  exact ⟨by omega, Routing.legible_toJson _ (by omega), hbackends, hresilience, hhistory, hstorage,
    List.forall_mem_nil _⟩

end

/-! ### Saving and loading -/

namespace Config

/-- What has been loaded has the form of a configuration, and makes sense. -/
theorem formed_of_ofDocument {document : Json} {c : Config} (h : ofDocument document = .ok c) :
    Formed c ∧ c.validate = .ok () := by
  unfold ofDocument at h
  split at h
  · cases h
  · next hvalid =>
    rw [Bool.not_eq_true', Bool.not_eq_false] at hvalid
    obtain ⟨members, rfl, hform⟩ := document_valid_iff.mp hvalid
    split at h
    · cases h
    · next c' hread =>
      split at h
      · cases h
      · next hcheck =>
        cases h
        exact ⟨formed_of_read hform hread, hcheck⟩

theorem formed_of_load {text : String} {c : Config}
    (h : ofJsonText text = .ok c ∨ ofYamlText text = .ok c) : Formed c ∧ c.validate = .ok () := by
  rcases h with h | h
  · unfold ofJsonText at h
    split at h
    · cases h
    · exact formed_of_ofDocument h
  · unfold ofYamlText at h
    split at h
    · cases h
    · exact formed_of_ofDocument h

/-- The text of a document that can be read leads to the configuration of the document. -/
theorem ofJsonText_compact {document : Json} (h : document.Legible maxDepth) :
    ofJsonText document.compact = ofDocument document.canonical := by
  rw [ofJsonText, parse_compact h]

/-- **A saved configuration is loaded again exactly if every backend has breaker settings of its
own.**  Otherwise the text does not have the form of a configuration.  The one float of a
configuration has to be read back from its text. -/
theorem saved_loads_iff {text : String} {c : Config}
    (hload : ofJsonText text = .ok c ∨ ofYamlText text = .ok c)
    (hrate : Json.parse (floatText c.resilience.limit.refillRate)
      = .ok (.float c.resilience.limit.refillRate)) :
    (c.HasOwnBreakers → ofJsonText c.toJson.compact = .ok c) ∧
    (¬ c.HasOwnBreakers → ∃ messages, ofJsonText c.toJson.compact = .error (.form messages)) := by
  -- it was loaded, so it is within the bounds of the form, and it was checked
  obtain ⟨hformed, hcheck⟩ := formed_of_load hload
  rw [ofJsonText_compact (legible_toJson (by decide) hformed hrate)]
  constructor
  · intro hown
    have hlimit := (validate_eq_ok_iff.mp hcheck).limit
    obtain ⟨ms, heq, hform, hread⟩ := saved hformed ⟨hlimit.rate_finite, hlimit.rate_pos⟩ hown
    have hvalid : Form.document.valid (.obj ms) = true := document_valid_iff.mpr ⟨ms, rfl, hform⟩
    rw [heq]
    simp only [ofDocument, hvalid, hread, hcheck, Bool.not_true, Bool.false_eq_true, if_false]
  · intro hown
    simp only [ofDocument, not_valid_of_not_hasOwnBreakers hown, Bool.not_false, if_true]
    exact ⟨_, rfl⟩

/-- A backend with breaker settings of its own, all of them defaults. -/
theorem saved_loads_own_breaker :
    let document : Json := .obj [("routing", .obj [("default_backend", .str "a")]),
      ("backends", .obj [("a", .obj [("capabilities", .obj [("max_tokens", .int 1)]),
        ("breaker", .obj [])])])]
    let c : Config := {
      routing := { defaultBackend := "a" }
      backends := Table.ofList [("a", { capabilities := { maxTokens := 1 }, breaker := some {} })] }
    ofJsonText document.compact = .ok c ∧ ofJsonText c.toJson.compact = .ok c := by
  intro document c
  have hlegible : document.Legible maxDepth := by
    simp [document, maxDepth, Legible, LegibleMembers]
  have hdocument : ofDocument document.canonical = .ok c := by decide +kernel
  have hload : ofJsonText document.compact = .ok c := (ofJsonText_compact hlegible).trans hdocument
  have hown : c.HasOwnBreakers := by decide +kernel
  exact ⟨hload, (saved_loads_iff (.inl hload) LimitSettings.parse_defaultRate).1 hown⟩

/-- A backend without breaker settings of its own.  What was saved is read as the document that was
written, and refused for the `null` in it. -/
theorem saved_refused :
    let text := "\x7b\"routing\":\x7b\"default_backend\":\"a\"\x7d,\"backends\":" ++
      "\x7b\"a\":\x7b\"capabilities\":\x7b\"max_tokens\":1\x7d\x7d\x7d\x7d"
    let c : Config := {
      routing := { defaultBackend := "a" }
      backends := Table.ofList [("a", { capabilities := { maxTokens := 1 } })] }
    ofJsonText text = .ok c ∧ Json.parse c.toJson.compact = .ok c.toJson.canonical ∧
      ofJsonText c.toJson.compact
        = .error (.form ["null is not of type \"object\" at /backends/a/breaker"]) := by
  intro text c
  let document : Json := .obj [("routing", .obj [("default_backend", .str "a")]),
    ("backends", .obj [("a", .obj [("capabilities", .obj [("max_tokens", .int 1)])])])]
  have hlegible : document.Legible maxDepth := by
    simp [document, maxDepth, Legible, LegibleMembers]
  have htext : text = document.compact := by decide +kernel
  have hdocument : ofDocument document.canonical = .ok c := by decide +kernel
  have hsaved : c.toJson.Legible maxDepth :=
    legible_toJson (by decide) (formed_of_ofDocument hdocument).1 LimitSettings.parse_defaultRate
  -- the one member that has not the form it should have is the breaker
  have hrefused : ofDocument c.toJson.canonical
      = .error (.form ["null is not of type \"object\" at /backends/a/breaker"]) := by
    decide +kernel
  refine ⟨?_, parse_compact hsaved, (ofJsonText_compact hsaved).trans hrefused⟩
  rw [htext, ofJsonText_compact hlegible, hdocument]

end Config

end Dispatch
