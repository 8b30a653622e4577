/-
Dispatch/Proofs/Config/Reading.lean

What readers make of objects.

A record is read field by field: it can be read exactly if each of its fields can, and what is read
has in each field what was read for it.  A field that is left out counts as its default
(`optional_named_iff`).  The readers of the parts of a configuration are restated in this way, once,
and not opened after that.
-/
import Mathlib.Data.List.Nodup
import Dispatch.Config.Codec

namespace Dispatch

/-! ### Fields -/

namespace Record

variable {α : Type} {members : List (String × Json)} {place : Nat} {name : String} {default x : α}
  {read : Json → Option α}

theorem ofJson?_obj (size : Nat) (members : List (String × Json)) :
    ofJson? size (.obj members) = some (.named members) := rfl

/-- A field that has to be there. -/
theorem required_named_iff :
    (named members).required place name read = some x ↔
      ∃ j, Entries.lookup name members = some j ∧ read j = some x :=
  Option.bind_eq_some_iff

/-- A field that may be left out. -/
theorem optional_named_iff :
    (named members).optional place name default read = some x ↔
      (Entries.lookup name members = none ∧ x = default) ∨
        ∃ j, Entries.lookup name members = some j ∧ read j = some x := by
  unfold optional field?
  simp only
  cases Entries.lookup name members with
  | none => simp [eq_comm]
  | some j => simp

/-- A field that may be left out can be read if it can be read where it is there. -/
theorem exists_optional_iff :
    (∃ x, (named members).optional place name default read = some x) ↔
      ∀ j, Entries.lookup name members = some j → ∃ x, read j = some x := by
  unfold optional field?
  simp only
  cases Entries.lookup name members with
  | none => simp
  | some j => simp

theorem optional_of_lookup {j : Json} (h : Entries.lookup name members = some j) :
    (named members).optional place name default read = read j := by
  unfold optional field?
  simp only [h]

end Record

namespace Json

theorem asNat32?_eq_some_iff {j : Json} {n : Nat} :
    asNat32? j = some n ↔ j = .int n ∧ n < UInt32.size := by
  cases j with
  | int i =>
    simp only [asNat32?, asNatBelow?, Json.int.injEq]
    split
    · next h =>
      rw [Option.some.injEq]
      omega
    · next h =>
      refine iff_of_false nofun fun hn => h ?_
      omega
  | _ => exact iff_of_false nofun nofun

theorem asStr?_eq_some_iff {j : Json} {s : String} : asStr? j = some s ↔ j = .str s := by
  cases j <;> simp [asStr?]

section

variable {α β : Type} {read : α → Option β}

theorem readAll_eq_some_iff {l : List α} {l' : List β} :
    readAll read l = some l' ↔ List.Forall₂ (fun a b => read a = some b) l l' := by
  induction l generalizing l' with
  | nil => cases l' <;> simp [readAll]
  | cons a l ih =>
    simp only [readAll, Option.bind_eq_bind, Option.pure_def, Option.bind_eq_some_iff, ih]
    constructor
    · rintro ⟨b, hb, bs, hbs, heq⟩
      cases heq
      exact .cons hb hbs
    · intro h
      cases h with
      | cons hb hbs => exact ⟨_, hb, _, hbs, rfl⟩

theorem exists_readAll_iff {l : List α} :
    (∃ l', readAll read l = some l') ↔ ∀ a ∈ l, ∃ b, read a = some b := by
  induction l with
  | nil => simp [readAll]
  | cons a l ih =>
    simp only [readAll, Option.bind_eq_bind, Option.pure_def, Option.bind_eq_some_iff,
      List.forall_mem_cons, ← ih]
    constructor
    · rintro ⟨_, b, hb, bs, hbs, -⟩
      exact ⟨⟨b, hb⟩, bs, hbs⟩
    · rintro ⟨⟨b, hb⟩, bs, hbs⟩
      exact ⟨_, b, hb, bs, hbs, rfl⟩

end

/-- A list of texts. -/
theorem asList?_asStr?_eq_some_iff {j : Json} {l : List String} :
    asList? asStr? j = some l ↔ j = .strings l := by
  cases j with
  | arr items =>
    rw [asList?, readAll_eq_some_iff, strings, Json.arr.injEq]
    simp only [asStr?_eq_some_iff]
    rw [← List.forall₂_eq_eq_eq, List.forall₂_map_right_iff]
  | _ => exact iff_of_false nofun nofun

/-! #### Tables -/

section

variable {α : Type} {read : Json → Option α} {members : List (String × Json)} {t : Table α}

theorem asTable?_obj_iff :
    asTable? read (.obj members) = some t ↔
      ∃ l : List (String × α), List.Forall₂ (fun m e => m.1 = e.1 ∧ read m.2 = some e.2) members l ∧
        Table.ofList l = t := by
  simp only [asTable?, Option.map_eq_some_iff, readAll_eq_some_iff]
  refine exists_congr fun l => and_congr_left fun _ => ?_
  refine Iff.of_eq (congrArg (List.Forall₂ · members l) ?_)
  funext m e
  obtain ⟨k, v⟩ := e
  simp [Prod.ext_iff, and_comm]

/-- What is in a table was read from a member of that name. -/
theorem exists_mem_of_asTable? (h : asTable? read (.obj members) = some t) {e : String × α}
    (he : e ∈ t.entries) : ∃ j, (e.1, j) ∈ members ∧ read j = some e.2 := by
  obtain ⟨l, hl, rfl⟩ := asTable?_obj_iff.mp h
  obtain ⟨n, hn, rfl⟩ := List.mem_iff_getElem.mp (Table.mem_of_mem_ofList he)
  have hlength := hl.length_eq
  obtain ⟨hname, hread⟩ := List.forall₂_iff_get.mp hl |>.2 n (by omega) hn
  exact ⟨_, List.mem_iff_getElem.mpr ⟨n, by omega, Prod.ext hname rfl⟩, hread⟩

/-- Members in order are the entries of the table. -/
theorem forall₂_of_asTable? (h : asTable? read (.obj members) = some t)
    (hsorted : Entries.Sorted members) :
    List.Forall₂ (fun m e => m.1 = e.1 ∧ read m.2 = some e.2) members t.entries := by
  obtain ⟨l, hl, rfl⟩ := asTable?_obj_iff.mp h
  have hnames : members.map Prod.fst = l.map Prod.fst := by
    rw [← List.forall₂_eq_eq_eq, List.forall₂_map_left_iff, List.forall₂_map_right_iff]
    exact hl.imp fun _ _ h => h.1
  have hl' : Entries.Sorted l := by
    have hpairwise : (members.map Prod.fst).Pairwise (· < ·) := List.pairwise_map.mpr hsorted
    rw [hnames] at hpairwise
    exact List.pairwise_map.mp hpairwise
  rwa [Table.entries_ofList hl']

theorem exists_asTable?_iff :
    (∃ t, asTable? read (.obj members) = some t) ↔ ∀ m ∈ members, ∃ v, read m.2 = some v := by
  simp only [asTable?, Option.map_eq_some_iff]
  rw [exists_comm]
  simp only [exists_and_left, exists_eq', and_true]
  rw [exists_readAll_iff]
  simp

end

end Json

/-! ### Parts of a configuration -/

variable {members : List (String × Json)}

/-- A duration stands for the text that it was read from. -/
theorem Duration.ofJson?_eq_some_iff {j : Json} {d : Duration} :
    Duration.ofJson? j = some d ↔ ∃ s, j = .str s ∧ Duration.parse s = .ok d := by
  cases j with
  | str s =>
    have hparse : (Duration.parse s).toOption = some d ↔ Duration.parse s = .ok d := by
      cases Duration.parse s <;> simp [Except.toOption]
    simpa [Duration.ofJson?, Json.asStr?] using hparse
  | _ => simp [Duration.ofJson?, Json.asStr?]

theorem BreakerSettings.ofJson?_obj_iff {b : BreakerSettings} :
    ofJson? (.obj members) = some b ↔
      (Record.named members).optional 0 "failure_threshold" ({} : BreakerSettings).failureThreshold
        Json.asNat32? = some b.failureThreshold ∧
      (Record.named members).optional 1 "cooldown" ({} : BreakerSettings).cooldown
        Duration.ofJson? = some b.cooldown ∧
      (Record.named members).optional 2 "window" ({} : BreakerSettings).window
        Duration.ofJson? = some b.window := by
  obtain ⟨threshold, cooldown, window⟩ := b
  simp only [ofJson?, Record.ofJson?_obj, Option.bind_eq_bind, Option.bind_some, Option.pure_def,
    Option.bind_eq_some_iff, Option.some.injEq, mk.injEq]
  constructor
  · rintro ⟨_, ht, _, hc, _, hw, rfl, rfl, rfl⟩
    exact ⟨ht, hc, hw⟩
  · rintro ⟨ht, hc, hw⟩
    exact ⟨_, ht, _, hc, _, hw, rfl, rfl, rfl⟩

theorem Capabilities.ofJson?_obj_iff {c : Capabilities} :
    ofJson? (.obj members) = some c ↔
      (Record.named members).optional 0 "streaming" false Json.asBool? = some c.streaming ∧
      (Record.named members).optional 1 "code_context" false Json.asBool? = some c.codeContext ∧
      (Record.named members).required 2 "max_tokens" Json.asNat32? = some c.maxTokens := by
  obtain ⟨streaming, code, tokens⟩ := c
  simp only [ofJson?, Record.ofJson?_obj, Option.bind_eq_bind, Option.bind_some, Option.pure_def,
    Option.bind_eq_some_iff, Option.some.injEq, mk.injEq]
  constructor
  · rintro ⟨_, hs, _, hc, _, ht, rfl, rfl, rfl⟩
    exact ⟨hs, hc, ht⟩
  · rintro ⟨hs, hc, ht⟩
    exact ⟨_, hs, _, hc, _, ht, rfl, rfl, rfl⟩

theorem BackendConfig.ofJson?_obj_iff {b : BackendConfig} :
    ofJson? (.obj members) = some b ↔
      (Record.named members).required 0 "capabilities" Capabilities.ofJson?
        = some b.capabilities ∧
      (Record.named members).optional 1 "breaker" none (Json.asOption? BreakerSettings.ofJson?)
        = some b.breaker ∧
      (Record.named members).optional 2 "enabled" true Json.asBool? = some b.enabled := by
  obtain ⟨capabilities, breaker, enabled⟩ := b
  simp only [ofJson?, Record.ofJson?_obj, Option.bind_eq_bind, Option.bind_some, Option.pure_def,
    Option.bind_eq_some_iff, Option.some.injEq, mk.injEq]
  constructor
  · rintro ⟨_, hc, _, hb, _, he, rfl, rfl, rfl⟩
    exact ⟨hc, hb, he⟩
  · rintro ⟨hc, hb, he⟩
    exact ⟨_, hc, _, hb, _, he, rfl, rfl, rfl⟩

theorem RetrySettings.ofJson?_obj_iff {r : RetrySettings} :
    ofJson? (.obj members) = some r ↔
      (Record.named members).optional 0 "max_attempts" ({} : RetrySettings).maxAttempts
        Json.asNat32? = some r.maxAttempts ∧
      (Record.named members).optional 1 "base_delay" ({} : RetrySettings).baseDelay
        Duration.ofJson? = some r.baseDelay ∧
      (Record.named members).optional 2 "max_delay" ({} : RetrySettings).maxDelay
        Duration.ofJson? = some r.maxDelay ∧
      (Record.named members).optional 3 "deadline" ({} : RetrySettings).deadline
        Duration.ofJson? = some r.deadline := by
  obtain ⟨attempts, base, max, deadline⟩ := r
  simp only [ofJson?, Record.ofJson?_obj, Option.bind_eq_bind, Option.bind_some, Option.pure_def,
    Option.bind_eq_some_iff, Option.some.injEq, mk.injEq]
  constructor
  · rintro ⟨_, ha, _, hb, _, hm, _, hd, rfl, rfl, rfl, rfl⟩
    exact ⟨ha, hb, hm, hd⟩
  · rintro ⟨ha, hb, hm, hd⟩
    exact ⟨_, ha, _, hb, _, hm, _, hd, rfl, rfl, rfl, rfl⟩

theorem LimitSettings.ofJson?_obj_iff {l : LimitSettings} :
    ofJson? (.obj members) = some l ↔
      (Record.named members).optional 0 "capacity" ({} : LimitSettings).capacity
        Json.asNat32? = some l.capacity ∧
      (Record.named members).optional 1 "refill_rate" ({} : LimitSettings).refillRate
        Json.asFloat? = some l.refillRate := by
  obtain ⟨capacity, rate⟩ := l
  simp only [ofJson?, Record.ofJson?_obj, Option.bind_eq_bind, Option.bind_some, Option.pure_def,
    Option.bind_eq_some_iff, Option.some.injEq, mk.injEq]
  constructor
  · rintro ⟨_, hc, _, hr, rfl, rfl⟩
    exact ⟨hc, hr⟩
  · rintro ⟨hc, hr⟩
    exact ⟨_, hc, _, hr, rfl, rfl⟩

theorem ResilienceSettings.ofJson?_obj_iff {r : ResilienceSettings} :
    ofJson? (.obj members) = some r ↔
      (Record.named members).optional 0 "breaker" {} BreakerSettings.ofJson? = some r.breaker ∧
      (Record.named members).optional 1 "retry" {} RetrySettings.ofJson? = some r.retry ∧
      (Record.named members).optional 2 "rate_limit" {} LimitSettings.ofJson? = some r.limit := by
  obtain ⟨breaker, retry, limit⟩ := r
  simp only [ofJson?, Record.ofJson?_obj, Option.bind_eq_bind, Option.bind_some, Option.pure_def,
    Option.bind_eq_some_iff, Option.some.injEq, mk.injEq]
  constructor
  · rintro ⟨_, hb, _, hr, _, hl, rfl, rfl, rfl⟩
    exact ⟨hb, hr, hl⟩
  · rintro ⟨hb, hr, hl⟩
    exact ⟨_, hb, _, hr, _, hl, rfl, rfl, rfl⟩

theorem HistorySettings.ofJson?_obj_iff {h : HistorySettings} :
    ofJson? (.obj members) = some h ↔
      (Record.named members).optional 0 "max_window_tokens" ({} : HistorySettings).maxWindowTokens
        Json.asNat32? = some h.maxWindowTokens ∧
      (Record.named members).optional 1 "reserved_response_tokens"
        ({} : HistorySettings).reservedResponseTokens Json.asNat32?
        = some h.reservedResponseTokens ∧
      (Record.named members).optional 2 "call_timeout" ({} : HistorySettings).callTimeout
        Duration.ofJson? = some h.callTimeout := by
  obtain ⟨window, reserved, timeout⟩ := h
  simp only [ofJson?, Record.ofJson?_obj, Option.bind_eq_bind, Option.bind_some, Option.pure_def,
    Option.bind_eq_some_iff, Option.some.injEq, mk.injEq]
  constructor
  · rintro ⟨_, hw, _, hr, _, ht, rfl, rfl, rfl⟩
    exact ⟨hw, hr, ht⟩
  · rintro ⟨hw, hr, ht⟩
    exact ⟨_, hw, _, hr, _, ht, rfl, rfl, rfl⟩

theorem StorageSettings.ofJson?_obj_iff {s : StorageSettings} :
    ofJson? (.obj members) = some s ↔
      (Record.named members).optional 0 "database_path" ({} : StorageSettings).databasePath
        Json.asStr? = some s.databasePath := by
  obtain ⟨path⟩ := s
  simp only [ofJson?, Record.ofJson?_obj, Option.bind_eq_bind, Option.bind_some, Option.pure_def,
    Option.bind_eq_some_iff, Option.some.injEq, mk.injEq]
  constructor
  · rintro ⟨_, hp, rfl⟩
    exact hp
  · intro hp
    exact ⟨_, hp, rfl⟩

theorem Routing.ofJson?_obj_iff {r : Routing} :
    ofJson? (.obj members) = some r ↔
      (Record.named members).required 0 "default_backend" Json.asStr? = some r.defaultBackend ∧
      (Record.named members).optional 1 "rules" (fun _ => none) rulesOf? = some r.rules := by
  obtain ⟨name, rules⟩ := r
  simp only [ofJson?, Record.ofJson?_obj, Option.bind_eq_bind, Option.bind_some, Option.pure_def,
    Option.bind_eq_some_iff, Option.some.injEq, mk.injEq]
  constructor
  · rintro ⟨_, hd, _, hr, rfl, rfl⟩
    exact ⟨hd, hr⟩
  · rintro ⟨hd, hr⟩
    exact ⟨_, hd, _, hr, rfl, rfl⟩

/-! #### Rules -/

namespace Routing

/-- Rules added one after another. -/
def withRules (r : Routing) (l : List (TaskKind × List String)) : Routing :=
  l.foldl (fun r e => r.withRule e.1 e.2) r

theorem mem_of_withRules {l : List (TaskKind × List String)} {r : Routing} {kind : TaskKind}
    {names : List String} (h : (r.withRules l).rules kind = some names) :
    r.rules kind = some names ∨ (kind, names) ∈ l := by
  induction l generalizing r with
  | nil => exact Or.inl h
  | cons e l ih =>
    rcases ih h with h | h
    · simp only [withRule] at h
      split at h
      · next hkind =>
        cases h
        exact Or.inr (hkind ▸ List.mem_cons_self)
      · exact Or.inl h
    · exact Or.inr (List.mem_cons_of_mem _ h)

theorem withRules_of_not_mem {l : List (TaskKind × List String)} {r : Routing} {kind : TaskKind}
    (h : kind ∉ l.map Prod.fst) : (r.withRules l).rules kind = r.rules kind := by
  induction l generalizing r with
  | nil => rfl
  | cons e l ih =>
    simp only [List.map_cons, List.mem_cons, not_or] at h
    rw [withRules, List.foldl_cons, ← withRules, ih h.2, withRule]
    exact if_neg h.1

theorem withRules_of_mem {l : List (TaskKind × List String)} {r : Routing} {kind : TaskKind}
    {names : List String} (hnodup : (l.map Prod.fst).Nodup) (h : (kind, names) ∈ l) :
    (r.withRules l).rules kind = some names := by
  induction l generalizing r with
  | nil => cases h
  | cons e l ih =>
    obtain ⟨he, hl⟩ := List.nodup_cons.mp hnodup
    rw [withRules, List.foldl_cons, ← withRules]
    rcases List.mem_cons.mp h with rfl | h
    · rw [withRules_of_not_mem he]
      exact if_pos rfl
    · exact ih hl h

/-- Rules stand under the tags of their kinds. -/
theorem rulesOf?_obj_iff {rules : TaskKind → Option (List String)} :
    rulesOf? (.obj members) = some rules ↔
      ∃ l : List (TaskKind × List String),
        members = l.map (fun e => (e.1.tag, .strings e.2)) ∧
        (withRules { defaultBackend := "" } l).rules = rules := by
  simp only [rulesOf?, Option.bind_eq_bind, Option.pure_def, Option.bind_eq_some_iff,
    Json.readAll_eq_some_iff, Option.some.injEq]
  refine exists_congr fun l => and_congr_left fun _ => ?_
  rw [← List.forall₂_eq_eq_eq, List.forall₂_map_right_iff]
  refine Iff.of_eq (congrArg (List.Forall₂ · members l) ?_)
  funext m e
  obtain ⟨k, names⟩ := e
  refine propext ?_
  constructor
  · rintro ⟨kind, hkind, backends, hbackends, heq⟩
    cases heq
    exact Prod.ext (TaskKind.ofTag?_eq_some_iff.mp hkind)
      (Json.asList?_asStr?_eq_some_iff.mp hbackends)
  · rintro rfl
    exact ⟨k, TaskKind.ofTag?_eq_some_iff.mpr rfl, names,
      Json.asList?_asStr?_eq_some_iff.mpr rfl, rfl⟩

/-- A rule was read from a member. -/
theorem mem_of_rulesOf? {rules : TaskKind → Option (List String)} {kind : TaskKind}
    {names : List String} (h : rulesOf? (.obj members) = some rules)
    (hkind : rules kind = some names) : (kind.tag, .strings names) ∈ members := by
  obtain ⟨l, rfl, rfl⟩ := rulesOf?_obj_iff.mp h
  rcases mem_of_withRules hkind with hnone | hmem
  · cases hnone
  · exact List.mem_map.mpr ⟨_, hmem, rfl⟩

/-- A member becomes a rule, where no name comes twice. -/
theorem rule_of_mem {rules : TaskKind → Option (List String)} {kind : TaskKind}
    {names : List String} (h : rulesOf? (.obj members) = some rules)
    (hnodup : (members.map Prod.fst).Nodup) (hmem : (kind.tag, .strings names) ∈ members) :
    rules kind = some names := by
  obtain ⟨l, rfl, rfl⟩ := rulesOf?_obj_iff.mp h
  obtain ⟨⟨k, ns⟩, hl, heq⟩ := List.mem_map.mp hmem
  have hkind : k = kind := TaskKind.tag_injective (congrArg Prod.fst heq)
  have hnames : ns = names := by
    have := congrArg Prod.snd heq
    simpa [Json.strings, List.map_inj_right] using this
  subst hkind hnames
  refine withRules_of_mem ?_ hl
  rw [List.map_map] at hnodup
  exact List.Nodup.of_map TaskKind.tag (by rwa [List.map_map])

end Routing

theorem Config.ofJson?_obj_iff {c : Config} :
    ofJson? (.obj members) = some c ↔
      (Record.named members).required 0 "routing" Routing.ofJson? = some c.routing ∧
      (Record.named members).optional 1 "backends" .empty (Json.asTable? BackendConfig.ofJson?)
        = some c.backends ∧
      (Record.named members).optional 2 "resilience" {} ResilienceSettings.ofJson?
        = some c.resilience ∧
      (Record.named members).optional 3 "context" {} HistorySettings.ofJson? = some c.history ∧
      (Record.named members).optional 4 "storage" {} StorageSettings.ofJson? = some c.storage := by
  obtain ⟨routing, backends, resilience, history, storage⟩ := c
  simp only [ofJson?, Record.ofJson?_obj, Option.bind_eq_bind, Option.bind_some, Option.pure_def,
    Option.bind_eq_some_iff, Option.some.injEq, mk.injEq]
  constructor
  · rintro ⟨_, hr, _, hb, _, hs, _, hh, _, hp, rfl, rfl, rfl, rfl, rfl⟩
    exact ⟨hr, hb, hs, hh, hp⟩
  · rintro ⟨hr, hb, hs, hh, hp⟩
    exact ⟨_, hr, _, hb, _, hs, _, hh, _, hp, rfl, rfl, rfl, rfl, rfl⟩

end Dispatch
