/-
Dispatch/Proofs/Config/Form.lean

What the form of a configuration says.

Each schema of the form is restated for the part of the document that it is about, as a condition on
the values under the names that may be there (`members_iff`).  The conditions are equivalent to the
schemas, so they serve both ways: a document that was accepted has them, and a document that has
them is accepted.
-/
import Dispatch.Config.Form
import Dispatch.Proofs.Schema.Meaning

namespace Dispatch.Config.Form

open Schema

/-! ### Values -/

/-- A duration, as far as the form goes. -/
def IsDuration (j : Json) : Prop := ∃ s, j = .str s ∧ durationPattern.accepts s = true

/-- A number without a fraction, from `n` on. -/
def IsCount (n : Int) (j : Json) : Prop :=
  ∃ q, j.quotient? = some q ∧ q.isWhole = true ∧ q.below n = false

/-- A positive number. -/
def IsRate (j : Json) : Prop :=
  ∃ q, j.quotient? = some q ∧ q.below 0 = false ∧ q.same ⟨0, 1⟩ = false

def IsFlag (j : Json) : Prop := ∃ b, j = .bool b

/-- The name of a backend. -/
def IsName (s : String) : Prop := namePattern.accepts s = true

/-- A pattern for names is not met by the empty text. -/
theorem IsName.ne_empty {s : String} (h : IsName s) : s ≠ "" := by
  rintro rfl
  cases h

variable {j : Json} {members : List (String × Json)}

theorem duration_iff : RulesHold duration j ↔ IsDuration j := by
  cases j <;> simp [duration, RulesHold, Rule.Holds, holds_string_iff, IsDuration]

theorem integerFrom_iff {n : Int} : RulesHold (integerFrom n) j ↔ IsCount n j := by
  unfold integerFrom IsCount
  simp only [RulesHold, Rule.Holds, holds_integer, and_true]
  cases j.quotient? with
  | none => simp
  | some q => simp

theorem rate_iff : RulesHold [.type .number, .above 0] j ↔ IsRate j := by
  unfold IsRate
  simp only [RulesHold, Rule.Holds, holds_number, and_true]
  cases j.quotient? with
  | none => simp
  | some q => simp

theorem flag_iff : RulesHold [.type .boolean] j ↔ IsFlag j := by
  cases j <;> simp [RulesHold, Rule.Holds, holds_boolean_iff, IsFlag]

theorem backendName_iff : RulesHold backendName j ↔ ∃ s, j = .str s ∧ IsName s := by
  cases j with
  | str s =>
    simp only [backendName, RulesHold, Rule.Holds, holds_string_iff, and_true, true_and,
      Json.str.injEq, exists_eq', exists_eq_left']
    exact ⟨fun h => h.2, fun h => ⟨IsName.ne_empty h, h⟩⟩
  | _ => simp [backendName, RulesHold, holds_string_iff, Rule.Holds]

theorem path_iff :
    RulesHold [.type .string, .someCharacter] j ↔ ∃ s, j = .str s ∧ s ≠ "" := by
  cases j <;> simp [RulesHold, Rule.Holds, holds_string_iff]

/-! ### Objects -/

/-- An object with members of known names only. -/
theorem members_iff {known : List (String × List Rule)} :
    RulesHold [.type .object, .closed known] j ↔
      ∃ members, j = .obj members ∧ (∀ m ∈ members, m.1 ∈ known.map Prod.fst) ∧
        KnownHold known members := by
  cases j <;> simp [RulesHold, Rule.Holds, holds_object_iff]

/-- The same, where one of them has to be there. -/
theorem requiredMembers_iff {name : String} {known : List (String × List Rule)} :
    RulesHold [.type .object, .required name, .closed known] j ↔
      ∃ members, j = .obj members ∧ (∃ v, Entries.lookup name members = some v) ∧
        (∀ m ∈ members, m.1 ∈ known.map Prod.fst) ∧ KnownHold known members := by
  cases j <;> simp [RulesHold, Rule.Holds, holds_object_iff]

/-- An object with members of any names of a kind, and values of a kind. -/
theorem namedMembers_iff {names values : List Rule} :
    RulesHold [.type .object, .eachName names, .eachMember values] j ↔
      ∃ members, j = .obj members ∧ ∀ m ∈ members, RulesHold names (.str m.1) ∧
        RulesHold values m.2 := by
  cases j <;> simp [RulesHold, Rule.Holds, holds_object_iff, forall_and]

/-- What holds of the value under a name, if it is there. -/
def Under (members : List (String × Json)) (name : String) (holds : Json → Prop) : Prop :=
  ∀ v, Entries.lookup name members = some v → holds v

theorem known_iff {name : String} {rules : List Rule} {rest : List (String × List Rule)}
    {holds : Json → Prop} (h : ∀ v, RulesHold rules v ↔ holds v) :
    KnownHold ((name, rules) :: rest) members ↔ Under members name holds ∧ KnownHold rest members :=
  and_congr_left fun _ => forall₂_congr fun v _ => h v

theorem known_nil_iff : KnownHold [] members ↔ True := Iff.rfl

/-- The names of the members are among these. -/
def Within (members : List (String × Json)) (names : List String) : Prop :=
  ∀ m ∈ members, m.1 ∈ names

/-! ### Parts of a document -/

/-- Breaker settings. -/
structure BreakerForm (members : List (String × Json)) : Prop where
  names : Within members ["failure_threshold", "cooldown", "window"]
  threshold : Under members "failure_threshold" (IsCount 1)
  cooldown : Under members "cooldown" IsDuration
  window : Under members "window" IsDuration

theorem breaker_iff : RulesHold breaker j ↔ ∃ members, j = .obj members ∧ BreakerForm members := by
  refine members_iff.trans (exists_congr fun members => and_congr_right fun _ => ?_)
  rw [known_iff fun _ => integerFrom_iff, known_iff fun _ => duration_iff,
    known_iff fun _ => duration_iff, known_nil_iff, and_true]
  exact ⟨fun ⟨hn, ht, hc, hw⟩ => ⟨hn, ht, hc, hw⟩, fun ⟨hn, ht, hc, hw⟩ => ⟨hn, ht, hc, hw⟩⟩

/-- Capabilities of a backend. -/
structure CapabilitiesForm (members : List (String × Json)) : Prop where
  there : ∃ v, Entries.lookup "max_tokens" members = some v
  names : Within members ["streaming", "code_context", "max_tokens"]
  streaming : Under members "streaming" IsFlag
  code : Under members "code_context" IsFlag
  tokens : Under members "max_tokens" (IsCount 1)

theorem capabilities_iff :
    RulesHold capabilities j ↔ ∃ members, j = .obj members ∧ CapabilitiesForm members := by
  refine requiredMembers_iff.trans (exists_congr fun members => and_congr_right fun _ => ?_)
  rw [known_iff fun _ => flag_iff, known_iff fun _ => flag_iff, known_iff fun _ => integerFrom_iff,
    known_nil_iff, and_true]
  exact ⟨fun ⟨hr, hn, hs, hc, ht⟩ => ⟨hr, hn, hs, hc, ht⟩,
    fun ⟨hr, hn, hs, hc, ht⟩ => ⟨hr, hn, hs, hc, ht⟩⟩

/-- A rule: some names of backends, and no two alike. -/
structure RuleForm (items : List Json) : Prop where
  some : items ≠ []
  distinct : Json.distinct items = true
  names : ∀ item ∈ items, ∃ s, item = .str s ∧ IsName s

/-- The rules, under tags of kinds. -/
def RulesForm (members : List (String × Json)) : Prop :=
  ∀ m ∈ members, m.1 ∈ TaskKind.byName.map TaskKind.tag ∧ ∃ items, m.2 = .arr items ∧ RuleForm items

theorem rules_iff : RulesHold rules j ↔ ∃ members, j = .obj members ∧ RulesForm members := by
  refine namedMembers_iff.trans (exists_congr fun members => and_congr_right fun _ => ?_)
  refine forall₂_congr fun m _ => and_congr (by simp [RulesHold, Rule.Holds]) ?_
  cases m.2 with
  | arr items =>
    simp only [RulesHold, Rule.Holds, holds_array_iff, and_true, true_and, Json.arr.injEq,
      exists_eq', exists_eq_left', backendName_iff]
    exact ⟨fun ⟨hs, hd, hn⟩ => ⟨hs, hd, hn⟩, fun ⟨hs, hd, hn⟩ => ⟨hs, hd, hn⟩⟩
  | _ => simp [RulesHold, Rule.Holds, holds_array_iff]

/-- The routing. -/
structure RoutingForm (members : List (String × Json)) : Prop where
  there : ∃ v, Entries.lookup "default_backend" members = some v
  names : Within members ["default_backend", "rules"]
  default : Under members "default_backend" fun v => ∃ s, v = .str s ∧ IsName s
  rules : Under members "rules" fun v => ∃ rules, v = .obj rules ∧ RulesForm rules

theorem routing_iff :
    RulesHold routing j ↔ ∃ members, j = .obj members ∧ RoutingForm members := by
  refine requiredMembers_iff.trans (exists_congr fun members => and_congr_right fun _ => ?_)
  rw [known_iff fun _ => backendName_iff, known_iff fun _ => rules_iff, known_nil_iff, and_true]
  exact ⟨fun ⟨ht, hn, hd, hr⟩ => ⟨ht, hn, hd, hr⟩, fun ⟨ht, hn, hd, hr⟩ => ⟨ht, hn, hd, hr⟩⟩

/-- What is said of a backend. -/
structure BackendForm (members : List (String × Json)) : Prop where
  there : ∃ v, Entries.lookup "capabilities" members = some v
  names : Within members ["capabilities", "breaker", "enabled"]
  capabilities : Under members "capabilities" fun v => ∃ c, v = .obj c ∧ CapabilitiesForm c
  breaker : Under members "breaker" fun v => ∃ b, v = .obj b ∧ BreakerForm b
  enabled : Under members "enabled" IsFlag

/-- The table of backends. -/
def BackendsForm (members : List (String × Json)) : Prop :=
  ∀ m ∈ members, IsName m.1 ∧ ∃ b, m.2 = .obj b ∧ BackendForm b

theorem backends_iff :
    RulesHold backends j ↔ ∃ members, j = .obj members ∧ BackendsForm members := by
  refine namedMembers_iff.trans (exists_congr fun members => and_congr_right fun _ => ?_)
  refine forall₂_congr fun m _ => and_congr (backendName_iff.trans (by simp)) ?_
  refine requiredMembers_iff.trans (exists_congr fun b => and_congr_right fun _ => ?_)
  rw [known_iff fun _ => capabilities_iff, known_iff fun _ => breaker_iff,
    known_iff fun _ => flag_iff, known_nil_iff, and_true]
  exact ⟨fun ⟨ht, hn, hc, hb, he⟩ => ⟨ht, hn, hc, hb, he⟩,
    fun ⟨ht, hn, hc, hb, he⟩ => ⟨ht, hn, hc, hb, he⟩⟩

/-- Retry settings. -/
structure RetryForm (members : List (String × Json)) : Prop where
  names : Within members ["max_attempts", "base_delay", "max_delay", "deadline"]
  attempts : Under members "max_attempts" (IsCount 1)
  base : Under members "base_delay" IsDuration
  max : Under members "max_delay" IsDuration
  deadline : Under members "deadline" IsDuration

theorem retry_iff : RulesHold retry j ↔ ∃ members, j = .obj members ∧ RetryForm members := by
  refine members_iff.trans (exists_congr fun members => and_congr_right fun _ => ?_)
  rw [known_iff fun _ => integerFrom_iff, known_iff fun _ => duration_iff,
    known_iff fun _ => duration_iff, known_iff fun _ => duration_iff, known_nil_iff, and_true]
  exact ⟨fun ⟨hn, ha, hb, hm, hd⟩ => ⟨hn, ha, hb, hm, hd⟩,
    fun ⟨hn, ha, hb, hm, hd⟩ => ⟨hn, ha, hb, hm, hd⟩⟩

/-- Limit settings. -/
structure LimitForm (members : List (String × Json)) : Prop where
  names : Within members ["capacity", "refill_rate"]
  capacity : Under members "capacity" (IsCount 1)
  rate : Under members "refill_rate" IsRate

theorem rateLimit_iff :
    RulesHold rateLimit j ↔ ∃ members, j = .obj members ∧ LimitForm members := by
  refine members_iff.trans (exists_congr fun members => and_congr_right fun _ => ?_)
  rw [known_iff fun _ => integerFrom_iff, known_iff fun _ => rate_iff, known_nil_iff, and_true]
  exact ⟨fun ⟨hn, hc, hr⟩ => ⟨hn, hc, hr⟩, fun ⟨hn, hc, hr⟩ => ⟨hn, hc, hr⟩⟩

/-- Settings of history and timeouts. -/
structure HistoryForm (members : List (String × Json)) : Prop where
  names : Within members ["max_window_tokens", "reserved_response_tokens", "call_timeout"]
  window : Under members "max_window_tokens" (IsCount 0)
  reserved : Under members "reserved_response_tokens" (IsCount 0)
  timeout : Under members "call_timeout" IsDuration

theorem history_iff :
    RulesHold history j ↔ ∃ members, j = .obj members ∧ HistoryForm members := by
  refine members_iff.trans (exists_congr fun members => and_congr_right fun _ => ?_)
  rw [known_iff fun _ => integerFrom_iff, known_iff fun _ => integerFrom_iff,
    known_iff fun _ => duration_iff, known_nil_iff, and_true]
  exact ⟨fun ⟨hn, hw, hr, ht⟩ => ⟨hn, hw, hr, ht⟩, fun ⟨hn, hw, hr, ht⟩ => ⟨hn, hw, hr, ht⟩⟩

/-- Where conversations are kept. -/
structure StorageForm (members : List (String × Json)) : Prop where
  names : Within members ["database_path"]
  path : Under members "database_path" fun v => ∃ s, v = .str s ∧ s ≠ ""

theorem storage_iff :
    RulesHold storage j ↔ ∃ members, j = .obj members ∧ StorageForm members := by
  refine members_iff.trans (exists_congr fun members => and_congr_right fun _ => ?_)
  rw [known_iff fun _ => path_iff, known_nil_iff, and_true]
  exact ⟨fun ⟨hn, hp⟩ => ⟨hn, hp⟩, fun ⟨hn, hp⟩ => ⟨hn, hp⟩⟩

/-- Settings of everything that guards calls. -/
structure ResilienceForm (members : List (String × Json)) : Prop where
  names : Within members ["breaker", "retry", "rate_limit"]
  breaker : Under members "breaker" fun v => ∃ b, v = .obj b ∧ BreakerForm b
  retry : Under members "retry" fun v => ∃ r, v = .obj r ∧ RetryForm r
  limit : Under members "rate_limit" fun v => ∃ l, v = .obj l ∧ LimitForm l

theorem resilience_iff :
    RulesHold [.type .object, .closed [
      ("breaker", Form.breaker), ("retry", Form.retry), ("rate_limit", Form.rateLimit)]] j ↔
    ∃ members, j = .obj members ∧ ResilienceForm members := by
  refine members_iff.trans (exists_congr fun members => and_congr_right fun _ => ?_)
  rw [known_iff fun _ => breaker_iff, known_iff fun _ => retry_iff,
    known_iff fun _ => rateLimit_iff, known_nil_iff, and_true]
  exact ⟨fun ⟨hn, hb, hr, hl⟩ => ⟨hn, hb, hr, hl⟩, fun ⟨hn, hb, hr, hl⟩ => ⟨hn, hb, hr, hl⟩⟩

/-- A configuration document. -/
structure DocumentForm (members : List (String × Json)) : Prop where
  there : ∃ v, Entries.lookup "routing" members = some v
  names : Within members ["routing", "backends", "resilience", "context", "storage"]
  routing : Under members "routing" fun v => ∃ r, v = .obj r ∧ RoutingForm r
  backends : Under members "backends" fun v => ∃ b, v = .obj b ∧ BackendsForm b
  resilience : Under members "resilience" fun v => ∃ r, v = .obj r ∧ ResilienceForm r
  history : Under members "context" fun v => ∃ h, v = .obj h ∧ HistoryForm h
  storage : Under members "storage" fun v => ∃ s, v = .obj s ∧ StorageForm s

/-- **What the form of a configuration says.** -/
theorem document_valid_iff :
    document.valid j = true ↔ ∃ members, j = .obj members ∧ DocumentForm members := by
  rw [valid_iff]
  refine requiredMembers_iff.trans (exists_congr fun members => and_congr_right fun _ => ?_)
  rw [known_iff fun _ => routing_iff, known_iff fun _ => backends_iff,
    known_iff fun _ => resilience_iff, known_iff fun _ => history_iff,
    known_iff fun _ => storage_iff, known_nil_iff, and_true]
  exact ⟨fun ⟨ht, hn, hr, hb, hs, hh, hp⟩ => ⟨ht, hn, hr, hb, hs, hh, hp⟩,
    fun ⟨ht, hn, hr, hb, hs, hh, hp⟩ => ⟨ht, hn, hr, hb, hs, hh, hp⟩⟩

end Dispatch.Config.Form
