/-
Dispatch/Proofs/Routing/Rules.lean

Where a task goes, in every case.

The rules of routing are stated here once more, each for itself and in terms of look-ups: what it
is for a backend to meet a need (`Capabilities.Meets`), to be ready for a task (`Catalog.Ready`),
which names apply to a kind of task and for what reason (`Routing.Applies`), and what is decided
over these (`Decided`).  The router settles all of this in one pass and overwrites its reason on
the way.

`route_exact` says that it comes to just these decisions and refuses for just these causes, for
every router, catalog and task.
-/
import Mathlib.Data.List.Sort
import Dispatch.Proofs.Routing.Candidates

namespace Dispatch

/-! ### Needs -/

namespace Capabilities

variable {c : Capabilities} {needs : Requirements} {n : Need}

/-- A backend does what a task needs in one respect, if the task needs it. -/
def Meets (c : Capabilities) (needs : Requirements) : Need → Prop
  | .streaming => needs.streaming = true → c.streaming = true
  | .codeContext => needs.codeContext = true → c.codeContext = true
  | .maxTokens => ∀ least, needs.minContextTokens = some least → least ≤ c.maxTokens

/-- A backend does all that a task needs. -/
def Serves (c : Capabilities) (needs : Requirements) : Prop := ∀ n, c.Meets needs n

theorem meets_iff : c.meets needs n = true ↔ c.Meets needs n := by
  cases n with
  | streaming => cases h : needs.streaming <;> simp [meets, Meets, h]
  | codeContext => cases h : needs.codeContext <;> simp [meets, Meets, h]
  | maxTokens => cases h : needs.minContextTokens <;> simp [meets, Meets, h]

instance : Decidable (c.Meets needs n) := decidable_of_iff _ meets_iff

/-- The needs that a backend does not meet, in the order in which they are named. -/
def unmet (c : Capabilities) (needs : Requirements) : List Need :=
  [.streaming, .codeContext, .maxTokens].filter fun n => ¬ c.Meets needs n

theorem mem_unmet_iff : n ∈ c.unmet needs ↔ ¬ c.Meets needs n := by
  have hall : n ∈ [Need.streaming, .codeContext, .maxTokens] := by cases n <;> decide
  rw [unmet, List.mem_filter, and_iff_right hall, decide_eq_true_iff]

theorem missing_eq_unmet (c : Capabilities) (needs : Requirements) :
    c.missing needs = c.unmet needs := by
  refine List.filter_congr fun n _ => ?_
  rw [Bool.eq_iff_iff, Bool.not_eq_true', ← Bool.not_eq_true, meets_iff, decide_eq_true_iff]

theorem satisfies_iff : c.satisfies needs = true ↔ c.Serves needs := by
  rw [satisfies, missing_eq_unmet, List.isEmpty_iff, List.eq_nil_iff_forall_not_mem]
  exact forall_congr' fun n => by rw [mem_unmet_iff, not_not]

instance : Decidable (c.Serves needs) := decidable_of_iff _ satisfies_iff

end Capabilities

/-! ### Backends that are ready -/

/-- A backend is registered, its circuit is not open, and it does all that is needed. -/
def Catalog.Ready (catalog : Catalog) (needs : Requirements) (name : String) : Prop :=
  ∃ x, catalog.get? name = some x ∧ x.health ≠ .open ∧ x.capabilities.Serves needs

theorem Catalog.isEligible_iff {catalog : Catalog} {needs : Requirements} {name : String} :
    catalog.isEligible needs name = true ↔ catalog.Ready needs name := by
  unfold Catalog.isEligible Catalog.Ready
  cases catalog.get? name with
  | none => simp
  | some x => simp [Capabilities.satisfies_iff]

instance (catalog : Catalog) (needs : Requirements) (name : String) :
    Decidable (catalog.Ready needs name) := decidable_of_iff _ Catalog.isEligible_iff

/-! ### Names that apply -/

namespace Routing

/-- No rule of a kind names a registered backend. -/
def Unruled (r : Routing) (catalog : Catalog) (kind : TaskKind) : Prop :=
  ∀ names, r.rules kind = some names → ∀ name ∈ names, catalog.contains name = false

/-- The names that a kind of task may go to, in order, and the reason. -/
inductive Applies (r : Routing) (catalog : Catalog) (kind : TaskKind) : List String → Reason → Prop
  /-- The rule of the kind names a registered backend: those of its names that are registered. -/
  | rule {names : List String} (hrule : r.rules kind = some names)
      (hsome : ∃ name ∈ names, catalog.contains name = true) :
      Applies r catalog kind (names.filter catalog.contains) (.rule kind)
  | default (hnone : r.Unruled catalog kind)
      (hdefault : catalog.contains r.defaultBackend = true) :
      Applies r catalog kind [r.defaultBackend] .default
  /-- Everything that is registered, in name order. -/
  | registry {names : List String} (hnone : r.Unruled catalog kind)
      (hdefault : catalog.contains r.defaultBackend = false)
      (hsorted : names.Pairwise (· < ·))
      (hall : ∀ name, name ∈ names ↔ catalog.contains name = true) :
      Applies r catalog kind names .registryFallback

variable {r : Routing} {catalog : Catalog} {kind : TaskKind} {task : Task} {names : List String}
  {reason : Reason}

theorem Applies.ne_degradedFallback (h : r.Applies catalog kind names reason) :
    reason ≠ .degradedFallback := by
  cases h <;> exact nofun

/-- A rule that names a registered backend is what applies. -/
theorem applicable_of_rule (hrule : r.rules kind = some names)
    (hsome : ∃ name ∈ names, catalog.contains name = true) :
    r.applicable catalog kind = (names.filter catalog.contains, .rule kind) := by
  have hne : names.filter catalog.contains ≠ [] := by
    obtain ⟨name, hname, hin⟩ := hsome
    exact List.ne_nil_of_mem (List.mem_filter.mpr ⟨hname, hin⟩)
  unfold applicable preferred
  simp [hrule, hne]

/-- A rule that names nobody who is registered comes to nothing. -/
theorem applicable_of_unruled (h : r.Unruled catalog kind) :
    r.applicable catalog kind
      = if catalog.contains r.defaultBackend then ([r.defaultBackend], .default)
        else (catalog.names, .registryFallback) := by
  unfold applicable preferred
  cases hrule : r.rules kind with
  | none => cases hdefault : catalog.contains r.defaultBackend <;> simp [hdefault]
  | some names =>
    have hnil : names.filter catalog.contains = [] :=
      List.filter_eq_nil_iff.mpr fun name hname => by simp [h names hrule name hname]
    simp [hnil]

/-- **The router takes the names that apply.** -/
theorem applies_iff :
    r.Applies catalog kind names reason ↔ r.applicable catalog kind = (names, reason) := by
  constructor
  · intro h
    cases h with
    | rule hrule hsome => exact applicable_of_rule hrule hsome
    | default hnone hdefault => rw [applicable_of_unruled hnone, if_pos hdefault]
    | registry hnone hdefault hsorted hall =>
      have hnames : names = catalog.names := hsorted.eq_of_mem_iff catalog.names_pairwise
        fun name => (hall name).trans catalog.mem_names_iff.symm
      rw [applicable_of_unruled hnone, if_neg (by simp [hdefault]), hnames]
  · intro h
    by_cases hunruled : r.Unruled catalog kind
    · rw [applicable_of_unruled hunruled] at h
      split at h
      · next hdefault =>
        cases h
        exact .default hunruled hdefault
      · next hdefault =>
        cases h
        exact .registry hunruled (by simpa using hdefault) catalog.names_pairwise
          fun name => catalog.mem_names_iff
    · have hruled : ∃ rule, r.rules kind = some rule ∧
          ∃ name ∈ rule, catalog.contains name = true := by
        simpa [Unruled] using hunruled
      obtain ⟨rule, hrule, hsome⟩ := hruled
      rw [applicable_of_rule hrule hsome] at h
      cases h
      exact .rule hrule hsome

/-! ### Decisions -/

/-- What is decided over the names that apply. -/
structure Decided (catalog : Catalog) (needs : Requirements) (names : List String)
    (reason : Reason) (decision : Decision) : Prop where
  nonempty : decision.candidates ≠ []
  registered : ∀ name ∈ decision.candidates, catalog.contains name = true
  inOrder : decision.candidates.Sublist names
  degraded_iff : decision.reason = .degradedFallback ↔ ∀ name ∈ names, ¬ catalog.Ready needs name
  /-- Where none is ready, all of them stay. -/
  all_of_degraded : decision.reason = .degradedFallback → decision.candidates = names
  /-- Otherwise those stay that are ready. -/
  ready_of_not_degraded : decision.reason ≠ .degradedFallback →
    decision.candidates = names.filter (fun name => catalog.Ready needs name) ∧
      decision.reason = reason

/-- The decision for a task that asks for no backend. -/
theorem route_of_applies (hasked : task.backend = none) (hsome : catalog.isEmpty = false)
    (h : r.Applies catalog task.kind names reason) :
    r.route task catalog
      = .ok (if ∀ name ∈ names, ¬ catalog.Ready task.requirements name then
          { candidates := names, reason := .degradedFallback }
        else
          { candidates := names.filter fun name => catalog.Ready task.requirements name, reason })
          := by
  have hready : names.filter (catalog.isEligible task.requirements)
      = names.filter fun name => catalog.Ready task.requirements name :=
    List.filter_congr fun name _ => by
      rw [Bool.eq_iff_iff, Catalog.isEligible_iff, decide_eq_true_iff]
  have hnone : (names.filter (catalog.isEligible task.requirements)).isEmpty = true ↔
      ∀ name ∈ names, ¬ catalog.Ready task.requirements name := by
    rw [hready, List.isEmpty_iff, List.filter_eq_nil_iff]
    simp only [decide_eq_true_eq]
  unfold route
  simp only [hasked, hsome, applies_iff.mp h, Bool.false_eq_true, if_false]
  by_cases hall : ∀ name ∈ names, ¬ catalog.Ready task.requirements name
  · rw [if_pos (hnone.mpr hall), if_pos hall]
  · rw [if_neg fun he => hall (hnone.mp he), if_neg hall, hready]

theorem route_of_isEmpty (hasked : task.backend = none) (hempty : catalog.isEmpty = true) :
    r.route task catalog = .error .noBackends := by
  unfold route
  simp only [hasked, hempty, if_true]

/-- A task that asks for no backend is routed over the names that apply. -/
theorem decided_of_applies (hasked : task.backend = none) (hsome : catalog.isEmpty = false)
    (h : r.Applies catalog task.kind names reason) :
    ∃ decision, r.route task catalog = .ok decision ∧
      Decided catalog task.requirements names reason decision := by
  have hroute := route_of_applies hasked hsome h
  by_cases hnone : ∀ name ∈ names, ¬ catalog.Ready task.requirements name
  · rw [if_pos hnone] at hroute
    obtain ⟨hne, hregistered, -⟩ := route_spec hroute
    exact ⟨_, hroute, {
      nonempty := hne
      registered := hregistered
      inOrder := List.Sublist.refl _
      degraded_iff := iff_of_true rfl hnone
      all_of_degraded := fun _ => rfl
      ready_of_not_degraded := fun hnot => absurd rfl hnot }⟩
  · rw [if_neg hnone] at hroute
    obtain ⟨hne, hregistered, -⟩ := route_spec hroute
    exact ⟨_, hroute, {
      nonempty := hne
      registered := hregistered
      inOrder := List.filter_sublist
      degraded_iff := iff_of_false h.ne_degradedFallback hnone
      all_of_degraded := fun hdegraded => absurd hdegraded h.ne_degradedFallback
      ready_of_not_degraded := fun _ => ⟨rfl, rfl⟩ }⟩

/-- What becomes of a task that asks for a backend. -/
theorem routeTo_eq (name : String) (needs : Requirements) (catalog : Catalog) :
    routeTo name needs catalog
      = match catalog.get? name with
        | none => .error (.unknownBackend name)
        | some x =>
          if x.capabilities.Serves needs then
            .ok { candidates := [name], reason := .explicitOverride }
          else .error (.capabilityMismatch name (x.capabilities.unmet needs)) := by
  unfold routeTo
  cases catalog.get? name with
  | none => rfl
  | some x =>
    simp only [← Capabilities.missing_eq_unmet]
    exact if_congr Capabilities.satisfies_iff rfl rfl

/-- **Where a task goes.**  For every router, catalog and task.

A task that asks for no backend is refused exactly if nothing is registered.  Otherwise it goes to
some of the names that apply, in their order: to those that are ready, for the reason for which they
apply, or, if none is ready, to all of them, and then the reason is that.

A task that asks for a backend goes to that one alone if it is registered and does all that is
needed, whatever its health; it is refused because the backend is unknown, or because of just the
needs that it does not meet. -/
theorem route_exact (r : Routing) (catalog : Catalog) (task : Task) :
    (task.backend = none →
      (∀ e, r.route task catalog = .error e ↔ catalog.isEmpty = true ∧ e = .noBackends) ∧
      (catalog.isEmpty = false → (∃ names reason, r.Applies catalog task.kind names reason) ∧
        ∀ names reason, r.Applies catalog task.kind names reason →
          ∃ decision, r.route task catalog = .ok decision ∧
            Decided catalog task.requirements names reason decision)) ∧
    ∀ name, task.backend = some name →
      (∀ decision, r.route task catalog = .ok decision ↔
        decision = { candidates := [name], reason := .explicitOverride } ∧
          ∃ x, catalog.get? name = some x ∧ x.capabilities.Serves task.requirements) ∧
      ∀ e, r.route task catalog = .error e ↔
        (catalog.contains name = false ∧ e = .unknownBackend name) ∨
        ∃ x, catalog.get? name = some x ∧ ¬ x.capabilities.Serves task.requirements ∧
          e = .capabilityMismatch name (x.capabilities.unmet task.requirements) := by
  refine ⟨fun hasked => ?_, fun name hasked => ?_⟩
  · cases hempty : catalog.isEmpty with
    | true =>
      rw [route_of_isEmpty hasked hempty]
      refine ⟨fun e => ?_, nofun⟩
      rw [Except.error.injEq, and_iff_right rfl, eq_comm]
    | false =>
      have happlies : r.Applies catalog task.kind (r.applicable catalog task.kind).1
          (r.applicable catalog task.kind).2 := applies_iff.mpr rfl
      refine ⟨fun e => ?_, fun _ => ⟨⟨_, _, happlies⟩,
        fun names reason h => decided_of_applies hasked hempty h⟩⟩
      obtain ⟨decision, hroute, -⟩ := decided_of_applies hasked hempty happlies
      rw [hroute]
      exact iff_of_false nofun fun h => nomatch h.1
  · rw [route_of_asked hasked, routeTo_eq, Table.contains]
    cases hx : catalog.get? name with
    | none => simp [eq_comm]
    | some x =>
      by_cases hserves : x.capabilities.Serves task.requirements
      · simp [hserves, eq_comm]
      · simp [hserves, eq_comm]

namespace Example

/-- Of the three backends the first is down, and the second cannot stream. -/
def listed : Catalog := Catalog.ofDescriptors [
  { name := "a", capabilities := { streaming := true }, health := .open },
  { name := "b", capabilities := {} },
  { name := "c", capabilities := { streaming := true }, health := .halfOpen }]

/-- Research goes to a backend that is not registered, and then to the three in turn. -/
def routing : Routing where
  defaultBackend := "a"
  rules := fun _ => some ["d", "a", "b", "c"]

/-- A task that needs to be streamed. -/
def streamed : Task :=
  { id := "t", kind := .research, payload := "p", requirements := { streaming := true } }

end Example

open Example in
/-- The rule without the backend that is not registered applies, and the only one of its backends
that is ready is left. -/
theorem routed_to_ready :
    let decision : Decision := { candidates := ["c"], reason := .rule .research }
    streamed.backend = none ∧ listed.isEmpty = false ∧
    routing.Applies listed streamed.kind ["a", "b", "c"] (.rule .research) ∧
    routing.route streamed listed = .ok decision ∧
    Decided listed streamed.requirements ["a", "b", "c"] (.rule .research) decision := by
  intro decision
  have hsome : listed.isEmpty = false := by decide +kernel
  have happlies : routing.Applies listed streamed.kind ["a", "b", "c"] (.rule .research) :=
    applies_iff.mpr (by decide +kernel)
  have hroute : routing.route streamed listed = .ok decision := by decide +kernel
  obtain ⟨decision', hroute', hdecided⟩ :=
    (((route_exact routing listed streamed).1 rfl).2 hsome).2 _ _ happlies
  obtain rfl : decision' = decision := Except.ok.inj (hroute'.symm.trans hroute)
  exact ⟨rfl, hsome, happlies, hroute, hdecided⟩

end Routing

end Dispatch
