/-
Dispatch/Proofs/Routing/Declared.lean

A valid table routes as it is written.

The declared backends are told to the router with whatever health is observed of them
(`Config.observed`).  Validation has seen to it that every name of the routing is declared and that
every rule names somebody, and nobody twice.  So where no backend is disabled, all that routing
mentions is registered, and the names that apply to a kind of task are those of its rule, all of
them, or the default where it has none (`Routing.applies_of_registered`).  Neither of the two
fallbacks for names that nobody has registered is ever reached; what is left to the health of the
backends is which of the names stay.
-/
import Dispatch.Proofs.Routing.Catalog
import Dispatch.Proofs.Routing.Consulted

namespace Dispatch

/-! ### What the router is told -/

namespace Config

variable {c : Config} {health : String → Health} {name : String} {kind : TaskKind}

/-- The descriptors of the enabled backends, each with the health that is observed of it. -/
def observed (c : Config) (health : String → Health) : List Descriptor :=
  c.descriptors.map fun x => { x with health := health x.name }

/-- The descriptors are in name order, so the catalog holds each of them. -/
theorem ofDescriptors_observed (c : Config) (health : String → Health) :
    Catalog.ofDescriptors (c.observed health)
      = c.catalog.mapValues fun name x => { x with health := health name } := by
  apply Table.ext_entries
  have hentries : (c.observed health).map (fun x => (x.name, x))
      = (c.catalog.mapValues fun name x => { x with health := health name }).entries := by
    rw [catalog_eq, observed, descriptors, List.map_map, List.map_map]
    simp only [Table.mapValues, Table.filter, List.map_map]
    rfl
  rw [Catalog.ofDescriptors, hentries]
  exact Table.entries_ofList (Table.sorted _)

theorem get?_observed (c : Config) (health : String → Health) (name : String) :
    (Catalog.ofDescriptors (c.observed health)).get? name
      = ((c.backends.get? name).filter BackendConfig.enabled).map fun b =>
          { name, capabilities := b.capabilities, health := health name,
            ranks := c.ranksOf name } := by
  rw [ofDescriptors_observed, Table.get?_mapValues, get?_catalog, Option.map_map]
  rfl

theorem contains_observed_iff :
    (Catalog.ofDescriptors (c.observed health)).contains name = true ↔
      ∃ b, c.backends.get? name = some b ∧ b.enabled = true := by
  rw [Table.contains, get?_observed, Option.isSome_map, Option.isSome_iff_exists]
  exact exists_congr fun b => Option.filter_eq_some_iff

/-! ### What a valid table declares -/

theorem mem_routedNames_of_mentioned (h : name ∈ c.routing.mentioned kind) :
    name ∈ c.routedNames := by
  rcases Routing.mem_mentioned_iff.mp h with rfl | ⟨names, hrule, hname⟩
  · exact List.mem_cons_self
  · exact List.mem_cons_of_mem _
      (List.mem_flatMap.mpr ⟨(kind, names), Routing.mem_ruleList_iff.mpr hrule, hname⟩)

/-- A valid table, unless it is empty, declares all that routing mentions. -/
theorem Valid.contains_of_mentioned (h : c.Valid) (hsome : c.backends.isEmpty = false)
    (hname : name ∈ c.routing.mentioned kind) : c.backends.contains name = true := by
  have hdeclared := h.declared name (mem_routedNames_of_mentioned hname)
  rwa [declares, hsome, Bool.false_or] at hdeclared

end Config

/-! ### Where everything that is mentioned is registered -/

namespace Routing

variable {r : Routing} {catalog : Catalog} {kind : TaskKind}

/-- Where everything that is mentioned for a kind is registered, the preferred names apply as they
are. -/
theorem applies_of_registered (hrules : r.RulesValid)
    (hall : ∀ name ∈ r.mentioned kind, catalog.contains name = true) :
    r.Applies catalog kind (r.preferred kind).1 (r.preferred kind).2 := by
  unfold preferred
  cases hrule : r.rules kind with
  | none =>
    exact .default (fun names hnames => absurd (hrule.symm.trans hnames) nofun)
      (hall _ List.mem_cons_self)
  | some names =>
    have hnames : ∀ name ∈ names, catalog.contains name = true := fun name hname =>
      hall name (mem_mentioned_of_rule hrule hname)
    obtain ⟨name, hname⟩ := List.exists_mem_of_ne_nil names (hrules kind names hrule).1
    have happlies := Applies.rule hrule ⟨name, hname, hnames name hname⟩
    rwa [List.filter_eq_self.mpr hnames] at happlies

/-- **A valid table routes as it is written.**  For every configuration that is valid and declares
some backends, none of them disabled, whatever their health: a task that asks for no backend is
routed, to at least one candidate and to none twice.  The candidates of a kind with a rule are
names of the rule in their order, and the reason is the rule or that no backend is ready; for a
kind without one the candidate is the default, and the reason is that or, again, that it is not
ready. -/
theorem routed_as_written {c : Config} (hvalid : c.validate = .ok ())
    (hdeclared : c.backends.isEmpty = false)
    (henabled : ∀ entry ∈ c.backends.entries, entry.2.enabled = true)
    (health : String → Health) (task : Task) (hasked : task.backend = none) :
    ∃ decision,
      c.routing.route task (Catalog.ofDescriptors (c.observed health)) = .ok decision ∧
      decision.candidates ≠ [] ∧ decision.candidates.Nodup ∧
      (∀ names, c.routing.rules task.kind = some names →
        decision.candidates.Sublist names ∧
          (decision.reason = .rule task.kind ∨ decision.reason = .degradedFallback)) ∧
      (c.routing.rules task.kind = none →
        decision.candidates = [c.routing.defaultBackend] ∧
          (decision.reason = .default ∨ decision.reason = .degradedFallback)) := by
  have hv := Config.validate_eq_ok_iff.mp hvalid
  -- what is mentioned is declared, for the table is valid, and nothing declared is disabled
  have hregistered : ∀ name ∈ c.routing.mentioned task.kind,
      (Catalog.ofDescriptors (c.observed health)).contains name = true := fun name hname => by
    obtain ⟨b, hb⟩ := Option.isSome_iff_exists.mp (hv.contains_of_mentioned hdeclared hname)
    exact Config.contains_observed_iff.mpr
      ⟨b, hb, henabled (name, b) (c.backends.get?_eq_some_iff_mem.mp hb)⟩
  have hsome := Table.isEmpty_eq_false_of_contains (hregistered _ List.mem_cons_self)
  obtain ⟨decision, hroute, hdecided⟩ :=
    decided_of_applies hasked hsome (applies_of_registered hv.rules hregistered)
  have hreason : decision.reason = (c.routing.preferred task.kind).2 ∨
      decision.reason = .degradedFallback := by
    by_cases hdegraded : decision.reason = .degradedFallback
    · exact Or.inr hdegraded
    · exact Or.inl (hdecided.ready_of_not_degraded hdegraded).2
  have hsub := hdecided.inOrder
  refine ⟨decision, hroute, hdecided.nonempty, (route_spec hroute).2.2 hv.rules,
    fun names hrule => ?_, fun hrule => ?_⟩
  · rw [preferred, hrule] at hsub hreason
    exact ⟨hsub, hreason⟩
  · rw [preferred, hrule] at hsub hreason
    exact ⟨(List.sublist_singleton.mp hsub).resolve_left hdecided.nonempty, hreason⟩

namespace Example

/-- Research goes to `b` first, and everything else to `a`. -/
def declaring : Config where
  routing := { defaultBackend := "a" : Routing }.withRule .research ["b", "a"]
  backends := Table.ofList [
    ("a", { capabilities := { maxTokens := 1000 } }),
    ("b", { capabilities := { maxTokens := 2000 } })]

def taskOf (kind : TaskKind) : Task := { id := "t", kind, payload := "p" }

end Example

open Example in
/-- With `b` down, research goes to the other name of its rule, and a kind without a rule to the
default; with all down, research goes to all names of its rule. -/
theorem routed_with_backend_down :
    let down (name : String) : Health := if name = "b" then .open else .closed
    declaring.validate = .ok () ∧ declaring.backends.isEmpty = false ∧
    (∀ entry ∈ declaring.backends.entries, entry.2.enabled = true) ∧
    (∃ decision, declaring.routing.route (taskOf .research)
        (Catalog.ofDescriptors (declaring.observed down)) = .ok decision ∧
      decision = { candidates := ["a"], reason := .rule .research } ∧
      decision.candidates.Sublist ["b", "a"]) ∧
    (∃ decision, declaring.routing.route (taskOf .generalChat)
        (Catalog.ofDescriptors (declaring.observed down)) = .ok decision ∧
      decision.candidates = ["a"]) ∧
    ∃ decision, declaring.routing.route (taskOf .research)
        (Catalog.ofDescriptors (declaring.observed fun _ => .open)) = .ok decision ∧
      decision.candidates.Nodup ∧ decision.reason = .degradedFallback := by
  intro down
  have hvalid : declaring.validate = .ok () := by decide +kernel
  have hsome : declaring.backends.isEmpty = false := by decide +kernel
  have henabled : ∀ entry ∈ declaring.backends.entries, entry.2.enabled = true := by
    decide +kernel
  have hresearch : declaring.routing.route (taskOf .research)
      (Catalog.ofDescriptors (declaring.observed down))
        = .ok { candidates := ["a"], reason := .rule .research } := by decide +kernel
  have hall : declaring.routing.route (taskOf .research)
      (Catalog.ofDescriptors (declaring.observed fun _ => .open))
        = .ok { candidates := ["b", "a"], reason := .degradedFallback } := by decide +kernel
  refine ⟨hvalid, hsome, henabled, ?_, ?_, ?_⟩
  · obtain ⟨decision, hroute, -, -, hrule, -⟩ :=
      routed_as_written hvalid hsome henabled down (taskOf .research) rfl
    obtain rfl := Except.ok.inj (hroute.symm.trans hresearch)
    exact ⟨_, hroute, rfl, (hrule _ rfl).1⟩
  · obtain ⟨decision, hroute, -, -, -, hdefault⟩ :=
      routed_as_written hvalid hsome henabled down (taskOf .generalChat) rfl
    exact ⟨decision, hroute, (hdefault rfl).1⟩
  · obtain ⟨decision, hroute, -, hnodup, -⟩ :=
      routed_as_written hvalid hsome henabled (fun _ => .open) (taskOf .research) rfl
    obtain rfl := Except.ok.inj (hroute.symm.trans hall)
    exact ⟨_, hroute, hnodup, rfl⟩

end Routing

end Dispatch
