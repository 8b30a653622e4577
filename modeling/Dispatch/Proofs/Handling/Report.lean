/-
Dispatch/Proofs/Handling/Report.lean

What the health report says of whom.

The report is made from the catalog.  So it has an entry for every registered backend that the
router is told of, in name order, and each entry is right: it carries the capabilities in force, the
health and the ranks of its backend, and the answer of that backend's own health check
(`Dispatcher.healthReport_eq`).  But the catalog is made for routing, and leaves out what is
disabled.  A backend that is registered and disabled has an own health and an own health check too,
and the report says nothing of it, so it covers the registry exactly if nothing registered is
disabled (`Dispatcher.report_covers_iff`).
-/
import Mathlib.Control.Monad.Basic
import Mathlib.Data.List.Basic
import Dispatch.Proofs.Routing.Catalog

namespace Dispatch

namespace Dispatcher

variable {d : Dispatcher} {b : Breakers} {now : Nat} {name : String} {a : Adapter}

/-- Whether the configuration disables a backend. -/
def disables (d : Dispatcher) (name : String) : Bool :=
  (d.config.backends.get? name).any fun declared => !declared.enabled

/-- What is said of one backend at a time is right. -/
structure Reports (d : Dispatcher) (b : Breakers) (now : Nat) (e : BackendHealth) : Prop where
  /-- The capabilities in force. -/
  capabilities : d.capabilitiesOf? e.descriptor.name = some e.descriptor.capabilities
  health : e.descriptor.health = b.health e.descriptor.name now
  ranks : e.descriptor.ranks = d.config.ranksOf e.descriptor.name
  /-- The answer of the backend's own health check. -/
  reachable : (d.registry.get? e.descriptor.name).map Adapter.reachable = some e.reachable

/-- A report that has one entry for each registered backend, in name order, and is right. -/
structure Covers (d : Dispatcher) (b : Breakers) (now : Nat) (report : List BackendHealth) :
    Prop where
  names_eq : report.map (fun e => e.descriptor.name) = d.registry.names
  reports : ∀ e ∈ report, d.Reports b now e

/-! ### The entries -/

/-- What there is to say of a registered backend. -/
def entryOf (d : Dispatcher) (b : Breakers) (now : Nat) (name : String) (a : Adapter) :
    BackendHealth where
  descriptor := {
    name
    capabilities := ((d.config.backends.get? name).map BackendConfig.capabilities).getD
      a.capabilities
    health := b.health name now
    ranks := d.config.ranksOf name }
  reachable := a.reachable

theorem descriptor?_eq (d : Dispatcher) (b : Breakers) (now : Nat) (name : String) (a : Adapter) :
    d.descriptor? b now name a
      = if d.disables name then none else some (d.entryOf b now name a).descriptor := rfl

theorem reports_entryOf (ha : d.registry.get? name = some a) :
    d.Reports b now (d.entryOf b now name a) where
  capabilities := by
    show d.capabilitiesOf? name = some _
    unfold capabilitiesOf? entryOf
    cases d.config.backends.get? name with
    | none => simp [ha]
    | some declared => rfl
  health := rfl
  ranks := rfl
  reachable := by
    show (d.registry.get? name).map Adapter.reachable = _
    rw [ha]
    rfl

/-- The report says what there is to say of each registered backend that is not disabled. -/
theorem healthReport_eq (d : Dispatcher) (b : Breakers) (now : Nat) :
    d.healthReport b now
      = (d.registry.entries.filter fun e => !d.disables e.1).map fun e =>
          d.entryOf b now e.1 e.2 := by
  have hentries : (d.catalog b now).entries = d.registry.entries.filterMap fun e =>
      (d.descriptor? b now e.1 e.2).map fun x => (e.1, x) := rfl
  rw [healthReport, hentries, List.filterMap_filterMap, ← List.filterMap_eq_map,
    List.filterMap_filter]
  refine List.filterMap_congr fun e he => ?_
  have hget : d.registry.get? e.1 = some e.2 := d.registry.get?_eq_some_iff_mem.mpr he
  rw [descriptor?_eq]
  cases hdisabled : d.disables e.1 with
  | true => rfl
  | false => simp [hget, entryOf]

/-! ### What is covered -/

/-- **The report covers the registry exactly if nothing registered is disabled.**  For every
configuration, registry and state of the breakers.  The report names every registered backend that
is not disabled, once and in name order, and all that it says is right. -/
theorem report_covers_iff (d : Dispatcher) (b : Breakers) (now : Nat) :
    let report := d.healthReport b now
    report.map (fun e => e.descriptor.name)
      = d.registry.names.filter (fun name => !d.disables name) ∧
    (report.map fun e => e.descriptor.name).Pairwise (· < ·) ∧
    (∀ e ∈ report, d.Reports b now e) ∧
    (d.Covers b now report ↔ ∀ name ∈ d.registry.names, d.disables name = false) := by
  intro report
  have hnames : report.map (fun e => e.descriptor.name)
      = d.registry.names.filter fun name => !d.disables name := by
    show (d.healthReport b now).map _ = _
    rw [healthReport_eq, List.map_map, Table.names, List.filter_map]
    rfl
  have hreports : ∀ e ∈ report, d.Reports b now e := by
    intro e he
    rw [show report = _ from healthReport_eq d b now] at he
    obtain ⟨x, hx, rfl⟩ := List.mem_map.mp he
    exact reports_entryOf (d.registry.get?_eq_some_iff_mem.mpr (List.mem_filter.mp hx).1)
  refine ⟨hnames, ?_, hreports, ?_⟩
  · rw [hnames]
    exact d.registry.names_pairwise.filter _
  · have hall : d.Covers b now report
        ↔ d.registry.names.filter (fun name => !d.disables name) = d.registry.names := by
      rw [← hnames]
      exact ⟨Covers.names_eq, fun heq => ⟨heq, hreports⟩⟩
    rw [hall, List.filter_eq_self]
    simp only [Bool.not_eq_true']

namespace Example

/-- Two registered backends, one of which is disabled. -/
def switchedOff : Dispatcher where
  config := {
    routing := { defaultBackend := "gpt" }
    backends := Table.ofList [
      ("claude", { capabilities := { maxTokens := 1000 }, enabled := false }),
      ("gpt", { capabilities := { maxTokens := 1000 } })] }
  registry := Table.ofList [("claude", {}), ("gpt", {})]

end Example

open Example in
/-- Of a registered backend that is disabled the report says nothing. -/
theorem disabled_unreported :
    let d := switchedOff
    let b := d.shared.guards.breakers
    ofConfig d.config d.registry = .ok d ∧
    d.registry.names = ["claude", "gpt"] ∧
    b.health "claude" 0 = .closed ∧
    (d.healthReport b 0).map (fun e => e.descriptor.name) = ["gpt"] ∧
    ¬ d.Covers b 0 (d.healthReport b 0) := by
  intro d b
  have hvalid : d.config.validate = .ok () := by decide +kernel
  have hregistered : d.registry.names = ["claude", "gpt"] := by decide +kernel
  have hreported : (d.healthReport b 0).map (fun e => e.descriptor.name) = ["gpt"] := by
    decide +kernel
  refine ⟨?_, hregistered, by decide +kernel, hreported, fun hcovers => ?_⟩
  · rw [ofConfig, hvalid]
    rfl
  · have heq := hcovers.names_eq
    rw [hreported, hregistered] at heq
    exact absurd heq (by decide)

end Dispatcher

end Dispatch
