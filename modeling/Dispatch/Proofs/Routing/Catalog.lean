/-
Dispatch/Proofs/Routing/Catalog.lean

What the router is told.

There are two catalogs: that of the backends that a configuration declares (`Config.catalog`), and
that of the backends that are registered with a dispatcher (`Dispatcher.catalog`).  Both leave out
what is disabled.  Of a registered backend that is declared the router is told what is declared, and
of any other what it advertises (`Dispatcher.exists_of_get?_catalog`).  So where the same names are
registered and declared, both catalogs hold the same backends with the same capabilities and ranks,
and can differ in the health of a backend only (`Dispatcher.catalog_eq`).
-/
import Dispatch.Handling.Dispatcher

namespace Dispatch

/-! ### The declared backends as a catalog -/

namespace Config

/-- What the command line routes over. -/
def catalog (c : Config) : Catalog := Catalog.ofDescriptors c.descriptors

/-- The descriptors of the enabled backends are in name order, so none of them is replaced. -/
theorem catalog_eq (c : Config) :
    c.catalog = (c.backends.filter fun _ b => b.enabled).mapValues fun name b =>
      { name, capabilities := b.capabilities, ranks := c.ranksOf name } := by
  apply Table.ext_entries
  have hentries : c.descriptors.map (fun d => (d.name, d))
      = ((c.backends.filter fun _ b => b.enabled).mapValues fun name b =>
          ({ name, capabilities := b.capabilities, ranks := c.ranksOf name } :
            Descriptor)).entries := by
    rw [descriptors, List.map_map]
    rfl
  rw [catalog, Catalog.ofDescriptors, hentries]
  exact Table.entries_ofList (Table.sorted _)

theorem get?_catalog (c : Config) (name : String) :
    c.catalog.get? name = ((c.backends.get? name).filter BackendConfig.enabled).map fun b =>
      { name, capabilities := b.capabilities, ranks := c.ranksOf name } := by
  rw [catalog_eq, Table.get?_mapValues, Table.get?_filter]

theorem enabled_of_contains_catalog {c : Config} {name : String}
    (h : c.catalog.contains name = true) :
    ∃ b, c.backends.get? name = some b ∧ b.enabled = true := by
  rw [Table.contains, get?_catalog, Option.isSome_map, Option.isSome_iff_exists] at h
  obtain ⟨b, hb⟩ := h
  exact ⟨b, Option.filter_eq_some_iff.mp hb⟩

end Config

/-! ### The registered backends as a catalog -/

namespace Dispatcher

variable {d : Dispatcher}

/-- Of a backend that is declared the router is told what is declared of it. -/
theorem descriptor?_of_declared {name : String} {declared : BackendConfig}
    (h : d.config.backends.get? name = some declared) (b : Breakers) (now : Nat) (a : Adapter) :
    d.descriptor? b now name a = if declared.enabled then some {
      name, capabilities := declared.capabilities, health := b.health name now,
      ranks := d.config.ranksOf name } else none := by
  cases henabled : declared.enabled <;> simp [descriptor?, h, henabled]

/-- Where the declared backends are the registered ones, the router is told what the command line
is told, but for the health. -/
theorem catalog_eq (h : d.registry.names = d.config.backends.names) (b : Breakers) (now : Nat) :
    d.catalog b now
      = d.config.catalog.mapValues fun name x => { x with health := b.health name now } := by
  refine Table.ext_get? fun name => ?_
  rw [catalog, Table.get?_filterMap, Table.get?_mapValues, Config.get?_catalog]
  cases hdeclared : d.config.backends.get? name with
  | none => rw [(Table.get?_eq_none_iff_of_names h name).mpr hdeclared]; rfl
  | some declared =>
    cases ha : d.registry.get? name with
    | none =>
      -- declared and not registered: the names differ
      have hnone := (Table.get?_eq_none_iff_of_names h name).mp ha
      rw [hdeclared] at hnone
      cases hnone
    | some a =>
      rw [Option.bind_some, descriptor?_of_declared hdeclared]
      cases henabled : declared.enabled <;> simp [Option.filter, henabled]

/-- A backend of the catalog is registered.  Its capabilities are the declared ones, and it is not
disabled, if it is declared; else they are those that it advertises. -/
theorem exists_of_get?_catalog {b : Breakers} {now : Nat} {name : String} {x : Descriptor}
    (h : (d.catalog b now).get? name = some x) :
    ∃ a, d.registry.get? name = some a ∧
      match d.config.backends.get? name with
      | none => x.capabilities = a.capabilities
      | some declared => declared.enabled = true ∧ x.capabilities = declared.capabilities := by
  rw [catalog, Table.get?_filterMap] at h
  obtain ⟨a, ha, hx⟩ := Option.bind_eq_some_iff.mp h
  refine ⟨a, ha, ?_⟩
  cases hdeclared : d.config.backends.get? name with
  | none =>
    simp only [descriptor?, hdeclared, Option.any_none, Option.map_none, Option.getD_none] at hx
    cases hx
    rfl
  | some declared =>
    rw [descriptor?_of_declared hdeclared] at hx
    split at hx
    · next henabled =>
      cases hx
      exact ⟨henabled, rfl⟩
    · cases hx

/-- The health of a backend in the catalog is what its circuit reads. -/
theorem health_of_get?_catalog {b : Breakers} {now : Nat} {name : String} {x : Descriptor}
    (h : (d.catalog b now).get? name = some x) : x.health = b.health name now := by
  rw [catalog, Table.get?_filterMap] at h
  obtain ⟨a, -, hx⟩ := Option.bind_eq_some_iff.mp h
  unfold descriptor? at hx
  simp only at hx
  split at hx
  · cases hx
  · cases hx
    rfl

/-- The capabilities in force for a backend: those that it is declared with, else those that it
advertises. -/
def capabilitiesOf? (d : Dispatcher) (name : String) : Option Capabilities :=
  match d.config.backends.get? name with
  | some declared => some declared.capabilities
  | none => (d.registry.get? name).map Adapter.capabilities

/-- The router is told the capabilities in force. -/
theorem capabilitiesOf?_of_get?_catalog {b : Breakers} {now : Nat} {name : String} {x : Descriptor}
    (h : (d.catalog b now).get? name = some x) : d.capabilitiesOf? name = some x.capabilities := by
  obtain ⟨a, ha, hdeclared⟩ := exists_of_get?_catalog h
  unfold capabilitiesOf?
  cases hget : d.config.backends.get? name with
  | none =>
    rw [hget] at hdeclared
    rw [ha, hdeclared]
    rfl
  | some declared =>
    rw [hget] at hdeclared
    rw [hdeclared.2]

/-- No backend of the catalog is disabled. -/
theorem enabled_of_get?_catalog {b : Breakers} {now : Nat} {name : String} {x : Descriptor}
    (h : (d.catalog b now).get? name = some x) {declared : BackendConfig}
    (hget : d.config.backends.get? name = some declared) : declared.enabled = true := by
  obtain ⟨a, -, hdeclared⟩ := exists_of_get?_catalog h
  rw [hget] at hdeclared
  exact hdeclared.1

/-- A registered backend that is declared and not disabled is in the catalog. -/
theorem get?_catalog_of_declared {name : String} {a : Adapter} {declared : BackendConfig}
    (ha : d.registry.get? name = some a) (h : d.config.backends.get? name = some declared)
    (henabled : declared.enabled = true) (b : Breakers) (now : Nat) :
    (d.catalog b now).get? name = some {
      name, capabilities := declared.capabilities, health := b.health name now,
      ranks := d.config.ranksOf name } := by
  rw [catalog, Table.get?_filterMap, ha, Option.bind_some, descriptor?_of_declared h,
    if_pos henabled]

end Dispatcher

end Dispatch
