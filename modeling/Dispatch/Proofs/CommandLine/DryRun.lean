/-
Dispatch/Proofs/CommandLine/DryRun.lean

The dry run tells the truth.

The command line routes over the backends that a configuration declares, a dispatcher over those
that are registered.  Where these are the same, the two catalogs can differ in the health of a
backend only (`Dispatcher.catalog_eq`).  The dry run takes it as closed, and it is closed while no
call has been made (`Breakers.health_ofConfig`).
-/
import Dispatch.CommandLine.Run
import Dispatch.Proofs.Routing.Candidates
import Dispatch.Proofs.Routing.Catalog

namespace Dispatch

/-! ### Before any call -/

/-- Before any call every circuit is closed. -/
theorem Breakers.health_ofConfig (c : Config) (name : String) (now : Nat) :
    (Breakers.ofConfig c).health name now = .closed := rfl

namespace Dispatcher

variable {d : Dispatcher}

/-- A dispatcher whose backends have not been called routes over what the command line routes
over. -/
theorem catalog_shared (h : d.registry.names = d.config.backends.names)
    (now : Nat) : d.catalog d.shared.guards.breakers now = d.config.catalog := by
  rw [catalog_eq h]
  refine Table.ext_get? fun name => ?_
  rw [Table.get?_mapValues, Config.get?_catalog, Option.map_map]
  apply congrArg (Option.map · _)
  funext b
  show Descriptor.mk name b.capabilities ((Breakers.ofConfig d.config).health name now)
    (d.config.ranksOf name) = _
  rw [Breakers.health_ofConfig]

theorem of_ofConfig {config : Config} {registry : Registry} {d : Dispatcher}
    (h : ofConfig config registry = .ok d) : d = { config, registry } := by
  unfold ofConfig at h
  split at h
  · exact (Except.ok.inj h).symm
  · cases h

end Dispatcher

/-! ### Routing over both -/

namespace CommandLine

/-- **The dry run tells the truth.**  Where the registered backends are the declared ones, whatever
the adapters advertise, a dispatcher whose backends have not been called yet decides for every task
what the dry run decides, and no candidate is a backend that is disabled. -/
theorem dryRun_eq_route {config : Config} {registry : Registry} {d : Dispatcher}
    (hd : Dispatcher.ofConfig config registry = .ok d)
    (hnames : registry.names = config.backends.names) (task : Task) (now : Nat) :
    dryRun config task = d.config.routing.route task (d.catalog d.shared.guards.breakers now) ∧
      ∀ decision, dryRun config task = .ok decision → ∀ name ∈ decision.candidates,
        ∃ b, config.backends.get? name = some b ∧ b.enabled = true := by
  obtain rfl := Dispatcher.of_ofConfig hd
  constructor
  · rw [Dispatcher.catalog_shared hnames]
    rfl
  · intro decision hdecision name hname
    have hin := (Routing.route_spec hdecision).2.1 name hname
    exact Config.enabled_of_contains_catalog hin

namespace Example

/-- Research goes to `b` first, which is disabled. -/
def config : Config where
  routing := { defaultBackend := "a", rules := fun _ => some ["b", "a"] }
  backends := (Table.empty.insert "a" { capabilities := { maxTokens := 1000 } }).insert "b"
    { capabilities := {}, enabled := false }

/-- The adapters advertise other capabilities than those that are declared. -/
def registry : Registry :=
  (Table.empty.insert "a" { capabilities := { maxTokens := 2, streaming := true } }).insert "b" {}

def task : Task := { id := "t", kind := .research, payload := "p" }

end Example

open Example in
/-- A backend that is disabled, and one that advertises what it is not declared with. -/
theorem dryRun_past_disabled :
    Dispatcher.ofConfig config registry = .ok { config, registry } ∧
    registry.names = config.backends.names ∧
    dryRun config task = .ok { candidates := ["a"], reason := .rule .research } ∧
    (({ config, registry } : Dispatcher).config.routing.route task
        (({ config, registry } : Dispatcher).catalog
          ({ config, registry } : Dispatcher).shared.guards.breakers 0)
      = .ok { candidates := ["a"], reason := .rule .research }) := by
  have hvalid : config.validate = .ok () := by decide +kernel
  have hd : Dispatcher.ofConfig config registry = .ok { config, registry } := by
    rw [Dispatcher.ofConfig, hvalid]
  have hnames : registry.names = config.backends.names := rfl
  have hdry : dryRun config task = .ok { candidates := ["a"], reason := .rule .research } := rfl
  obtain ⟨hroute, -⟩ := dryRun_eq_route hd hnames task 0
  refine ⟨hd, hnames, hdry, ?_⟩
  rw [← hroute]
  exact hdry

end CommandLine

end Dispatch
