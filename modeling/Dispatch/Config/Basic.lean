/-
Dispatch/Config/Basic.lean

The configuration of dispatch: which backends serve which kinds of task, and the settings of
everything around a call.
-/
import Dispatch.Backend.Descriptor
import Dispatch.Config.Settings
import Dispatch.Table

namespace Dispatch

/-- Which backends serve which kinds, in order of preference. -/
structure Routing where
  /-- Serves the kinds without a rule. -/
  defaultBackend : String
  rules : TaskKind → Option (List String) := fun _ => none

namespace Routing

/-- Adds or replaces the rule of a kind. -/
def withRule (r : Routing) (kind : TaskKind) (backends : List String) : Routing :=
  { r with rules := fun k => if k = kind then some backends else r.rules k }

/-- Rules in name order of their kinds. -/
def ruleList (r : Routing) : List (TaskKind × List String) :=
  TaskKind.byName.filterMap fun k => (r.rules k).map fun backends => (k, backends)

theorem ext_rules {a b : Routing} (hd : a.defaultBackend = b.defaultBackend)
    (hr : ∀ k, a.rules k = b.rules k) : a = b := by
  cases a; cases b
  cases hd
  congr
  exact funext hr

instance : DecidableEq Routing := fun a b =>
  decidable_of_iff (a.defaultBackend = b.defaultBackend ∧
      ∀ k ∈ TaskKind.byName, a.rules k = b.rules k)
    ⟨fun h => ext_rules h.1 fun k => h.2 k (TaskKind.mem_byName k),
      fun h => h ▸ ⟨rfl, fun _ _ => rfl⟩⟩

end Routing

/-- What the configuration says of one backend. -/
structure BackendConfig where
  capabilities : Capabilities
  /-- Takes the place of the common breaker settings. -/
  breaker : Option BreakerSettings := none
  enabled : Bool := true
  deriving DecidableEq, Repr, Inhabited

/-- The configuration of dispatch. -/
structure Config where
  routing : Routing
  backends : Table BackendConfig := .empty
  resilience : ResilienceSettings := {}
  history : HistorySettings := {}
  storage : StorageSettings := {}
  deriving DecidableEq

namespace Config

/-- The breaker settings of a backend: its own, else the common ones. -/
def breakerFor (c : Config) (backend : String) : BreakerSettings :=
  ((c.backends.get? backend).bind BackendConfig.breaker).getD c.resilience.breaker

/-- The rank of a backend in every rule that names it. -/
def ranksOf (c : Config) (backend : String) : List Rank :=
  c.routing.ruleList.filterMap fun rule =>
    (rule.2.idxOf? backend).map fun rank => { kind := rule.1, rank }

/-- What the router is told of the enabled backends, in name order; every circuit is taken as
closed. -/
def descriptors (c : Config) : List Descriptor :=
  (c.backends.entries.filter fun e => e.2.enabled).map fun e =>
    { name := e.1, capabilities := e.2.capabilities, ranks := c.ranksOf e.1 }

/-- Tokens of history for a declared backend. -/
def windowBudget? (c : Config) (backend : String) : Option Nat :=
  (c.backends.get? backend).map fun b => c.history.windowBudget b.capabilities

/-- Every name that the routing mentions: the default, then the rules in name order. -/
def routedNames (c : Config) : List String :=
  c.routing.defaultBackend :: c.routing.ruleList.flatMap Prod.snd

end Config

end Dispatch
