/-
Dispatch/Routing/Router.lean

Routing: the backends for a task, in order.

Routing is a function of the task, the rules, and a catalog of backends.  A backend that the
task asks for is the only candidate, whatever its health.  Otherwise the applicable names are
those of the rule that are registered, else the default, else every name (`Routing.applicable`).
Of these the eligible ones are kept, those that are healthy and capable; if there is none, all
of the applicable names stay (`Routing.route`).
-/
import Dispatch.Config.Basic
import Dispatch.Routing.Decision
import Dispatch.Task.Basic

namespace Dispatch

/-- The registered backends, under their names. -/
abbrev Catalog := Table Descriptor

namespace Catalog

/-- The catalog of a list; of two descriptors with one name the later stays. -/
def ofDescriptors (l : List Descriptor) : Catalog := Table.ofList (l.map fun d => (d.name, d))

/-- Whether a backend is registered, healthy enough, and capable of what a task needs. -/
def isEligible (c : Catalog) (needs : Requirements) (name : String) : Bool :=
  match c.get? name with
  | none => false
  | some d => d.health ≠ .open && d.capabilities.satisfies needs

end Catalog

/-- Why a task cannot be routed. -/
inductive RouteError where
  | unknownBackend (backend : String)
  | capabilityMismatch (backend : String) (missing : List Need)
  | noBackends
  deriving DecidableEq, Repr

/-- The text of an error. -/
def RouteError.message : RouteError → String
  | unknownBackend backend => s!"Backend '{backend}' is not registered"
  | capabilityMismatch backend missing =>
    s!"Backend '{backend}' lacks required capabilities: "
      ++ ", ".intercalate (missing.map Need.name)
  | noBackends => "No backends are registered"

namespace Routing

/-- The names of a kind's rule, else the default. -/
def preferred (r : Routing) (kind : TaskKind) : List String × Reason :=
  match r.rules kind with
  | some names => (names, .rule kind)
  | none => ([r.defaultBackend], .default)

/-- The registered names that a kind may go to. -/
def applicable (r : Routing) (catalog : Catalog) (kind : TaskKind) : List String × Reason :=
  let (names, reason) := r.preferred kind
  let registered := names.filter catalog.contains
  if !registered.isEmpty then (registered, reason)
  else if catalog.contains r.defaultBackend then ([r.defaultBackend], .default)
  else (catalog.names, .registryFallback)

/-- The decision for a task that asks for a backend. -/
def routeTo (name : String) (needs : Requirements) (catalog : Catalog) :
    Except RouteError Decision :=
  match catalog.get? name with
  | none => .error (.unknownBackend name)
  | some d =>
    let missing := d.capabilities.missing needs
    if missing.isEmpty then .ok { candidates := [name], reason := .explicitOverride }
    else .error (.capabilityMismatch name missing)

/-- The decision for a task. -/
def route (r : Routing) (task : Task) (catalog : Catalog) : Except RouteError Decision :=
  match task.backend with
  | some name => routeTo name task.requirements catalog
  | none =>
    if catalog.isEmpty then .error .noBackends
    else
      let (names, reason) := r.applicable catalog task.kind
      let eligible := names.filter (catalog.isEligible task.requirements)
      if eligible.isEmpty then .ok { candidates := names, reason := .degradedFallback }
      else .ok { candidates := eligible, reason }

end Routing

end Dispatch
