/-
Dispatch/Backend/Registry.lean

The backends that are there to be called, under their names.
-/
import Dispatch.Backend.Descriptor
import Dispatch.Table
import Dispatch.Text.Quoted

namespace Dispatch

/-- What a backend says of itself. -/
structure Adapter where
  capabilities : Capabilities := {}
  /-- What its own health check answers. -/
  reachable : Bool := true
  deriving DecidableEq, Repr, Inhabited

/-- The backends that are there to be called; of two with one name the later stays. -/
abbrev Registry := Table Adapter

namespace Registry

/-- What the router would be told of the backends if nothing else were known of them. -/
def descriptors (r : Registry) : List Descriptor :=
  r.entries.map fun e => { name := e.1, capabilities := e.2.capabilities }

/-- The registry in a debug message. -/
def debugText (r : Registry) : String :=
  "BackendRegistry \x7b backends: " ++ Quoted.list r.names ++ " \x7d"

end Registry

end Dispatch
