/-
Dispatch/Backend/Capabilities.lean

What backends can do and what tasks need.

`Capabilities.missing` lists the requirements that are not met, in a fixed order; a backend is
capable (`Capabilities.satisfies`) when the list is empty.
-/

namespace Dispatch

/-- What a task needs of the backend that serves it. -/
structure Requirements where
  /-- The response has to be streamed. -/
  streaming : Bool := false
  /-- The backend has to take code context. -/
  codeContext : Bool := false
  /-- The least context window, in tokens. -/
  minContextTokens : Option Nat := none
  deriving DecidableEq, Repr, Inhabited

/-- What a backend can do. -/
structure Capabilities where
  streaming : Bool := false
  codeContext : Bool := false
  /-- Size of the context window, in tokens. -/
  maxTokens : Nat := 8192
  deriving DecidableEq, Repr, Inhabited

/-- One thing that a task may need. -/
inductive Need where
  | streaming | codeContext | maxTokens
  deriving DecidableEq, Repr

/-- The name of a need in answers. -/
def Need.name : Need → String
  | streaming => "streaming"
  | codeContext => "code-context"
  | maxTokens => "max-tokens"

namespace Capabilities

/-- Whether one need of a task is met. -/
def meets (c : Capabilities) (r : Requirements) : Need → Bool
  | .streaming => !r.streaming || c.streaming
  | .codeContext => !r.codeContext || c.codeContext
  | .maxTokens => match r.minContextTokens with
    | none => true
    | some least => least ≤ c.maxTokens

/-- The needs that are not met, in a fixed order. -/
def missing (c : Capabilities) (r : Requirements) : List Need :=
  [Need.streaming, .codeContext, .maxTokens].filter fun n => !c.meets r n

/-- Whether every need is met. -/
def satisfies (c : Capabilities) (r : Requirements) : Bool := (c.missing r).isEmpty

end Capabilities

end Dispatch
