/-
Dispatch/Resilience/Guards.lean

Everything that guards calls: the limiter of callers, the breakers of backends, and the settings
of retries.
-/
import Dispatch.Resilience.Call

namespace Dispatch

/-- Everything that guards calls. -/
structure Guards where
  limiter : Limiter Float := Limiter.ofSettings {}
  breakers : Breakers := {}
  retry : RetrySettings := {}

namespace Guards

/-- Guards with the settings of a configuration. -/
def ofConfig (c : Config) : Guards where
  limiter := Limiter.ofSettings c.resilience.limit
  breakers := Breakers.ofConfig c
  retry := c.resilience.retry

/-- Spends a token of a caller. -/
def admission (g : Guards) (caller : String) (now : Nat) : Guards × Except CallError Unit :=
  let r := g.limiter.acquire caller now
  ({ g with limiter := r.1 }, r.2.mapError CallError.rateLimited)

/-- The plan of a call. -/
def plan (g : Guards) (backend : String) (timeout : Duration) (factor : Nat → BinaryFraction) :
    CallPlan :=
  { backend, timeout, factor, retry := g.retry }

/-- Changes the breakers by a step that has a result beside. -/
def withBreakers {β : Type} (g : Guards) (step : Breakers → Breakers × β) : Guards × β :=
  let r := step g.breakers
  ({ g with breakers := r.1 }, r.2)

end Guards

end Dispatch
