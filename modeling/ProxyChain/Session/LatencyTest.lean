import ProxyChain.Session.Close
import ProxyChain.Session.Phases

/-!
# Latency tests

A test takes a session through its whole life: it builds, prepares and starts, gives the helpers time
to come up, has the core measure one request, and closes whatever happened before.
-/

namespace ProxyChain

open SessionM

variable {ω : Type}

namespace Session

/-- How long helpers are given to come up, in milliseconds. -/
def warmUpMs : Nat := 500

/-- Waits for the helpers, if any was started. -/
def warmUp (env : Environment ω) : SessionM ω Unit := fun r =>
  .ok () (if 0 < env.helperCount r.world then { r with world := env.wait warmUpMs r.world } else r)

/-- The latency of a link through the chain, in milliseconds. -/
def measure (env : Environment ω) (link : String) (timeoutMs : Nat) (underTunnel : Bool) :
    SessionM ω Nat := do
  discard (build env)
  prepare env underTunnel
  start env
  warmUp env
  let s ← session
  call env (.updateTrust s.settings.trustSource)
  require .core (if s.coreLoaded then some () else none)
  call env (.testLink link timeoutMs)

/-- Measures the latency of a link and closes. What came of closing is not told. -/
def latencyTest (env : Environment ω) (link : String) (timeoutMs : Nat) (underTunnel : Bool)
    (r : Run ω) : Except SessionError Nat × Run ω :=
  match measure env link timeoutMs underTunnel { r with session := { r.session with forTest := true } } with
  | .ok latency r => (.ok latency, (close env r).2)
  | .error e r => (.error e, (close env r).2)

end Session

end ProxyChain
