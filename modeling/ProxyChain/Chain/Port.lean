/-!
# Local ports

Ports are handed out by counting up from a base. When the counter stands at zero, because that is the
base or because it has run past the last port, the system is asked for a free one instead.
-/

namespace ProxyChain

/-- What the system answers when it is asked for a free port for the `n`th time, counting from
zero. -/
abbrev SystemPorts := Nat → Except String UInt16

/-- A supply of ports: the counter, and how often the system has been asked. -/
structure PortSupply where
  counter : UInt16
  asked : Nat := 0
  deriving DecidableEq, Repr

namespace PortSupply

/-- The next port. -/
def take (system : SystemPorts) (p : PortSupply) : Except String (UInt16 × PortSupply) :=
  if p.counter = 0 then
    match system p.asked with
    | .ok port => .ok (port, { p with asked := p.asked + 1 })
    | .error e => .error e
  else .ok (p.counter, { p with counter := p.counter + 1 })

end PortSupply

end ProxyChain
