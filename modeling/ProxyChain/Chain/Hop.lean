import ProxyChain.Chain.Port
import ProxyChain.Helper.Basic
import ProxyChain.Outbound.Document
import ProxyChain.Record.Basic

/-!
# Hops

A chain of records is planned hop by hop. A hop that the core runs is an outbound that detours through
the hop before. A hop that needs a helper is a local port that the helper listens on; since the helper
dials its server itself, it is given a second port that the core forwards to the server through the
hop before.
-/

namespace ProxyChain

/-- Why a chain cannot be compiled. -/
inductive ChainError where
  | empty
  /-- A complete configuration is not alone. -/
  | fullConfig
  /-- A hop has no outbound. -/
  | outbound (error : OutboundError)
  /-- The system has no free port. -/
  | noPort (cause : String)
  deriving DecidableEq, Repr

/-- What went wrong, in words. -/
def ChainError.message : ChainError → String
  | empty => "cannot compile an empty chain"
  | fullConfig => "a full configuration cannot be chained with other profiles"
  | outbound e => e.message
  | noPort cause => s!"no free local port for helper: {cause}"

/-- What carries a hop's traffic. -/
inductive Carrier where
  /-- An outbound of the core. -/
  | core (outbound : Json)
  /-- A helper. -/
  | helper (ports : Helper.Ports)
  deriving Repr

/-- A planned hop. -/
structure Hop where
  record : Record
  /-- Its place in the chain, counted from zero. -/
  index : Nat
  /-- The tag of the hop before. -/
  previous : Option String
  carrier : Carrier
  deriving Repr

/-- The tag of a record at a place in a chain. -/
def hopTag (r : Record) (index : Nat) : String :=
  s!"proxy-{Text.showInt r.id.toInt}-{Text.showNat index}"

namespace Hop

/-- The tag of a hop's outbound. -/
def tag (h : Hop) : String := hopTag h.record h.index

/-- The ports of the helper, if there is one. -/
def ports? (h : Hop) : Option Helper.Ports :=
  match h.carrier with
  | .helper ports => some ports
  | .core _ => none

/-- The tag of the inbound that forwards to a hop's server. -/
def relayTag (h : Hop) : String := h.tag ++ "-upstream"

/-- The outbound by which the core reaches a helper. -/
def socks (h : Hop) (port : UInt16) : Json := .ofFields
  [("type", .string "socks"), ("tag", .string h.tag), ("server", .string localhost),
   ("server_port", .int port.toNat), ("version", .string "5")]

/-- An outbound that is an object is given the hop's tag and its detour. -/
def label (h : Hop) : Json → Json
  | .object m =>
    let detoured : Members :=
      match h.previous with
      | some tag => Members.insert "detour" (.string tag) m
      | none => m
    .object (detoured.insert "tag" (.string h.tag))
  | other => other

/-- The outbound of a hop. -/
def outbound (h : Hop) : Json :=
  match h.carrier with
  | .core document => h.label document
  | .helper ports => h.socks ports.listen

end Hop

/-- The ports of a helper. One behind other hops takes a second port right after its own. -/
def takePorts (system : SystemPorts) (behind : Bool) (supply : PortSupply) :
    Except String (Helper.Ports × PortSupply) := do
  let (listen, supply) ← supply.take system
  if behind then
    let (relay, supply) ← supply.take system
    return ({ listen, relay := some relay }, supply)
  else return ({ listen }, supply)

/-- What carries a record's traffic. -/
def planCarrier (system : SystemPorts) (s : Settings) (behind : Bool) (r : Record)
    (supply : PortSupply) : Except ChainError (Carrier × PortSupply) :=
  if r.profile.isFullConfig then .error .fullConfig
  else if r.profile.needsHelper then
    match takePorts system behind supply with
    | .ok (ports, supply) => .ok (.helper ports, supply)
    | .error cause => .error (.noPort cause)
  else
    match r.profile.toOutbound s with
    | .ok document => .ok (.core document, supply)
    | .error e => .error (.outbound e)

/-- Plans the hops of a chain from a place in it on. -/
def planHops (system : SystemPorts) (s : Settings) :
    (index : Nat) → (previous : Option String) → PortSupply → List Record →
      Except ChainError (List Hop)
  | _, _, _, [] => .ok []
  | index, previous, supply, record :: records => do
    let (carrier, supply) ← planCarrier system s previous.isSome record supply
    let hop : Hop := { record, index, previous, carrier }
    let hops ← planHops system s (index + 1) (some hop.tag) supply records
    return hop :: hops

end ProxyChain
