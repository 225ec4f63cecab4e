import ProxyChain.Json.Parser
import ProxyChain.Outbound.Hysteria
import ProxyChain.Outbound.Trojan
import ProxyChain.Profile.Kind

/-!
# Outbounds

The core's document of one way out. A profile gives its outbound, except that Naive has none and a
raw configuration is its own; an outbound of a known type gives a profile.
-/

namespace ProxyChain

/-- Why a profile gives no outbound. -/
inductive OutboundError where
  /-- The core has none for profiles of this kind. -/
  | unsupported (kind : Profile.Kind)
  /-- The text of a raw configuration is no JSON. -/
  | invalidText (error : TextError)
  deriving DecidableEq, Repr

/-- What went wrong, in words. -/
def OutboundError.message : OutboundError → String
  | unsupported kind => s!"profile type {kind.name} has no outbound in the core"
  | invalidText e => s!"invalid raw configuration: {e.message}"

/-- The types of outbound that are known. -/
inductive OutboundType where
  | hysteria
  | hysteria2
  | trojan
  | direct
  deriving DecidableEq, Repr

/-- The type of a name. -/
def OutboundType.ofName? (name : String) : Option OutboundType :=
  if name = "hysteria" then some hysteria
  else if name = "hysteria2" then some hysteria2
  else if name = "trojan" then some trojan
  else if name = "direct" then some direct
  else none

namespace Profile

/-- An outbound with a type and a tag, whatever the other members say. -/
def typedOutbound (type tag : String) (fields : List (String × Option Json)) : Json :=
  .object (Members.ofFields
    (fields ++ [("type", some (.string type)), ("tag", some (.string tag))]))

/-- The outbound of a profile. -/
def toOutbound (p : Profile) (s : Settings) : Except OutboundError Json :=
  match p.variant with
  | .trojan t => .ok (typedOutbound "trojan" p.endpoint.name (t.fields p.endpoint s))
  | .hysteria h => .ok (typedOutbound h.outboundType p.endpoint.name (h.fields p.endpoint s))
  | .direct =>
    .ok (typedOutbound "direct" p.endpoint.name [("reuse_addr", some (.bool true))])
  | .naive _ => .error (.unsupported .naive)
  | .config raw =>
    match Json.parse raw.text with
    | .ok document => .ok document
    | .error e => .error (.invalidText e)

/-- The profile that the members of an outbound of a type give. -/
def ofOutboundType (doc : Members) : OutboundType → Profile
  | .hysteria =>
    ⟨Endpoint.ofMembers doc, .hysteria (Hysteria.ofFirstMembers (Endpoint.unmatched doc))⟩
  | .hysteria2 =>
    ⟨Endpoint.ofMembers doc, .hysteria (Hysteria.ofSecondMembers (Endpoint.unmatched doc))⟩
  | .trojan => ⟨Endpoint.ofMembers doc, .trojan (Trojan.ofMembers (Endpoint.unmatched doc))⟩
  | .direct => ⟨{ name := (Endpoint.ofMembers doc).name }, .direct⟩

/-- The profile of an outbound, if its type is known. -/
def ofOutbound? (doc : Members) : Option Profile :=
  ((doc.get? "type").bind fun type => OutboundType.ofName? type.text).map (ofOutboundType doc)

end Profile

end ProxyChain
