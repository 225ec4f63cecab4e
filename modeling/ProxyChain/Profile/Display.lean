import ProxyChain.Profile.Kind

/-!
# Profiles on display

What a user is shown of a profile.
-/

namespace ProxyChain

/-- Host and port; a host with colons stands in brackets. -/
def hostPort (host : String) (port : UInt16) : String :=
  if host.toList.contains ':' then s!"[{host}]:{Text.showNat port.toNat}"
  else s!"{host}:{Text.showNat port.toNat}"

namespace Profile

/-- The server's address and port. Profiles without a server have none. -/
def displayAddress (p : Profile) : String :=
  match p.variant with
  | .direct | .config _ => ""
  | .trojan _ | .naive _ | .hysteria _ => hostPort p.endpoint.address p.endpoint.port

/-- The name, or the address if there is no name. -/
def displayName (p : Profile) : String :=
  if p.endpoint.name.isEmpty then p.displayAddress else p.endpoint.name

/-- The kind in words. -/
def displayType (p : Profile) : String :=
  match p.variant with
  | .trojan _ => "Trojan"
  | .naive _ => "Naïve"
  | .hysteria h => s!"Hysteria{Text.showInt h.protocolVersion.toInt}"
  | .direct => "Direct"
  | .config raw =>
    match raw.scope with
    | .full => "Config"
    | .outbound => "Outbound"

end Profile

end ProxyChain
