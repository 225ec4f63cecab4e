import ProxyChain.Helper.Basic
import ProxyChain.Outbound.Hysteria
import ProxyChain.Path
import ProxyChain.Profile.Display

/-!
# Configurations of Hysteria helpers

Each generation has a layout of its own. Certificates go into a file that the configuration names.
-/

namespace ProxyChain

/-- The name that a server is asked for by: `sni`, or the server's address if that is empty. -/
def Endpoint.serverName (e : Endpoint) (sni : String) : String :=
  if sni.isEmpty then e.address else sni

namespace Hysteria

/-- What a configuration is rendered from besides the profile. -/
structure Surroundings where
  ports : Helper.Ports
  /-- The path of the certificate file as it is shown, if there is one. -/
  certificateFile : Option String
  /-- The socket by which to protect connections. -/
  protectPath : Option String
  settings : Settings

/-- The address to dial: the local relay port if there is one; else the server's, its port
replaced by the ports to hop between if there are any. -/
def dialAddress (p : Profile) (h : Hysteria) (relay : Option UInt16) : String :=
  match relay with
  | some port => localAddress port
  | none =>
    let address := p.displayAddress
    if (hopPorts h.serverPorts).isEmpty then address
    else
      let host :=
        match Text.cutLast ':' address.toList with
        | some (host, _) => String.ofList host
        | none => address
      host ++ ":" ++ String.ofList (h.serverPorts.toList.filter (· != ' '))

/-- The member by which helpers listen. -/
def listenField (ports : Helper.Ports) : String × Option Json :=
  ("socks5", some (.ofFields [("listen", .string (localAddress ports.listen))]))

/-- A flag that is left out when it is false. -/
def whenTrue (b : Bool) : Option Json := if b then some (.bool true) else none

/-- The first protocol to negotiate. -/
def firstAlpn? (h : Hysteria) : Option String := (Text.filledLines h.alpn).head?

/-- The configuration of the first generation. -/
def firstConfig (p : Profile) (h : Hysteria) (around : Surroundings) : Json :=
  let s := around.settings
  .object (Members.ofFields
    [("server", some (.string (dialAddress p h around.ports.relay))),
     ("protocol", some (.string h.transport.name)),
     ("up_mbps", some (.int (effectiveMbps h.uploadMbps s.uploadMbps).toInt)),
     ("down_mbps", some (.int (effectiveMbps h.downloadMbps s.downloadMbps).toInt)),
     listenField around.ports,
     ("retry", some (.int 5)),
     ("fast_open", some (.bool true)),
     ("lazy_start", some (.bool true)),
     ("obfs", filled h.obfuscation),
     ("auth", if h.authType = .base64 then some (.string h.authPayload) else none),
     ("auth_str", if h.authType = .str then some (.string h.authPayload) else none),
     ("server_name", filled (p.endpoint.serverName h.sni)),
     ("alpn", h.firstAlpn?.map .string),
     ("insecure", whenTrue h.allowInsecure),
     ("ca", around.certificateFile.map .string),
     ("recv_window", positive h.streamReceiveWindow),
     ("recv_window_conn", positive h.connectionReceiveWindow),
     ("disable_mtu_discovery", whenTrue h.disableMtuDiscovery),
     ("hop_interval", if 0 < h.hopInterval then some (.int h.hopInterval.toInt) else none),
     ("protect_path", around.protectPath.map .string)])

/-- A bandwidth as text. -/
def mbpsText (n : Int32) : Option Json :=
  if 0 < n then some (.string (Text.showInt n.toInt ++ " mbps")) else none

/-- The bandwidths that are set, if any is. -/
def bandwidth? (h : Hysteria) (s : Settings) : Option Json :=
  let up := effectiveMbps h.uploadMbps s.uploadMbps
  let down := effectiveMbps h.downloadMbps s.downloadMbps
  if 0 < up ∨ 0 < down then
    some (.object (Members.ofFields [("up", mbpsText up), ("down", mbpsText down)]))
  else none

/-- How often to hop, for a helper that dials its server itself and has ports to hop between. -/
def hopTransport? (h : Hysteria) (relay : Option UInt16) : Option Json :=
  if 0 < h.hopInterval ∧ !h.serverPorts.isEmpty ∧ relay.isNone then
    some (.ofFields [("udp", .ofFields [("hopInterval", .string (secondsText h.hopInterval))])])
  else none

/-- The configuration of the second generation. -/
def secondConfig (p : Profile) (h : Hysteria) (around : Surroundings) : Json :=
  .object (Members.ofFields
    [("server", some (.string (dialAddress p h around.ports.relay))),
     ("auth", filled h.authPayload),
     ("obfs", (Text.nonEmpty? h.obfuscation).map fun password => .ofFields
       [("type", .string "salamander"),
        ("salamander", .ofFields [("password", .string password)])]),
     ("tls", some (.object (Members.ofFields
       [("sni", filled (p.endpoint.serverName h.sni)),
        ("insecure", whenTrue h.allowInsecure),
        ("ca", around.certificateFile.map .string)]))),
     ("bandwidth", bandwidth? h around.settings),
     ("transport", hopTransport? h around.ports.relay),
     ("quic", if h.disableMtuDiscovery then
       some (.ofFields [("disablePathMTUDiscovery", .bool true)]) else none),
     listenField around.ports,
     ("lazy", some (.bool true)),
     ("protect_path", around.protectPath.map .string)])

/-- The configuration of the profile's generation. -/
def config (p : Profile) (h : Hysteria) (around : Surroundings) : Json :=
  if h.isFirstGeneration then firstConfig p h around else secondConfig p h around

/-- The file for the certificates, unless they are blank. `name` tells it from all others. -/
def certificateFile? (h : Hysteria) (s : Settings) (name : String) : Option Helper.AuxFile :=
  if Text.isAllBlank h.certificates.toList then none
  else some { path := Path.join s.cacheDir s!"hysteria_{name}.ca", contents := h.certificates }

end Hysteria

end ProxyChain
