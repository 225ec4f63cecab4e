import ProxyChain.Json.Basic
import ProxyChain.Profile.Kind

/-!
# Profiles as documents

A profile spelled out as a JSON document, every field under its name. Fields stand in the order of
their declaration, not sorted.
-/

namespace ProxyChain

/-- The name of a multiplex protocol in a profile document. -/
def Multiplex.Protocol.label : Multiplex.Protocol → String
  | h2mux => "H2mux"
  | smux => "Smux"
  | yamux => "Yamux"

/-- The name of a multiplex limit. -/
def Multiplex.Limit.label : Multiplex.Limit → String
  | maxConnections => "MaxConnections"
  | minStreams => "MinStreams"
  | maxStreams => "MaxStreams"

/-- The name of a way to write a secret. -/
def Hysteria.Auth.label : Hysteria.Auth → String
  | none => "None"
  | base64 => "Base64"
  | str => "Str"

/-- The name of a transport in a profile document. -/
def Hysteria.Transport.label : Hysteria.Transport → String
  | udp => "Udp"
  | fakeTcp => "FakeTcp"
  | wechatVideo => "WechatVideo"

/-- The name of a scope. -/
def RawConfig.Scope.label : RawConfig.Scope → String
  | full => "Full"
  | outbound => "Outbound"

/-- The document of multiplex settings. -/
def Multiplex.toJson (m : Multiplex) : Json := .object
  [("enabled", .bool m.enabled), ("padding", .bool m.padding),
   ("protocol", .string m.protocol.label), ("strategy", .string m.limit.label),
   ("number", .int m.number.toInt), ("brutal", .bool m.brutal)]

/-- The document of an endpoint. -/
def Endpoint.toJson (e : Endpoint) : Json := .object
  [("name", .string e.name), ("server_address", .string e.address),
   ("server_port", .int e.port.toNat), ("mux", e.multiplex.toJson)]

/-- The document of Trojan settings. -/
def Trojan.toJson (t : Trojan) : Json := .object
  [("password", .string t.password), ("sni", .string t.sni), ("alpn", .string t.alpn),
   ("certificates", .string t.certificates), ("allow_insecure", .bool t.allowInsecure),
   ("utls_fingerprint", .string t.utlsFingerprint),
   ("reality_public_key", .string t.realityPublicKey),
   ("reality_short_id", .string t.realityShortId), ("ech", .bool t.ech),
   ("ech_config", .string t.echConfig)]

/-- The document of Naive settings. -/
def Naive.toJson (n : Naive) : Json := .object
  [("proto", .string n.proto), ("username", .string n.username), ("password", .string n.password),
   ("sni", .string n.sni), ("extra_headers", .string n.extraHeaders),
   ("insecure_concurrency", .int n.insecureConcurrency.toInt)]

/-- The document of Hysteria settings. -/
def Hysteria.toJson (h : Hysteria) : Json := .object
  [("protocol_version", .int h.protocolVersion.toInt), ("server_ports", .string h.serverPorts),
   ("obfuscation", .string h.obfuscation), ("auth_type", .string h.authType.label),
   ("auth_payload", .string h.authPayload), ("transport", .string h.transport.label),
   ("sni", .string h.sni), ("alpn", .string h.alpn), ("certificates", .string h.certificates),
   ("allow_insecure", .bool h.allowInsecure), ("disable_sni", .bool h.disableSni),
   ("stream_receive_window", .int h.streamReceiveWindow.toInt),
   ("connection_receive_window", .int h.connectionReceiveWindow.toInt),
   ("disable_mtu_discovery", .bool h.disableMtuDiscovery),
   ("upload_mbps", .int h.uploadMbps.toInt), ("download_mbps", .int h.downloadMbps.toInt),
   ("hop_interval", .int h.hopInterval.toInt), ("ech", .bool h.ech),
   ("ech_config", .string h.echConfig)]

/-- The document of a raw configuration. -/
def RawConfig.toJson (raw : RawConfig) : Json := .object
  [("kind", .string raw.scope.label), ("config", .string raw.text)]

/-- The document of the settings, under the name of their kind. -/
def Profile.Variant.toJson : Profile.Variant → Json
  | trojan t => .object [("Trojan", t.toJson)]
  | naive n => .object [("Naive", n.toJson)]
  | hysteria h => .object [("Hysteria", h.toJson)]
  | direct => .object [("Direct", .object [])]
  | config raw => .object [("Config", raw.toJson)]

/-- The document of a profile. -/
def Profile.toJson (p : Profile) : Json := .object
  [("common", p.endpoint.toJson), ("bean", p.variant.toJson)]

end ProxyChain
