import ProxyChain.Profile.Multiplex

/-!
# Profiles

A profile is one way out: where the server is, and the settings of one of five kinds of proxy. The
kind is no field of its own; it is read off the settings.
-/

namespace ProxyChain

/-- What every kind of profile has: its name, the server's address and port, the multiplexing. -/
structure Endpoint where
  name : String := ""
  address : String := "127.0.0.1"
  port : UInt16 := 443
  multiplex : Multiplex := {}
  deriving DecidableEq, Repr

/-- The settings of a Trojan server. Lists are one item a line, certificates are PEM text. -/
structure Trojan where
  password : String := ""
  sni : String := ""
  alpn : String := ""
  certificates : String := ""
  allowInsecure : Bool := false
  utlsFingerprint : String := ""
  realityPublicKey : String := ""
  realityShortId : String := ""
  ech : Bool := false
  echConfig : String := ""
  deriving DecidableEq, Repr

/-- The settings of a Naive server. `proto` is `https` or `quic`, each line of `extraHeaders` one
header. -/
structure Naive where
  proto : String := "https"
  username : String := ""
  password : String := ""
  sni : String := ""
  extraHeaders : String := ""
  insecureConcurrency : Int32 := 0
  deriving DecidableEq, Repr

/-- How a Hysteria client's secret is written. -/
inductive Hysteria.Auth where
  | none
  | base64
  | str
  deriving DecidableEq, Repr

/-- What Hysteria packets look like on the way. -/
inductive Hysteria.Transport where
  | udp
  | fakeTcp
  | wechatVideo
  deriving DecidableEq, Repr

/-- The settings of a Hysteria server of either generation. -/
structure Hysteria where
  protocolVersion : Int32 := 2
  /-- Ranges to hop between, such as `20000-30000,443`; if empty the server's port is the only
  one. -/
  serverPorts : String := ""
  obfuscation : String := ""
  authType : Hysteria.Auth := .none
  authPayload : String := ""
  transport : Hysteria.Transport := .udp
  sni : String := ""
  alpn : String := ""
  certificates : String := ""
  allowInsecure : Bool := false
  disableSni : Bool := false
  streamReceiveWindow : Int32 := 0
  connectionReceiveWindow : Int32 := 0
  disableMtuDiscovery : Bool := false
  uploadMbps : Int32 := 0
  downloadMbps : Int32 := 0
  /-- In seconds. -/
  hopInterval : Int64 := 10
  ech : Bool := false
  echConfig : String := ""
  deriving DecidableEq, Repr

/-- What a raw configuration is a text of. -/
inductive RawConfig.Scope where
  /-- A complete core configuration. -/
  | full
  /-- One outbound. -/
  | outbound
  deriving DecidableEq, Repr

/-- Configuration text that goes to the core as it is. -/
structure RawConfig where
  scope : RawConfig.Scope := .full
  text : String := ""
  deriving DecidableEq, Repr

/-- The settings of one kind of proxy. -/
inductive Profile.Variant where
  | trojan (settings : Trojan)
  | naive (settings : Naive)
  | hysteria (settings : Hysteria)
  | direct
  | config (raw : RawConfig)
  deriving DecidableEq, Repr

/-- One way out. -/
structure Profile where
  endpoint : Endpoint
  variant : Profile.Variant
  deriving DecidableEq, Repr

instance : Wire.Coded Hysteria.Auth where
  values := [.none, .base64, .str]
  code
    | .none => 0
    | .base64 => 1
    | .str => 2

instance : Wire.Coded Hysteria.Transport where
  values := [.udp, .fakeTcp, .wechatVideo]
  code
    | .udp => 0
    | .fakeTcp => 1
    | .wechatVideo => 2

instance : Wire.Coded RawConfig.Scope where
  values := [.full, .outbound]
  code
    | .full => 0
    | .outbound => 1

/-- The name of a transport. -/
def Hysteria.Transport.name : Hysteria.Transport → String
  | udp => "udp"
  | fakeTcp => "faketcp"
  | wechatVideo => "wechat-video"

namespace Hysteria

/-- The older generation; every other version number is the newer one. -/
def isFirstGeneration (h : Hysteria) : Bool := h.protocolVersion == 1

/-- The core's type of an outbound of this generation. -/
def outboundType (h : Hysteria) : String :=
  if h.isFirstGeneration then "hysteria" else "hysteria2"

end Hysteria

end ProxyChain
