import ProxyChain.Outbound.Endpoint
import ProxyChain.Outbound.Tls
import ProxyChain.Text.Cut

/-!
# Hysteria outbounds

Both generations share the ports to hop between, the bandwidths and TLS. Secret and obfuscation are
written differently, and only the first generation has receive windows.
-/

namespace ProxyChain.Hysteria

/-- A bandwidth that is not positive gives way to the one in the settings. -/
def effectiveMbps (own fallback : Int32) : Int32 := if 0 < own then own else fallback

/-- The items between commas, blank ends cut off, those that are blank altogether left out. -/
def portItems (serverPorts : String) : List (List Char) :=
  ((Text.pieces ',' serverPorts.toList).map Text.strip).filter fun item => !item.isEmpty

/-- The ports to hop between as the core writes them, a colon within each range. -/
def hopPorts (serverPorts : String) : List String :=
  (portItems serverPorts).map fun item => Text.swap '-' ':' (String.ofList item)

/-- A positive number, as a member that is there only then. -/
def positive (n : Int32) : Option Json := if 0 < n then some (.int n.toInt) else none

/-- A text that is not empty, as a member that is there only then. -/
def filled (s : String) : Option Json := (Text.nonEmpty? s).map .string

/-- The TLS options of a profile. Only the first generation has protocols to negotiate. -/
def tls (h : Hysteria) : Tls where
  enabled := some true
  serverName := Text.nonEmpty? h.sni
  insecure := some h.allowInsecure
  disableSni := some h.disableSni
  alpn := if h.isFirstGeneration then Text.filledLines? h.alpn else none
  certificate := Text.allLines? h.certificates
  ech := Tls.Ech.ofProfile? h.ech h.echConfig

/-- An interval in seconds as text. -/
def secondsText (n : Int64) : String := Text.showInt n.toInt ++ "s"

/-- The members that both generations have. -/
def sharedFields (e : Endpoint) (h : Hysteria) (s : Settings) : List (String × Option Json) :=
  let ports := hopPorts h.serverPorts
  e.fields ++
    [("server_ports", if ports.isEmpty then none else some (.strings ports)),
     ("hop_interval",
       if ports.isEmpty || h.hopInterval ≤ 0 then none
       else some (.string (secondsText h.hopInterval))),
     ("up_mbps", positive (effectiveMbps h.uploadMbps s.uploadMbps)),
     ("down_mbps", positive (effectiveMbps h.downloadMbps s.downloadMbps)),
     ("tls", some h.tls.toJson)]

/-- The members of the first generation. -/
def firstFields (h : Hysteria) : List (String × Option Json) :=
  [("obfs", filled h.obfuscation),
   ("auth", if h.authType = .base64 then some (.string h.authPayload) else none),
   ("auth_str", if h.authType = .str then some (.string h.authPayload) else none),
   ("recv_window_conn", positive h.connectionReceiveWindow),
   ("recv_window", positive h.streamReceiveWindow),
   ("disable_mtu_discovery", if h.disableMtuDiscovery then some (.bool true) else none)]

/-- The members of the second generation. -/
def secondFields (h : Hysteria) : List (String × Option Json) :=
  [("password", filled h.authPayload),
   ("obfs", (Text.nonEmpty? h.obfuscation).map fun password =>
     .ofFields [("type", .string "salamander"), ("password", .string password)])]

/-- The members of the outbound of a profile. -/
def fields (e : Endpoint) (h : Hysteria) (s : Settings) : List (String × Option Json) :=
  sharedFields e h s ++ if h.isFirstGeneration then h.firstFields else h.secondFields

/-- The integer that a value gives in 32 bits; zero if it gives none, the greatest if it does not
fit. -/
def cappedInt32 (value : Json) : Int32 := ((value.int64?).map Multiplex.capInt32).getD 0

/-- The integer under a key. -/
def cappedAt (m : Members) (key : String) : Int32 := ((m.get? key).map cappedInt32).getD 0

/-- The interval that a value gives, in seconds with or without their unit. -/
def intervalOf (value : Json) : Int64 :=
  (Text.int64? (Text.dropEndWhile (· == 's') (Text.strip value.text.toList))).getD
    ({} : Hysteria).hopInterval

/-- Ports to hop between as a profile writes them, a hyphen within each range. -/
def portsText (ports : List String) : String := ",".intercalate (ports.map (Text.swap ':' '-'))

/-- The settings that the members of both generations give. -/
def ofShared (m : Members) : Hysteria :=
  let tls := ((m.objectAt? "tls").map Tls.ofMembers).getD {}
  { serverPorts := ((Json.strings? (m.get? "server_ports")).map portsText).getD ""
    hopInterval := ((m.get? "hop_interval").map intervalOf).getD ({} : Hysteria).hopInterval
    uploadMbps := cappedAt m "up_mbps"
    downloadMbps := cappedAt m "down_mbps"
    sni := tls.serverName.getD ""
    alpn := Tls.lines tls.alpn
    certificates := Tls.lines tls.certificate
    allowInsecure := tls.insecure.getD false
    disableSni := tls.disableSni.getD false
    ech := (tls.ech.map (·.enabled)).getD false
    echConfig := Tls.lines (tls.ech.bind (·.config)) }

/-- The secret of the first generation and how it is written. Plain text counts before base64. -/
def secretOf (m : Members) : Auth × String :=
  match m.get? "auth_str", m.get? "auth" with
  | some value, _ => (.str, value.text)
  | none, some value => (.base64, value.text)
  | none, none => (.none, "")

/-- The settings that the first generation's members give. -/
def ofFirstMembers (m : Members) : Hysteria :=
  let (authType, authPayload) := secretOf m
  { ofShared m with
    protocolVersion := 1
    obfuscation := ((m.get? "obfs").map Json.text).getD ""
    authType
    authPayload
    connectionReceiveWindow := cappedAt m "recv_window_conn"
    streamReceiveWindow := cappedAt m "recv_window"
    disableMtuDiscovery := ((m.get? "disable_mtu_discovery").map Json.isTrue).getD false }

/-- The settings that the second generation's members give. -/
def ofSecondMembers (m : Members) : Hysteria :=
  { ofShared m with
    protocolVersion := 2
    authPayload := ((m.get? "password").map Json.text).getD ""
    obfuscation := (((m.objectAt? "obfs").bind fun obfs => obfs.get? "password").map Json.text).getD "" }

end ProxyChain.Hysteria
