import ProxyChain.Chain.Hop

/-!
# Core configurations

What the core is told about a chain: an outbound for every hop and a direct one, the local inbound,
an inbound for every helper behind other hops with the rule that sends it on its way, and that traffic
leaves through the last hop.
-/

namespace ProxyChain

/-- A door into the core. -/
inductive Inbound where
  /-- The local one. -/
  | mixed (port : UInt16)
  /-- A port that is forwarded to a server. -/
  | forward (tag : String) (port : UInt16) (address : String) (addressPort : UInt16)
  deriving DecidableEq, Repr

/-- Traffic of an inbound leaves through an outbound. -/
structure RouteRule where
  inbound : String
  outbound : String
  deriving DecidableEq, Repr

/-- The configuration of the core for a chain. -/
structure CoreConfig where
  /-- The name of the log level; none when the log is off. -/
  logLevel : Option String
  /-- The port of the local inbound, if there is one. -/
  mixedPort : Option UInt16
  hops : List Hop
  deriving Repr

/-- The tag of the local inbound. -/
def mixedTag : String := "mixed-in"

/-- The tag of the direct outbound. -/
def directTag : String := "direct"

namespace Inbound

/-- The tag of an inbound. -/
def tag : Inbound → String
  | mixed _ => mixedTag
  | forward tag .. => tag

/-- The port an inbound listens on. -/
def port : Inbound → UInt16
  | mixed port => port
  | forward _ port .. => port

/-- The document of an inbound. -/
def toJson : Inbound → Json
  | mixed port => .ofFields
    [("type", .string "mixed"), ("tag", .string mixedTag), ("listen", .string localhost),
     ("listen_port", .int port.toNat)]
  | forward tag port address addressPort => .ofFields
    [("type", .string "direct"), ("tag", .string tag), ("listen", .string localhost),
     ("listen_port", .int port.toNat), ("override_address", .string address),
     ("override_port", .int addressPort.toNat)]

end Inbound

/-- The document of a rule. -/
def RouteRule.toJson (r : RouteRule) : Json := .ofFields
  [("inbound", .strings [r.inbound]), ("outbound", .string r.outbound)]

namespace Hop

/-- The inbound that forwards to the server, for a helper behind other hops. -/
def forward? (h : Hop) : Option Inbound :=
  (h.ports?.bind (·.relay)).map fun port =>
    .forward h.relayTag port h.record.profile.endpoint.address h.record.profile.endpoint.port

/-- The rule that sends that inbound through the hop before. -/
def rule? (h : Hop) : Option RouteRule :=
  match h.ports?.bind (·.relay), h.previous with
  | some _, some previous => some { inbound := h.relayTag, outbound := previous }
  | _, _ => none

end Hop

namespace CoreConfig

/-- The inbounds, the local one first. -/
def inbounds (c : CoreConfig) : List Inbound :=
  (c.mixedPort.map Inbound.mixed).toList ++ c.hops.filterMap Hop.forward?

/-- The rules. -/
def rules (c : CoreConfig) : List RouteRule := c.hops.filterMap Hop.rule?

/-- The direct outbound. -/
def directOutbound : Json := .ofFields [("type", .string "direct"), ("tag", .string directTag)]

/-- The outbounds, those of the hops first. -/
def outbounds (c : CoreConfig) : List Json := c.hops.map Hop.outbound ++ [directOutbound]

/-- The tag of the outbound that traffic leaves through. -/
def final (c : CoreConfig) : String := (c.hops.getLast?.map Hop.tag).getD ""

/-- The document about the log. -/
def log (c : CoreConfig) : Json :=
  match c.logLevel with
  | some level => .ofFields [("level", .string level), ("timestamp", .bool true)]
  | none => .ofFields [("disabled", .bool true)]

/-- The document about routes; without rules it has no member for them. -/
def route (c : CoreConfig) : Json := .object (Members.ofFields
  [("final", some (.string c.final)), ("auto_detect_interface", some (.bool true)),
   ("rules", if c.rules.isEmpty then none else some (.array (c.rules.map RouteRule.toJson)))])

/-- The document. -/
def toJson (c : CoreConfig) : Json := .ofFields
  [("log", c.log), ("inbounds", .array (c.inbounds.map Inbound.toJson)),
   ("outbounds", .array c.outbounds), ("route", c.route)]

end CoreConfig

end ProxyChain
