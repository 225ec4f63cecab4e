import ProxyChain.Outbound.Multiplex
import ProxyChain.Profile.Basic

/-!
# The common members of outbounds

Four members mean the same in every outbound: its tag, the server's address and port, and the
multiplexing. The others are left to the kind of outbound. Members that are null count as absent.
-/

namespace ProxyChain.Endpoint

/-- The keys of the common members. -/
def keys : List String := ["tag", "server", "server_port", "multiplex"]

/-- The port that a value gives, between blanks. -/
def portOf (value : Json) : UInt16 :=
  (Text.uint16? (Text.strip value.text.toList)).getD ({} : Endpoint).port

/-- The endpoint that the common members give. -/
def ofMembers (doc : Members) : Endpoint where
  name := ((doc.present? "tag").map Json.text).getD ({} : Endpoint).name
  address := ((doc.present? "server").map Json.text).getD ({} : Endpoint).address
  port := ((doc.present? "server_port").map portOf).getD ({} : Endpoint).port
  multiplex := ((doc.objectAt? "multiplex").map Multiplex.ofMembers).getD {}

/-- The members left to the kind of outbound. -/
def unmatched (doc : Members) : Members :=
  doc.filter fun (key, value) => !keys.contains key && !(value matches .null)

/-- The server's members for the core. -/
def fields (e : Endpoint) : List (String × Option Json) :=
  [("server", some (.string e.address)), ("server_port", some (.int e.port.toNat))]

end ProxyChain.Endpoint
