import ProxyChain.Json.Loose
import ProxyChain.Text.Line

/-!
# TLS options of outbounds

Every option may be unset, and one that is unset is left out of the document. Reading takes loosely
typed values, and null for an option that is unset.
-/

namespace ProxyChain

/-- The client fingerprint to imitate. -/
structure Tls.Utls where
  enabled : Bool
  fingerprint : String
  deriving DecidableEq, Repr

/-- The encrypted client hello. -/
structure Tls.Ech where
  enabled : Bool
  config : Option (List String)
  deriving DecidableEq, Repr

/-- The Reality server's key. -/
structure Tls.Reality where
  enabled : Bool
  publicKey : String
  shortId : String
  deriving DecidableEq, Repr

/-- The TLS options of an outbound. -/
structure Tls where
  enabled : Option Bool := none
  serverName : Option String := none
  insecure : Option Bool := none
  disableSni : Option Bool := none
  alpn : Option (List String) := none
  certificate : Option (List String) := none
  fragment : Option Bool := none
  fragmentFallbackDelay : Option String := none
  recordFragment : Option Bool := none
  utls : Option Tls.Utls := none
  ech : Option Tls.Ech := none
  reality : Option Tls.Reality := none
  deriving DecidableEq, Repr

namespace Tls

/-- The document of a fingerprint. -/
def Utls.toJson (u : Utls) : Json := .ofFields
  [("enabled", .bool u.enabled), ("fingerprint", .string u.fingerprint)]

/-- The document of an encrypted client hello. -/
def Ech.toJson (e : Ech) : Json := .object (Members.ofFields
  [("enabled", some (.bool e.enabled)), ("config", e.config.map Json.strings)])

/-- The document of a Reality key. -/
def Reality.toJson (r : Reality) : Json := .ofFields
  [("enabled", .bool r.enabled), ("public_key", .string r.publicKey),
   ("short_id", .string r.shortId)]

/-- The members of the options that are set. -/
def fields (t : Tls) : List (String × Option Json) :=
  [("enabled", t.enabled.map .bool),
   ("server_name", t.serverName.map .string),
   ("insecure", t.insecure.map .bool),
   ("disable_sni", t.disableSni.map .bool),
   ("alpn", t.alpn.map Json.strings),
   ("certificate", t.certificate.map Json.strings),
   ("fragment", t.fragment.map .bool),
   ("fragment_fallback_delay", t.fragmentFallbackDelay.map .string),
   ("record_fragment", t.recordFragment.map .bool),
   ("utls", t.utls.map Utls.toJson),
   ("ech", t.ech.map Ech.toJson),
   ("reality", t.reality.map Reality.toJson)]

/-- The document of the options. -/
def toJson (t : Tls) : Json := .object (Members.ofFields t.fields)

/-- The fingerprint in an object. -/
def Utls.ofMembers (m : Members) : Utls where
  enabled := m.flag "enabled"
  fingerprint := m.textAt "fingerprint"

/-- The encrypted client hello in an object. -/
def Ech.ofMembers (m : Members) : Ech where
  enabled := m.flag "enabled"
  config := Json.strings? (m.get? "config")

/-- The Reality key in an object. -/
def Reality.ofMembers (m : Members) : Reality where
  enabled := m.flag "enabled"
  publicKey := m.textAt "public_key"
  shortId := m.textAt "short_id"

/-- The options in an object. -/
def ofMembers (m : Members) : Tls where
  enabled := (m.present? "enabled").map Json.isTrue
  serverName := (m.present? "server_name").map Json.text
  insecure := (m.present? "insecure").map Json.isTrue
  disableSni := (m.present? "disable_sni").map Json.isTrue
  alpn := Json.strings? (m.get? "alpn")
  certificate := Json.strings? (m.get? "certificate")
  fragment := (m.present? "fragment").map Json.isTrue
  fragmentFallbackDelay := (m.present? "fragment_fallback_delay").map Json.text
  recordFragment := (m.present? "record_fragment").map Json.isTrue
  utls := (m.objectAt? "utls").map Utls.ofMembers
  ech := (m.objectAt? "ech").map Ech.ofMembers
  reality := (m.objectAt? "reality").map Reality.ofMembers

/-- The items of an optional list, one a line. -/
def lines (items : Option (List String)) : String := Text.joinLines (items.getD [])

/-- The encrypted client hello of a profile, its configuration one item a line. -/
def Ech.ofProfile? (enabled : Bool) (config : String) : Option Ech :=
  if enabled then some { enabled := true, config := Text.filledLines? config } else none

end Tls

end ProxyChain
