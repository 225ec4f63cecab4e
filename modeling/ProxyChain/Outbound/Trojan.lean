import ProxyChain.Outbound.Endpoint
import ProxyChain.Outbound.Tls

/-!
# Trojan outbounds
-/

namespace ProxyChain.Trojan

/-- The TLS options of a profile. A fingerprint or key that is empty is unset. -/
def tls (t : Trojan) : Tls where
  enabled := some true
  serverName := Text.nonEmpty? t.sni
  insecure := some t.allowInsecure
  alpn := Text.filledLines? t.alpn
  certificate := Text.allLines? t.certificates
  utls := (Text.nonEmpty? t.utlsFingerprint).map fun fingerprint => { enabled := true, fingerprint }
  ech := Tls.Ech.ofProfile? t.ech t.echConfig
  reality := (Text.nonEmpty? t.realityPublicKey).map fun publicKey =>
    { enabled := true, publicKey, shortId := t.realityShortId }

/-- The members of the outbound of a profile. -/
def fields (e : Endpoint) (t : Trojan) (s : Settings) : List (String × Option Json) :=
  e.fields ++
    [("password", some (.string t.password)), ("tls", some t.tls.toJson),
     ("multiplex", e.multiplex.toJson? s)]

/-- The settings that TLS options give, with a password. Fingerprint and key count only if they are
enabled. -/
def ofTls (password : String) (tls : Tls) : Trojan :=
  let utls := tls.utls.filter (·.enabled)
  let reality := tls.reality.filter (·.enabled)
  { password
    sni := tls.serverName.getD ""
    alpn := Tls.lines tls.alpn
    certificates := Tls.lines tls.certificate
    allowInsecure := tls.insecure.getD false
    utlsFingerprint := (utls.map (·.fingerprint)).getD ""
    realityPublicKey := (reality.map (·.publicKey)).getD ""
    realityShortId := (reality.map (·.shortId)).getD ""
    ech := (tls.ech.map (·.enabled)).getD false
    echConfig := Tls.lines (tls.ech.bind (·.config)) }

/-- The settings that an outbound's own members give. -/
def ofMembers (m : Members) : Trojan :=
  ofTls ((m.get? "password").map Json.text |>.getD "")
    (((m.objectAt? "tls").map Tls.ofMembers).getD {})

end ProxyChain.Trojan
