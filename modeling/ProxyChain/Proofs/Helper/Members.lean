import ProxyChain.Helper.Render
import ProxyChain.Proofs.Chain.Document

/-!
# The members of Hysteria configurations

The two generations of Hysteria lay out their configurations differently. What either says about the
helper's connections and certificates stands here once (`FirstMembers`, `SecondMembers`), with what is
rendered around it (`render_eq`).
-/

namespace ProxyChain

namespace Hysteria

variable {p : Profile} {h : Hysteria} {around : Surroundings}

/-- A configuration of the first generation. -/
structure FirstMembers (p : Profile) (h : Hysteria) (around : Surroundings) (doc : Json) : Prop where
  server : doc.at? "server" = some (.string (dialAddress p h around.ports.relay))
  socks : doc.at? "socks5" = (listenField around.ports).2
  name : doc.at? "server_name" = filled (p.endpoint.serverName h.sni)
  certificates : doc.at? "ca" = around.certificateFile.map .string
  noTls : doc.at? "tls" = none

/-- A configuration of the second generation, which has an object for what TLS needs. -/
structure SecondMembers (p : Profile) (h : Hysteria) (around : Surroundings) (doc : Json) : Prop where
  server : doc.at? "server" = some (.string (dialAddress p h around.ports.relay))
  socks : doc.at? "socks5" = (listenField around.ports).2
  name : ((doc.at? "tls").bind fun tls => tls.at? "sni") = filled (p.endpoint.serverName h.sni)
  certificates : ((doc.at? "tls").bind fun tls => tls.at? "ca") = around.certificateFile.map .string
  transport : doc.at? "transport" = hopTransport? h around.ports.relay
  noCertificates : doc.at? "ca" = none

/-- A configuration of the first generation has the members of one. -/
lemma firstMembers : FirstMembers p h around (firstConfig p h around) := by
  have found : ∃ fields, firstConfig p h around = .object (Members.ofFields fields) ∧
      (fields.map Prod.fst).Nodup ∧ "tls" ∉ fields.map Prod.fst ∧
      ("server", some (.string (dialAddress p h around.ports.relay))) ∈ fields ∧
      listenField around.ports ∈ fields ∧
      ("server_name", filled (p.endpoint.serverName h.sni)) ∈ fields ∧
      ("ca", around.certificateFile.map .string) ∈ fields := by
    refine ⟨_, rfl, ?_, ?_, ?_⟩
    · simp only [List.map_cons, List.map_nil, listenField]
      decide
    · simp only [List.map_cons, List.map_nil, listenField]
      decide
    · simp
  obtain ⟨fields, config, distinct, noTls, server, socks, name, certificates⟩ := found
  rw [config]
  exact ⟨Json.at?_object distinct server, Json.at?_object distinct socks, Json.at?_object distinct name,
    Json.at?_object distinct certificates, Members.get?_ofFields_eq_none noTls⟩

/-- A configuration of the second generation has the members of one. -/
lemma secondMembers : SecondMembers p h around (secondConfig p h around) := by
  have found : ∃ tls fields, secondConfig p h around = .object (Members.ofFields fields) ∧
      (fields.map Prod.fst).Nodup ∧ "ca" ∉ fields.map Prod.fst ∧
      ("server", some (.string (dialAddress p h around.ports.relay))) ∈ fields ∧
      listenField around.ports ∈ fields ∧
      ("tls", some (.object (Members.ofFields tls))) ∈ fields ∧
      ("transport", hopTransport? h around.ports.relay) ∈ fields ∧
      (tls.map Prod.fst).Nodup ∧ ("sni", filled (p.endpoint.serverName h.sni)) ∈ tls ∧
      ("ca", around.certificateFile.map .string) ∈ tls := by
    refine ⟨[("sni", filled (p.endpoint.serverName h.sni)), ("insecure", whenTrue h.allowInsecure),
      ("ca", around.certificateFile.map .string)], _, rfl, ?_, ?_, ?_⟩
    · simp only [List.map_cons, List.map_nil, listenField]
      decide
    · simp only [List.map_cons, List.map_nil, listenField]
      decide
    · simp
  obtain ⟨tls, fields, config, distinct, noCertificates, server, socks, mem, transport, distinct', name,
    certificates⟩ := found
  have tlsFound := Json.at?_object distinct mem
  rw [config]
  refine ⟨Json.at?_object distinct server, Json.at?_object distinct socks, ?_, ?_,
    Json.at?_object distinct transport, Members.get?_ofFields_eq_none noCertificates⟩
  · rw [tlsFound, Option.bind_some, Json.at?_object distinct' name]
  · rw [tlsFound, Option.bind_some, Json.at?_object distinct' certificates]

/-- What the configuration is rendered from besides the profile. -/
def surroundings (h : Hysteria) (ports : Helper.Ports) (underTunnel : Bool) (s : Settings)
    (name : String) : Surroundings where
  ports := ports
  certificateFile := (h.certificateFile? s name).map (·.path.display)
  protectPath := if underTunnel then s.protectPath else none
  settings := s

/-- A Hysteria profile is rendered for the helper of its generation, with its certificates if there are
any. -/
lemma render_eq (variant : p.variant = .hysteria h) (ports : Helper.Ports) (underTunnel : Bool)
    (s : Settings) (name : String) : Helper.render p ports underTunnel s name = some
      { helper := if h.isFirstGeneration then .hysteria else .hysteria2
        config := (h.config p (h.surroundings ports underTunnel s name)).pretty
        files := (h.certificateFile? s name).toList } := by
  simp only [Helper.render, Helper.of?, variant, Option.bind_some]
  rfl

end Hysteria

/-- A Naive profile is rendered for its helper, without files. -/
lemma Naive.render_eq {p : Profile} {n : Naive} (variant : p.variant = .naive n) (ports : Helper.Ports)
    (underTunnel : Bool) (s : Settings) (name : String) : Helper.render p ports underTunnel s name
      = some { helper := .naive, config := (n.config p.endpoint ports).pretty, files := [] } := by
  simp only [Helper.render, Helper.of?, variant, Option.bind_some]

end ProxyChain
