import ProxyChain.Proofs.Helper.Members
import ProxyChain.Proofs.Text.Cut
import ProxyChain.Proofs.Text.Integer
import ProxyChain.Proofs.Text.Line

/-!
# What helpers are told about their connections

The configuration of a helper names an address to listen on, a host and ports to dial, and the name to
ask the server for. Each program has members of its own for them; `Profile.Wired` says what those
members are, and rendering yields such a configuration for every profile that needs a helper
(`render_wired`).
-/

namespace ProxyChain

/-- The connections of a helper. -/
structure Helper.Wiring where
  /-- The address it listens on. -/
  listen : String
  /-- The host it dials. -/
  host : String
  /-- The ports it dials there. -/
  ports : String
  /-- The name it asks for. -/
  name : String

/-- A host as it stands in front of a port. -/
def bracketed (host : String) : String := if host.toList.contains ':' then s!"[{host}]" else host

/-- A Hysteria configuration for these connections. A name that is empty is left out. -/
structure Hysteria.Wired (h : Hysteria) (doc : Json) (w : Helper.Wiring) : Prop where
  listen : ((doc.at? "socks5").bind fun socks => socks.textAt? "listen") = some w.listen
  server : doc.textAt? "server" = some (bracketed w.host ++ ":" ++ w.ports)
  name : (if h.isFirstGeneration then doc.at? "server_name"
    else (doc.at? "tls").bind fun tls => tls.at? "sni") =
      if w.name = "" then none else some (.string w.name)

/-- A Naive configuration for these connections. The proxy is dialled by the name, and a rule maps the
name to the host unless they are the same. -/
structure Naive.Wired (n : Naive) (doc : Json) (w : Helper.Wiring) : Prop where
  listen : doc.textAt? "listen" = some ("socks://" ++ w.listen)
  proxy : doc.textAt? "proxy"
    = some (n.proto ++ "://" ++ n.credentials ++ bracketed w.name ++ ":" ++ w.ports)
  rule : doc.at? "host-resolver-rules"
    = if w.name = w.host then none else some (.string ("MAP " ++ w.name ++ " " ++ w.host))

namespace Profile

/-- A configuration of the profile's helper for these connections. -/
def Wired (p : Profile) (doc : Json) (w : Helper.Wiring) : Prop :=
  match p.variant with
  | .hysteria h => h.Wired doc w
  | .naive n => n.Wired doc w
  | .trojan _ | .direct | .config _ => False

/-- The name that a profile sets for its server. -/
def sni (p : Profile) : String :=
  match p.variant with
  | .hysteria h => h.sni
  | .naive n => n.sni
  | .trojan t => t.sni
  | .direct | .config _ => ""

/-- The ports to dial at the server itself: its own, unless there are ports to hop between. -/
def dialledPorts (p : Profile) : String :=
  match p.variant with
  | .hysteria h =>
    if Hysteria.hopPorts h.serverPorts = [] then Text.showNat p.endpoint.port.toNat
    else String.ofList (h.serverPorts.toList.filter (· != ' '))
  | _ => Text.showNat p.endpoint.port.toNat

/-- The connections of the profile's helper: to the relay if there is one, else to the server. -/
def wiring (p : Profile) (ports : Helper.Ports) : Helper.Wiring where
  listen := localAddress ports.listen
  host := if ports.relay.isSome then localhost else p.endpoint.address
  ports := (ports.relay.map fun relay => Text.showNat relay.toNat).getD p.dialledPorts
  name := p.endpoint.serverName p.sni

end Profile

/-- A host and a port have a colon between them, and brackets around a host that has colons. -/
lemma hostPort_eq (host : String) (port : UInt16) :
    hostPort host port = bracketed host ++ ":" ++ Text.showNat port.toNat := by
  have closed : "]:" = "]" ++ ":" := rfl
  unfold hostPort bracketed
  split
  · simp only [toString, closed, String.append_assoc]
  · rfl

/-- An address of this machine is made of its host and a port. -/
lemma localAddress_eq (port : UInt16) :
    localAddress port = bracketed localhost ++ ":" ++ Text.showNat port.toNat := rfl

namespace Hysteria

variable {p : Profile} {h : Hysteria}

/-- The ports to hop between stand in place of the server's own. -/
lemma dialAddress_eq (variant : p.variant = .hysteria h) (ports : Helper.Ports) :
    dialAddress p h ports.relay = bracketed (p.wiring ports).host ++ ":" ++ (p.wiring ports).ports := by
  obtain ⟨listen, relay⟩ := ports
  cases relay with
  | some port => exact localAddress_eq port
  | none =>
    have address : p.displayAddress = bracketed p.endpoint.address ++ ":"
        ++ Text.showNat p.endpoint.port.toNat := by
      rw [Profile.displayAddress, variant]
      exact hostPort_eq _ _
    -- A host may have colons of its own; the last colon is the one in front of the port.
    have noColon : ':' ∉ Text.decimal p.endpoint.port.toNat := by
      intro mem
      cases Text.isDigit_of_mem_decimal mem
    have cut : Text.cutLast ':' p.displayAddress.toList
        = some ((bracketed p.endpoint.address).toList, Text.decimal p.endpoint.port.toNat) := by
      simp only [address, String.toList_append, Text.showNat, String.toList_ofList, List.append_assoc]
      exact Text.cutLast_append noColon (bracketed p.endpoint.address).toList
    simp only [dialAddress, cut, Profile.wiring, Profile.dialledPorts, variant, List.isEmpty_iff]
    simp only [Option.isSome_none, Bool.false_eq_true, if_false, Option.map_none, Option.getD_none]
    split
    · exact address
    · rw [String.ofList_toList]

/-- A text is left out if it is empty. -/
lemma filled_eq (s : String) : filled s = if s = "" then none else some (.string s) := by
  rw [filled, Text.nonEmpty?_eq]
  split <;> rfl

/-- A Hysteria configuration is one for the connections of its profile. -/
lemma wired_config (variant : p.variant = .hysteria h) (around : Surroundings) :
    h.Wired (h.config p around) (p.wiring around.ports) := by
  have asked : (p.wiring around.ports).name = p.endpoint.serverName h.sni := by
    simp only [Profile.wiring, Profile.sni, variant]
  have listen : ((listenField around.ports).2.bind fun socks => socks.textAt? "listen")
      = some (p.wiring around.ports).listen := by
    simp [listenField, Json.textAt?, Json.at?_ofFields, Json.string?, Profile.wiring]
  rw [config]
  cases generation : h.isFirstGeneration with
  | true =>
    have members : FirstMembers p h around (firstConfig p h around) := firstMembers
    refine ⟨?_, ?_, ?_⟩
    · rw [if_pos rfl, members.socks, listen]
    · rw [if_pos rfl, Json.textAt?, members.server, dialAddress_eq variant]
      rfl
    · rw [if_pos rfl, if_pos generation, members.name, asked, filled_eq]
  | false =>
    have members : SecondMembers p h around (secondConfig p h around) := secondMembers
    refine ⟨?_, ?_, ?_⟩
    · rw [if_neg Bool.false_ne_true, members.socks, listen]
    · rw [if_neg Bool.false_ne_true, Json.textAt?, members.server, dialAddress_eq variant]
      rfl
    · rw [if_neg Bool.false_ne_true, if_neg (Bool.eq_false_iff.1 generation), members.name, asked,
        filled_eq]

end Hysteria

/-- A Naive configuration is one for the connections of its profile. -/
lemma Naive.wired_config {p : Profile} {n : Naive} (variant : p.variant = .naive n)
    (ports : Helper.Ports) : n.Wired (n.config p.endpoint ports) (p.wiring ports) := by
  have found {key : String} {value : Option Json} (mem : (key, value) ∈
      [("listen", some (.string s!"socks://{localAddress ports.listen}")),
       ("proxy", some (.string (n.proxyUrl p.endpoint ports.relay))),
       ("host-resolver-rules", (n.resolverRule? p.endpoint ports.relay).map .string),
       ("extra-headers", n.headersText?.map .string),
       ("insecure-concurrency", Hysteria.positive n.insecureConcurrency)]) :
      (n.config p.endpoint ports).at? key = value :=
    Json.at?_object (by simp) mem
  have name : p.endpoint.serverName n.sni = (p.wiring ports).name := by
    simp only [Profile.wiring, Profile.sni, variant]
  have proxy : n.proxyUrl p.endpoint ports.relay = n.proto ++ "://" ++ n.credentials
      ++ bracketed (p.wiring ports).name ++ ":" ++ (p.wiring ports).ports := by
    have dialled : Text.showNat (ports.relay.getD p.endpoint.port).toNat = (p.wiring ports).ports := by
      simp only [Profile.wiring, Profile.dialledPorts, variant]
      cases ports.relay <;> rfl
    simp only [proxyUrl, hostPort_eq, dialled, name, toString, String.append_assoc]
  have rule : n.resolverRule? p.endpoint ports.relay =
      if (p.wiring ports).name = (p.wiring ports).host then none
      else some ("MAP " ++ (p.wiring ports).name ++ " " ++ (p.wiring ports).host) := by
    rw [← name]
    rfl
  refine ⟨?_, ?_, ?_⟩
  · rw [Json.textAt?, found List.mem_cons_self]
    rfl
  · rw [Json.textAt?, found (List.mem_cons_of_mem _ List.mem_cons_self), proxy]
    rfl
  · rw [found (List.mem_cons_of_mem _ (List.mem_cons_of_mem _ List.mem_cons_self)), rule]
    split <;> rfl

namespace Profile

/-- Whatever needs a helper is rendered, for the connections that the ports say. -/
lemma render_wired {p : Profile} (needs : p.needsHelper = true) (ports : Helper.Ports)
    (underTunnel : Bool) (s : Settings) (name : String) :
    ∃ rendered doc, Helper.render p ports underTunnel s name = some rendered ∧
      rendered.config = doc.pretty ∧ p.Wired doc (p.wiring ports) := by
  cases variant : p.variant with
  | hysteria h =>
    simp only [Wired, variant]
    exact ⟨_, _, Hysteria.render_eq variant ports underTunnel s name, rfl,
      Hysteria.wired_config variant _⟩
  | naive n =>
    simp only [Wired, variant]
    exact ⟨_, _, Naive.render_eq variant ports underTunnel s name, rfl,
      Naive.wired_config variant ports⟩
  | _ => simp [needsHelper, variant] at needs

end Profile

end ProxyChain
