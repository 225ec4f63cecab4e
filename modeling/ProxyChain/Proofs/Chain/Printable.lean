import ProxyChain.Proofs.Chain.Plan
import ProxyChain.Proofs.Helper.Members
import ProxyChain.Proofs.Json.Printable

/-!
# Every document of a chain is printable

Whatever texts and numbers the records hold: the outbounds of profiles (`printable_of_toOutbound`), the
core's document of a planned chain (`printable_toJson`) and what helpers are configured with
(`exists_printable_render`) have proper numbers only.
-/

namespace ProxyChain

open Json

variable {s : Settings} {p : Profile}

/-! ## Outbounds -/

/-- The options for TLS can be printed. -/
lemma Tls.printable_toJson (t : Tls) : Printable t.toJson := by
  have utls (u : Utls) : Printable u.toJson := .ofList (by simp)
  have ech (e : Ech) : Printable e.toJson := printable_ofFields (by simp)
  have reality (r : Reality) : Printable r.toJson := .ofList (by simp)
  exact printable_ofFields (by simp [fields, utls, ech, reality])

/-- The options for multiplexing can be printed. -/
lemma Multiplex.printable_toJson? (m : Multiplex) (s : Settings) : PrintableIfSet (m.toJson? s) := by
  have limits : ∀ field ∈ m.limitFields s, Printable field.2 := by
    unfold limitFields
    split
    · have brutal : Printable (.ofFields [("enabled", .bool true), ("up_mbps", .int (-1)),
          ("down_mbps", .int s.downloadMbps.toInt)]) := .ofList (by simp)
      simp [brutal]
    · simp
  refine printableIfSet_ite (printableIfSet_some.2 (.ofList ?_)) printableIfSet_none
  exact List.forall_mem_append.2 ⟨by simp, limits⟩

namespace Hysteria

/-- A number that is left out unless it is positive can be printed. -/
@[simp] lemma printableIfSet_positive (n : Int32) : PrintableIfSet (positive n) := by
  simp [positive]

/-- A text that is left out if it is empty can be printed. -/
@[simp] lemma printableIfSet_filled (text : String) : PrintableIfSet (filled text) := by
  simp [filled]

/-- What a Hysteria outbound is made of can be printed. -/
lemma printable_fields (e : Endpoint) (h : Hysteria) (s : Settings) :
    ∀ field ∈ fields e h s, PrintableIfSet field.2 := by
  have shared : ∀ field ∈ sharedFields e h s, PrintableIfSet field.2 := by
    simp [sharedFields, Endpoint.fields, h.tls.printable_toJson]
  refine List.forall_mem_append.2 ⟨shared, ?_⟩
  split
  · simp [firstFields]
  · have salamander (password : String) : Printable (.ofFields [("type", .string "salamander"),
        ("password", .string password)]) := .ofList (by simp)
    simp [secondFields, salamander]

end Hysteria

/-- What a Trojan outbound is made of can be printed. -/
lemma Trojan.printable_fields (e : Endpoint) (t : Trojan) (s : Settings) :
    ∀ field ∈ t.fields e s, PrintableIfSet field.2 := by
  simp [fields, Endpoint.fields, t.tls.printable_toJson, e.multiplex.printable_toJson?]

/-- The outbound of a profile is printable, one of a raw configuration because it was parsed. -/
theorem Profile.printable_of_toOutbound {document : Json} (h : p.toOutbound s = .ok document) :
    Printable document := by
  have typed {type tag : String} {fields : List (String × Option Json)}
      (own : ∀ field ∈ fields, PrintableIfSet field.2) : Printable (typedOutbound type tag fields) :=
    printable_ofFields (List.forall_mem_append.2 ⟨own, by simp⟩)
  unfold toOutbound at h
  split at h
  · cases h
    exact typed (Trojan.printable_fields _ _ _)
  · cases h
    exact typed (Hysteria.printable_fields _ _ _)
  · cases h
    exact typed (by simp)
  · cases h
  · split at h
    · next parsed =>
      cases h
      exact printable_of_parse parsed
    · cases h

/-! ## The core's document -/

namespace Hop

/-- An outbound can be printed with its label if it can be without. -/
lemma printable_label (h : Hop) {document : Json} (inside : Printable document) :
    Printable (h.label document) := by
  cases document with
  | object m =>
    refine Printable.insert ?_ (.string _)
    cases h.previous with
    | none => exact inside
    | some tag => exact inside.insert (.string tag)
  | _ => exact inside

/-- The outbound that leads into a helper can be printed. -/
lemma printable_socks (h : Hop) (port : UInt16) : Printable (h.socks port) := .ofList (by simp)

end Hop

/-- The outbound of a planned hop can be printed. -/
lemma Planned.printable_outbound {index : Nat} {previous : Option String} {chain : List Record}
    {hops : List Hop} (planned : Planned s index previous chain hops) {h : Hop} (mem : h ∈ hops) :
    Printable h.outbound := by
  have carries := planned.carries mem
  unfold Hop.outbound
  cases carrier : h.carrier with
  | helper ports => exact h.printable_socks ports.listen
  | core document =>
    rw [carrier] at carries
    cases carries with
    | core _ built => exact h.printable_label (Profile.printable_of_toOutbound built)

/-- An inbound can be printed. -/
lemma Inbound.printable_toJson (i : Inbound) : Printable i.toJson := by
  cases i <;> exact .ofList (by simp)

/-- A rule can be printed. -/
lemma RouteRule.printable_toJson (r : RouteRule) : Printable r.toJson := .ofList (by simp)

namespace CoreConfig

/-- What a document has about logging can be printed. -/
lemma printable_log (c : CoreConfig) : Printable c.log := by
  unfold log
  split <;> exact .ofList (by simp)

/-- What a document has about routing can be printed. -/
lemma printable_route (c : CoreConfig) : Printable c.route := by
  have rules : Printable (.array (c.rules.map RouteRule.toJson)) := .array fun item mem => by
    obtain ⟨r, -, rfl⟩ := List.mem_map.1 mem
    exact r.printable_toJson
  exact printable_ofFields (by simp [rules])

/-- The core's document is printable if the outbounds in it are. -/
theorem printable_toJson {c : CoreConfig} (hops : ∀ h ∈ c.hops, Printable h.outbound) :
    Printable c.toJson := by
  have inbounds : Printable (.array (c.inbounds.map Inbound.toJson)) := .array fun item mem => by
    obtain ⟨i, -, rfl⟩ := List.mem_map.1 mem
    exact i.printable_toJson
  have direct : Printable directOutbound := .ofList (by simp)
  have outbounds : Printable (.array c.outbounds) := by
    refine .array (List.forall_mem_append.2 ⟨fun item mem => ?_, by simpa using direct⟩)
    obtain ⟨h, among, rfl⟩ := List.mem_map.1 mem
    exact hops h among
  exact .ofList (by simp [c.printable_log, inbounds, outbounds, c.printable_route])

end CoreConfig

/-! ## Configurations of helpers -/

namespace Hysteria

variable {h : Hysteria} {around : Surroundings}

/-- The address that a helper listens on can be printed. -/
lemma printableIfSet_listen (ports : Helper.Ports) : PrintableIfSet (listenField ports).2 :=
  printableIfSet_some.2 (.ofList (by simp))

/-- A flag that is left out unless it is set can be printed. -/
@[simp] lemma printableIfSet_whenTrue (b : Bool) : PrintableIfSet (whenTrue b) := by simp [whenTrue]

/-- The configuration of a first generation helper can be printed. -/
lemma printable_firstConfig : Printable (firstConfig p h around) :=
  printable_ofFields (by simp [printableIfSet_listen])

/-- The bandwidths of a second generation helper can be printed. -/
lemma printableIfSet_bandwidth? (h : Hysteria) (s : Settings) : PrintableIfSet (h.bandwidth? s) := by
  have up (n : Int32) : PrintableIfSet (mbpsText n) := by simp [mbpsText]
  exact printableIfSet_ite (printableIfSet_some.2 (printable_ofFields (by simp [up])))
    printableIfSet_none

/-- What a second generation helper is told about hopping can be printed. -/
lemma printableIfSet_hopTransport? (h : Hysteria) (relay : Option UInt16) :
    PrintableIfSet (h.hopTransport? relay) := by
  have udp : Printable (.ofFields [("hopInterval", .string (secondsText h.hopInterval))]) :=
    .ofList (by simp)
  exact printableIfSet_ite (printableIfSet_some.2 (.ofList (by simp [udp]))) printableIfSet_none

/-- The configuration of a second generation helper can be printed. -/
lemma printable_secondConfig : Printable (secondConfig p h around) := by
  have obfuscation (password : String) : Printable (.ofFields [("type", .string "salamander"),
      ("salamander", .ofFields [("password", .string password)])]) := by
    have inner : Printable (.ofFields [("password", .string password)]) := .ofList (by simp)
    exact .ofList (by simp [inner])
  have tls : Printable (.object (Members.ofFields
      [("sni", filled (p.endpoint.serverName h.sni)), ("insecure", whenTrue h.allowInsecure),
       ("ca", around.certificateFile.map .string)])) := printable_ofFields (by simp)
  have quic : Printable (.ofFields [("disablePathMTUDiscovery", .bool true)]) := .ofList (by simp)
  exact printable_ofFields (by simp [obfuscation, tls, quic, printableIfSet_bandwidth?,
    printableIfSet_hopTransport?, printableIfSet_listen])

/-- The configuration of a Hysteria helper can be printed. -/
lemma printable_config (p : Profile) (h : Hysteria) (around : Surroundings) :
    Printable (h.config p around) := by
  unfold config
  split
  · exact printable_firstConfig
  · exact printable_secondConfig

end Hysteria

/-- The configuration of a Naive helper can be printed. -/
lemma Naive.printable_config (e : Endpoint) (n : Naive) (ports : Helper.Ports) :
    Printable (n.config e ports) := printable_ofFields (by simp)

/-- What needs a helper is rendered, and its configuration is a printable document. -/
theorem Helper.exists_printable_render (needs : p.needsHelper = true) (ports : Ports)
    (underTunnel : Bool) (s : Settings) (name : String) :
    ∃ rendered document, render p ports underTunnel s name = some rendered ∧
      rendered.config = document.pretty ∧ Printable document := by
  cases variant : p.variant with
  | hysteria h =>
    exact ⟨_, _, Hysteria.render_eq variant ports underTunnel s name, rfl,
      Hysteria.printable_config _ _ _⟩
  | naive n =>
    exact ⟨_, _, Naive.render_eq variant ports underTunnel s name, rfl,
      Naive.printable_config _ _ _⟩
  | _ => simp [Profile.needsHelper, variant] at needs

end ProxyChain
