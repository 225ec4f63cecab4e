import ProxyChain.Proofs.Chain.Traffic
import ProxyChain.Proofs.Helper.Wiring

/-!
# The core and the helpers agree

The core's document and the configuration of a helper are made apart from each other and have to name
the same ports. `Agrees` says what they have to agree about for one helper of a chain; in a compiled
chain they do (`compile_agrees`), in whatever settings the helper's configuration is rendered.
-/

namespace ProxyChain

/-- What arrives on a port of this machine is sent to a server: one inbound is on the port, and that one
forwards there. -/
def Json.Forwards (doc : Json) (port : UInt16) (server : Endpoint) : Prop :=
  ∃ inbound, doc.inboundsOn port = [inbound] ∧ inbound.textAt? "type" = some "direct" ∧
    inbound.textAt? "listen" = some localhost ∧
    inbound.textAt? "override_address" = some server.address ∧
    inbound.portAt? "override_port" = some server.port

/-- What the core's document and the connections of the helper at a place of a chain agree about. -/
structure Agrees (doc : Json) (helpers : ExternalChain) (r : Record) (place : Nat) (port : UInt16)
    (w : Helper.Wiring) : Prop where
  /-- The helper listens where the outbound at its place has the core reach it. -/
  outbound : ∃ outbound, (doc.itemsAt "outbounds")[place]? = some outbound ∧
    outbound.textAt? "tag" = some (hopTag r place) ∧ outbound.textAt? "type" = some "socks" ∧
    outbound.textAt? "server" = some localhost ∧ outbound.portAt? "server_port" = some port
  listen : w.listen = localAddress port
  /-- The name stays that of the server, whatever is dialled. -/
  name : w.name = if r.profile.sni = "" then r.profile.endpoint.address else r.profile.sni
  /-- The first helper dials its server. -/
  first : place = 0 → helpers.relay? port = none ∧ w.host = r.profile.endpoint.address ∧
    w.ports = r.profile.dialledPorts
  /-- Any other dials a port that the core forwards to its server. -/
  behind : place ≠ 0 → ∃ relay, helpers.relay? port = some relay ∧ w.host = localhost ∧
    w.ports = Text.showNat relay.toNat ∧ doc.Forwards relay r.profile.endpoint

namespace Planned

variable {s : Settings} {index : Nat} {previous : Option String} {chain : List Record}
  {hops : List Hop} {c : CoreConfig}

/-- The helpers stand in the order of the chain. -/
lemma getElem?_entries (p : Planned s index previous chain hops) {i : Nat} (h : i < hops.length)
    {ports : Helper.Ports} (carrier : hops[i].carrier = .helper ports) :
    (ExternalChain.ofHops hops).entries[(chain.take i).countP fun r => r.profile.needsHelper]?
      = some (ports.listen, hops[i].record) := by
  induction p generalizing i with
  | nil => cases h
  | @cons index previous record carried records hops _ carries _ ih =>
    cases i with
    | zero =>
      have carrier : carried = .helper ports := carrier
      subst carrier
      rfl
    | succ i =>
      have later := ih (Nat.lt_of_succ_lt_succ h) carrier
      rw [List.take_succ_cons]
      cases carries with
      | helper needs _ =>
        rw [List.countP_cons_of_pos (p := fun r : Record => r.profile.needsHelper) needs]
        exact later
      | core native _ =>
        have notCounted : ¬record.profile.needsHelper = true := Bool.eq_false_iff.1 native
        rw [List.countP_cons_of_neg (p := fun r : Record => r.profile.needsHelper) notCounted]
        exact later

/-- Whatever is behind a relay is forwarded to the server of its hop. -/
lemma forwards (apart : PortsApart c) {h : Hop} (mem : h ∈ c.hops) {relay : UInt16}
    (helper : h.ports?.bind (·.relay) = some relay) :
    c.toJson.Forwards relay h.record.profile.endpoint := by
  refine ⟨_, CoreConfig.inboundsOn_relay apart mem helper, CoreConfig.textAt?_type_forward _ _ _ _,
    ?_, ?_, ?_⟩
  · simp [Inbound.toJson, Json.textAt?, Json.at?_ofFields, Json.string?]
  · simp [Inbound.toJson, Json.textAt?, Json.at?_ofFields, Json.string?]
  · apply Json.portAt?_of_at?
    simp [Inbound.toJson, Json.at?_ofFields]

/-- A planned hop that needs a helper has one, which dials a relay exactly if there is a hop before
it. -/
lemma exists_helper (p : Planned s index previous chain hops) {h : Hop} (mem : h ∈ hops)
    (needs : h.record.profile.needsHelper = true) :
    ∃ ports, h.carrier = .helper ports ∧ ports.relay.isSome = h.previous.isSome := by
  have carries := p.carries mem
  generalize h.carrier = carrier at carries
  cases carries with
  | helper _ relay => exact ⟨_, rfl, relay⟩
  | core native _ =>
    rw [needs] at native
    cases native

/-- A helper agrees with the core about its connections. -/
lemma agrees (p : Planned s 0 none chain c.hops) (apart : PortsApart c) {i : Nat}
    (h : i < c.hops.length) {ports : Helper.Ports} (carrier : c.hops[i].carrier = .helper ports)
    (hasRelay : ports.relay.isSome = c.hops[i].previous.isSome) :
    Agrees c.toJson (.ofHops c.hops) c.hops[i].record i ports.listen
      (c.hops[i].record.profile.wiring ports) := by
  have mem : c.hops[i] ∈ c.hops := List.getElem_mem h
  have helper : c.hops[i].ports? = some ports := by rw [Hop.ports?, carrier]
  have relay := ExternalChain.relay?_ofHops apart.listens mem helper
  refine ⟨⟨c.hops[i].outbound, getElem?_outbounds h, ?_⟩, rfl, ?_, ?_, ?_⟩
  · have outbound : c.hops[i].outbound = c.hops[i].socks ports.listen := by
      rw [Hop.outbound, carrier]
    rw [outbound]
    refine ⟨?_, ?_, ?_, Hop.portAt?_socks _ _⟩
    · rw [Hop.textAt?_tag_socks, p.tag_eq h]
    · simp [Hop.socks, Json.textAt?, Json.at?_ofFields, Json.string?]
    · simp [Hop.socks, Json.textAt?, Json.at?_ofFields, Json.string?]
  · simp only [Profile.wiring, Endpoint.serverName, String.isEmpty_iff]
  · -- Nothing stands before the first hop, so it has no relay.
    rintro rfl
    rw [p.previous_zero h, Option.isSome_none, Option.isSome_eq_false_iff] at hasRelay
    have none : ports.relay = none := Option.isNone_iff_eq_none.1 hasRelay
    refine ⟨relay.trans none, ?_, ?_⟩ <;> simp [Profile.wiring, none]
  · intro behind
    obtain ⟨j, rfl⟩ := Nat.exists_eq_succ_of_ne_zero behind
    rw [p.previous_succ h] at hasRelay
    obtain ⟨port, dialled⟩ := Option.isSome_iff_exists.1 hasRelay
    refine ⟨port, relay.trans dialled, ?_, ?_, forwards apart mem ?_⟩
    · simp [Profile.wiring, dialled]
    · simp [Profile.wiring, dialled]
    · rw [helper]
      exact dialled

end Planned

/-- A chain with a helper in it is planned. -/
lemma planned_of_needsHelper {system : SystemPorts} {chain : List Record} {s : Settings}
    {forTest : Bool} {compiled : Compiled} (h : compile system chain s forTest = .ok compiled)
    {r : Record} (mem : r ∈ chain) (needs : r.profile.needsHelper = true) :
    ∃ c, compiled.document = .generated c ∧ compiled = .ofHops s forTest c.hops ∧
      Planned s 0 none chain c.hops := by
  obtain ⟨r', text, rfl, full, -⟩ | ⟨hops, -, planned, rfl⟩ := compile_cases h
  · obtain rfl := List.mem_singleton.1 mem
    rw [Profile.needsHelper_of_isFullConfig (Profile.isFullConfig_of_fullConfig? full)] at needs
    cases needs
  · exact ⟨_, rfl, rfl, planned⟩

/-- In a compiled chain the core and every helper agree about the connections that the helper's
configuration is rendered for, if no port is handed out twice. -/
theorem compile_agrees {system : SystemPorts} {chain : List Record} {s : Settings} {forTest : Bool}
    {compiled : Compiled} (h : compile system chain s forTest = .ok compiled)
    (distinct : compiled.ports.Nodup) (apart : s.mixedPort ∉ compiled.ports) {i : Nat}
    (lt : i < chain.length) (needs : chain[i].profile.needsHelper = true) :
    ∃ config helpers port w,
      compiled.document = .generated config ∧ compiled.external = [helpers] ∧
      helpers.entries[(chain.take i).countP fun r => r.profile.needsHelper]? = some (port, chain[i]) ∧
      Agrees config.toJson helpers chain[i] i port w ∧
      ∀ underTunnel s' name, ∃ rendered doc,
        Helper.render chain[i].profile (helpers.ports port) underTunnel s' name = some rendered ∧
          rendered.config = doc.pretty ∧ chain[i].profile.Wired doc w := by
  obtain ⟨c, document, same, planned⟩ := planned_of_needsHelper h (List.getElem_mem lt) needs
  subst same
  have portsApart := portsApart_ofHops document distinct apart
  have lt' : i < c.hops.length := planned.length_eq ▸ lt
  have record := planned.record_eq lt' lt
  rw [← record] at needs
  obtain ⟨ports, carrier, hasRelay⟩ := planned.exists_helper (List.getElem_mem lt') needs
  have helper : c.hops[i].ports? = some ports := by rw [Hop.ports?, carrier]
  -- Of helpers on one port the table would know a single relay, so distinct ports are needed here.
  have found := ExternalChain.ports_ofHops portsApart.listens (List.getElem_mem lt') helper
  have entry := planned.getElem?_entries lt' carrier
  have agrees := planned.agrees portsApart lt' carrier hasRelay
  rw [record] at needs entry agrees
  refine ⟨c, _, _, _, document, rfl, entry, agrees, ?_⟩
  intro underTunnel s' name
  rw [found]
  exact Profile.render_wired needs ports underTunnel s' name

/-- In a chain with a helper at each end the last one listens on the second port handed out and dials the
third, and the first one dials its server. -/
theorem compile_agrees_helperRawHelper :
    ∃ compiled config helpers first last,
      compile (fun _ => .error "") helperRawHelper { cacheDir := "", helperPortBase := 41000 } false
          = .ok compiled ∧
        compiled.ports.Nodup ∧ 2080 ∉ compiled.ports ∧
        compiled.document = .generated config ∧ compiled.external = [helpers] ∧
        helpers.entries.map Prod.fst = [41000, 41001] ∧ helpers.relay? 41001 = some 41002 ∧
        Agrees config.toJson helpers helperRawHelper[0] 0 41000 first ∧
        Agrees config.toJson helpers helperRawHelper[2] 2 41001 last ∧
        ∃ rendered doc,
          Helper.render helperRawHelper[2].profile ⟨41001, some 41002⟩ false { cacheDir := "" } ""
              = some rendered ∧
            rendered.config = doc.pretty ∧ helperRawHelper[2].profile.Wired doc last := by
  have compiles : compile (fun _ => .error "") helperRawHelper
      { cacheDir := "", helperPortBase := 41000 } false = .ok _ := rfl
  obtain ⟨_, _, port, first, document, external, entry, firstAgrees, -⟩ :=
    compile_agrees compiles (by decide) (by decide) (i := 0) (by decide) rfl
  obtain ⟨_, _, port', last, document', external', entry', lastAgrees, renders⟩ :=
    compile_agrees compiles (by decide) (by decide) (i := 2) (by decide) rfl
  cases document
  cases document'
  cases external
  cases external'
  obtain rfl : 41000 = port := congrArg Prod.fst (Option.some.inj entry)
  obtain rfl : 41001 = port' := congrArg Prod.fst (Option.some.inj entry')
  exact ⟨_, _, _, first, last, compiles, by decide, by decide, rfl, rfl, by decide, by decide,
    firstAgrees, lastAgrees, renders false _ ""⟩

end ProxyChain
