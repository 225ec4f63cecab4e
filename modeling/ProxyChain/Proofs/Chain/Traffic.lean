import ProxyChain.Proofs.Chain.Reference
import ProxyChain.Proofs.Chain.Relay

/-!
# Where traffic goes

Traffic enters at the outbound that the core's document has it leave through. From an outbound it goes
on by the detour, or, where a helper dials out by itself, by the port that the core forwards for it,
and it leaves for good where there is neither. `TrafficPath` follows it from outbound to outbound. In a
compiled chain it visits every hop once, from the last to the first (`compile_trafficPath_iff`).
-/

namespace ProxyChain

/-- The element of a list that has no other. -/
def only? {α : Type} : List α → Option α
  | [a] => some a
  | _ => none

/-- Where the traffic of an outbound goes. -/
inductive Onward where
  /-- To the server and out of the chain. -/
  | away
  /-- Into the outbound with a tag. -/
  | into (tag : String)
  deriving DecidableEq, Repr

/-- Whether a tag is that of a hop with a helper. -/
def isHelperTag (chain : List Record) (tag : String) : Bool :=
  chain.zipIdx.any fun (r, i) => r.profile.needsHelper && hopTag r i == tag

namespace Json

/-- The outbound that traffic to a forwarded port goes into: the only inbound on the port has to be a
direct one, with a single rule about it. -/
def forwardedInto? (doc : Json) (port : UInt16) : Option String := do
  let inbound ← only? (doc.inboundsOn port)
  guard (inbound.textAt? "type" = some "direct")
  let tag ← inbound.textAt? "tag"
  let rule ← only? (doc.rulesAbout tag)
  rule.textAt? "outbound"

/-- Where the traffic of an outbound goes, if the document says so: by its detour, or by the port that
is forwarded for its helper, if it has one. -/
def onwardOf? (doc : Json) (external : List ExternalChain) (helper : Bool) (outbound : Json) :
    Option Onward :=
  match outbound.at? "detour" with
  | some detour => detour.string?.map .into
  | none =>
    if helper then do
      let listen ← outbound.portAt? "server_port"
      match external.findSome? fun helpers => helpers.relay? listen with
      | some relay => (doc.forwardedInto? relay).map .into
      | none => some .away
    else some .away

/-- Where the traffic of the only outbound with a tag goes. -/
def onward? (doc : Json) (external : List ExternalChain) (chain : List Record) (tag : String) :
    Option Onward :=
  (only? (doc.outboundsTagged tag)).bind (doc.onwardOf? external (isHelperTag chain tag))

/-- An outbound with a detour sends into that. -/
lemma onwardOf?_detour {doc : Json} {external : List ExternalChain} {helper : Bool} {outbound : Json}
    {tag : String} (detour : outbound.textAt? "detour" = some tag) :
    doc.onwardOf? external helper outbound = some (.into tag) := by
  obtain ⟨value, found, text⟩ := Option.bind_eq_some_iff.1 detour
  rw [onwardOf?, found]
  exact congrArg (Option.map Onward.into) text

end Json

/-- The tags of the outbounds that traffic visits from an outbound on. -/
inductive TrafficPath (onward? : String → Option Onward) : String → List String → Prop where
  | last {tag : String} (away : onward? tag = some .away) : TrafficPath onward? tag [tag]
  | through {tag next : String} {path : List String} (into : onward? tag = some (.into next))
      (rest : TrafficPath onward? next path) : TrafficPath onward? tag (tag :: path)

/-- Traffic has one way to go. -/
lemma TrafficPath.unique {onward? : String → Option Onward} {tag : String} {path path' : List String}
    (p : TrafficPath onward? tag path) (p' : TrafficPath onward? tag path') : path = path' := by
  induction p generalizing path' with
  | last away =>
    cases p' with
    | last _ => rfl
    | through into _ =>
      rw [away] at into
      cases into
  | through into _ ih =>
    cases p' with
    | last away =>
      rw [into] at away
      cases away
    | through into' rest' =>
      rw [into] at into'
      cases into'
      rw [ih rest']

/-- Whether a profile has no detour of its own, which only the object of a raw outbound may have. -/
def Profile.LacksDetour (p : Profile) : Prop :=
  ∀ raw members, p.variant = .config raw → Json.parse raw.text = .ok (.object members) →
    Members.get? members "detour" = none

/-- The outbound of a profile without a detour of its own has none. -/
lemma Profile.LacksDetour.at?_toOutbound {p : Profile} (lacks : p.LacksDetour) {s : Settings}
    {outbound : Json} (built : p.toOutbound s = .ok outbound) : outbound.at? "detour" = none := by
  unfold toOutbound at built
  cases variant : p.variant with
  | config raw =>
    rw [variant] at built
    simp only at built
    cases parsed : Json.parse raw.text with
    | error e => rw [parsed] at built; cases built
    | ok document =>
      rw [parsed] at built
      cases built
      cases outbound with
      | object members => exact lacks raw members variant parsed
      | _ => rfl
  | naive settings => rw [variant] at built; cases built
  | trojan settings =>
    rw [variant] at built
    cases built
    apply Members.get?_ofFields_eq_none
    simp [Trojan.fields, Endpoint.fields]
  | hysteria settings =>
    rw [variant] at built
    cases built
    apply Members.get?_ofFields_eq_none
    cases generation : settings.isFirstGeneration <;>
      simp [generation, Hysteria.fields, Hysteria.sharedFields, Hysteria.firstFields,
        Hysteria.secondFields, Endpoint.fields]
  | direct =>
    rw [variant] at built
    cases built
    apply Members.get?_ofFields_eq_none
    simp

/-- The ports of a configuration do not clash where a forwarded port has to be found again. -/
structure PortsApart (c : CoreConfig) : Prop where
  /-- No two helpers listen on the same port. -/
  listens : ((Hop.helperPorts c.hops).map (·.listen)).Nodup
  /-- No port is forwarded twice. -/
  relays : (Hop.relayPorts c.hops).Nodup
  /-- The local inbound is not on a forwarded port. -/
  mixed : ∀ port, c.mixedPort = some port → port ∉ Hop.relayPorts c.hops

namespace CoreConfig

variable {c : CoreConfig}

/-- The inbounds are on the mixed port and on the ports of relays. -/
lemma ports_inbounds : c.inbounds.map Inbound.port = c.mixedPort.toList ++ Hop.relayPorts c.hops := by
  have forwards : (c.hops.filterMap Hop.forward?).map Inbound.port = Hop.relayPorts c.hops := by
    rw [List.map_filterMap, Hop.relayPorts, Hop.helperPorts, List.filterMap_filterMap]
    congr 1
    funext h
    rw [Hop.forward?, Option.map_map]
    exact Option.map_id'
  rw [inbounds, List.map_append, forwards]
  cases c.mixedPort <;> rfl

/-- The inbounds on a port in the document are those that have it. -/
lemma inboundsOn_toJson (port : UInt16) :
    c.toJson.inboundsOn port = (c.inbounds.filter fun i => i.port == port).map Inbound.toJson := by
  have onPort (i : Inbound) : (i.toJson.portAt? "listen_port" == some port) = (i.port == port) := by
    rw [i.portAt?_toJson, Option.some_beq_some]
  rw [Json.inboundsOn, itemsAt_inbounds, List.filter_map]
  simp only [Function.comp_def, onPort]

/-- The only inbound on a port is the one that was made for it. -/
lemma inboundsOn_eq (apart : PortsApart c) {i : Inbound} (mem : i ∈ c.inbounds) :
    c.toJson.inboundsOn i.port = [i.toJson] := by
  have ports : (c.inbounds.map Inbound.port).Nodup := by
    rw [ports_inbounds]
    refine List.nodup_append'.2 ⟨?_, apart.relays, ?_⟩
    · cases c.mixedPort with
      | none => exact List.nodup_nil
      | some port => exact List.nodup_singleton port
    · intro port local' forwarded
      exact apart.mixed port (Option.mem_toList.1 local') forwarded
  rw [inboundsOn_toJson, filter_key_eq ports mem, List.map_singleton]

/-- The only inbound on a relay is the one that forwards to the server of its hop. -/
lemma inboundsOn_relay (apart : PortsApart c) {h : Hop} (mem : h ∈ c.hops) {port : UInt16}
    (relay : h.ports?.bind (·.relay) = some port) :
    c.toJson.inboundsOn port = [(Inbound.forward h.relayTag port h.record.profile.endpoint.address
      h.record.profile.endpoint.port).toJson] := by
  have forward : h.forward? = some (.forward h.relayTag port h.record.profile.endpoint.address
      h.record.profile.endpoint.port) := by
    rw [Hop.forward?, relay]
    rfl
  exact inboundsOn_eq apart (List.mem_append_right _ (List.mem_filterMap.2 ⟨h, mem, forward⟩))

/-- A forwarding inbound is one of type direct. -/
lemma textAt?_type_forward (tag : String) (port : UInt16) (address : String) (addressPort : UInt16) :
    (Inbound.forward tag port address addressPort).toJson.textAt? "type" = some "direct" := by
  simp [Inbound.toJson, Json.textAt?, Json.at?_ofFields, Json.string?]

end CoreConfig

/-- Whether a tag is that of a hop with a helper is a matter of the record at its place. -/
lemma isHelperTag_hopTag {chain : List Record} {i : Nat} (h : i < chain.length) :
    isHelperTag chain (hopTag chain[i] i) = chain[i].profile.needsHelper := by
  rw [Bool.eq_iff_iff, isHelperTag, List.any_eq_true]
  constructor
  · rintro ⟨⟨r, j⟩, mem, found⟩
    obtain ⟨needs, same⟩ := (Bool.and_eq_true _ _).mp found
    obtain rfl := hopTag_inj (beq_iff_eq.1 same)
    have there : chain[j]? = some r := List.mem_zipIdx_iff_getElem?.1 mem
    rw [List.getElem?_eq_getElem h] at there
    cases there
    exact needs
  · intro needs
    refine ⟨(chain[i], i), List.mem_zipIdx_iff_getElem?.2 (List.getElem?_eq_getElem h), ?_⟩
    exact (Bool.and_eq_true _ _).mpr ⟨needs, beq_self_eq_true _⟩

namespace Planned

variable {s : Settings} {chain : List Record} {c : CoreConfig}

/-- The only rule about a forwarding inbound is the one that was made for it. -/
lemma rulesAbout_eq (p : Planned s 0 none chain c.hops) {r : RouteRule} (mem : r ∈ c.rules) :
    c.toJson.rulesAbout r.inbound = [r.toJson] := by
  have inbounds : (c.rules.map RouteRule.inbound).Nodup := by
    have tags : c.hops.Pairwise fun h h' => h.tag ≠ h'.tag := List.pairwise_map.1 p.nodup_tags
    refine List.pairwise_map.2 (tags.filterMap Hop.rule? ?_)
    intro h h' different r made r' made' same
    rw [(Hop.of_rule? made).1, (Hop.of_rule? made').1] at same
    exact different (Hop.relayTag_inj same)
  rw [Json.rulesAbout, c.routeRules_toJson, List.filter_map]
  have about : ((fun rule : Json => (rule.itemsAt "inbound").any fun name =>
      name.string? == some r.inbound) ∘ RouteRule.toJson) = fun r' => r'.inbound == r.inbound := by
    funext r'
    rw [Function.comp_apply, r'.itemsAt_toJson, List.any_cons, List.any_nil, Bool.or_false]
    rfl
  rw [about, filter_key_eq inbounds mem, List.map_singleton]

/-- A port that is forwarded for a helper leads into the hop before. -/
lemma forwardedInto?_eq (p : Planned s 0 none chain c.hops) (apart : PortsApart c) {h : Hop}
    (mem : h ∈ c.hops) {port : UInt16} (relay : h.ports?.bind (·.relay) = some port) {tag : String}
    (previous : h.previous = some tag) : c.toJson.forwardedInto? port = some tag := by
  have rule : h.rule? = some { inbound := h.relayTag, outbound := tag } := by
    rw [Hop.rule?, relay, previous]
  have inbound := CoreConfig.inboundsOn_relay apart mem relay
  have about := p.rulesAbout_eq (List.mem_filterMap.2 ⟨h, mem, rule⟩)
  change c.toJson.rulesAbout h.relayTag = _ at about
  simp only [Json.forwardedInto?, inbound, about, only?, CoreConfig.textAt?_type_forward,
    Inbound.textAt?_tag_toJson, Inbound.tag, RouteRule.textAt?_toJson, guard, if_true,
    Option.bind_eq_bind, Option.bind_some, Option.pure_def]

/-- The traffic of a hop goes where that of its outbound goes. -/
lemma onward?_tag (p : Planned s 0 none chain c.hops) (objects : ∀ r ∈ chain, r.profile.HoldsObject)
    (external : List ExternalChain) {i : Nat} (h : i < c.hops.length) :
    c.toJson.onward? external chain c.hops[i].tag
      = c.toJson.onwardOf? external c.hops[i].record.profile.needsHelper c.hops[i].outbound := by
  have h' : i < chain.length := p.length_eq ▸ h
  have helper : isHelperTag chain c.hops[i].tag = c.hops[i].record.profile.needsHelper := by
    rw [p.tag_eq_hopTag h h', isHelperTag_hopTag h', p.record_eq h h']
  rw [Json.onward?, p.outboundsTagged_eq objects (List.getElem_mem h), helper]
  rfl

/-- The traffic of a helper goes into the port that is forwarded for it, if there is one. -/
lemma onwardOf?_socks (apart : PortsApart c) {h : Hop} (mem : h ∈ c.hops) {ports : Helper.Ports}
    (carrier : h.carrier = .helper ports) :
    c.toJson.onwardOf? [.ofHops c.hops] true h.outbound =
      match ports.relay with
      | some relay => (c.toJson.forwardedInto? relay).map .into
      | none => some .away := by
  have helper : h.ports? = some ports := by rw [Hop.ports?, carrier]
  have relay := ExternalChain.relay?_ofHops apart.listens mem helper
  have outbound : h.outbound = h.socks ports.listen := by rw [Hop.outbound, carrier]
  rw [outbound, Json.onwardOf?, Hop.at?_detour_socks]
  simp only [if_true, Hop.portAt?_socks, Option.bind_eq_bind, Option.bind_some, List.findSome?_cons,
    List.findSome?_nil, relay]
  cases ports.relay <;> rfl

/-- The outbound of the first hop has no detour if the record has none of its own. -/
lemma at?_detour_outbound (p : Planned s 0 none chain c.hops)
    (objects : ∀ r ∈ chain, r.profile.HoldsObject)
    (lacks : ∀ r, chain.head? = some r → r.profile.LacksDetour) (h : 0 < c.hops.length)
    {outbound : Json} (carrier : c.hops[0].carrier = .core outbound)
    (built : c.hops[0].record.profile.toOutbound s = .ok outbound) :
    c.hops[0].outbound.at? "detour" = none := by
  have h' : 0 < chain.length := p.length_eq ▸ h
  rw [p.record_eq h h'] at built
  obtain ⟨members, rfl⟩ := (Profile.holdsObject_iff built).1 (objects _ (List.getElem_mem h'))
  have own := (lacks _ (List.head?_eq_getElem? ▸ List.getElem?_eq_getElem h')).at?_toOutbound built
  rw [Hop.outbound, carrier]
  change (c.hops[0].label (.object members)).at? "detour" = none
  rw [Hop.at?_detour_label, p.previous_zero h]
  exact own

/-- The traffic of the first hop goes away. -/
lemma onward?_zero (p : Planned s 0 none chain c.hops) (apart : PortsApart c)
    (objects : ∀ r ∈ chain, r.profile.HoldsObject)
    (lacks : ∀ r, chain.head? = some r → r.profile.LacksDetour) (h : 0 < c.hops.length) :
    c.toJson.onward? [.ofHops c.hops] chain c.hops[0].tag = some .away := by
  have mem : c.hops[0] ∈ c.hops := List.getElem_mem h
  have carries := p.carries mem
  rw [p.onward?_tag objects _ h]
  rw [p.previous_zero h] at carries
  generalize carrier : c.hops[0].carrier = carried at carries
  cases carries with
  | @helper ports needs relay =>
    have none : ports.relay = none := Option.isNone_iff_eq_none.1 (Option.isSome_eq_false_iff.1 relay)
    rw [needs, onwardOf?_socks apart mem carrier, none]
  | @core outbound native built =>
    have none := p.at?_detour_outbound objects lacks h carrier built
    rw [native, Json.onwardOf?, none]
    rfl

/-- The traffic of every other hop goes into the hop before. -/
lemma onward?_succ (p : Planned s 0 none chain c.hops) (apart : PortsApart c)
    (objects : ∀ r ∈ chain, r.profile.HoldsObject) {i : Nat} (h : i + 1 < c.hops.length) :
    c.toJson.onward? [.ofHops c.hops] chain c.hops[i + 1].tag = some (.into c.hops[i].tag) := by
  have mem : c.hops[i + 1] ∈ c.hops := List.getElem_mem h
  have previous := p.previous_succ h
  have carries := p.carries mem
  rw [p.onward?_tag objects _ h]
  rw [previous] at carries
  generalize carrier : c.hops[i + 1].carrier = carried at carries
  cases carries with
  | @helper ports needs relay =>
    obtain ⟨port, relay⟩ := Option.isSome_iff_exists.1 relay
    have forwarded : c.toJson.forwardedInto? port = some c.hops[i].tag := by
      refine p.forwardedInto?_eq apart mem ?_ previous
      rw [Hop.ports?, carrier]
      exact relay
    rw [needs, onwardOf?_socks apart mem carrier, relay]
    simp only [forwarded, Option.map_some]
  | core native built =>
    exact Json.onwardOf?_detour (p.textAt?_detour_outbound objects mem native previous)

/-- From a hop traffic visits the hops before it, one after the other. -/
lemma trafficPath (p : Planned s 0 none chain c.hops) (apart : PortsApart c)
    (objects : ∀ r ∈ chain, r.profile.HoldsObject)
    (lacks : ∀ r, chain.head? = some r → r.profile.LacksDetour) {i : Nat} (h : i < c.hops.length) :
    TrafficPath (c.toJson.onward? [.ofHops c.hops] chain) c.hops[i].tag
      ((c.hops.take (i + 1)).map Hop.tag).reverse := by
  -- The path from a hop is its tag and then the path from the hop before.
  induction i with
  | zero =>
    have first : c.hops.take 1 = [c.hops[0]] := by
      rw [← List.take_append_getElem h]
      rfl
    rw [first]
    exact .last (p.onward?_zero apart objects lacks h)
  | succ i ih =>
    rw [← List.take_append_getElem h, List.map_append, List.reverse_append]
    exact .through (p.onward?_succ apart objects h) (ih (Nat.lt_of_succ_lt h))

/-- The hops go by the tags of the chain. -/
lemma map_tag (p : Planned s 0 none chain c.hops) : c.hops.map Hop.tag = hopTags chain := by
  have length := p.length_eq
  apply List.ext_getElem
  · simp only [hopTags, List.length_map, List.length_mapIdx, length]
  · intro i h h'
    simp only [hopTags, List.getElem_map, List.getElem_mapIdx]
    exact p.tag_eq_hopTag _ _

/-- Through a chain traffic visits every hop once, from the last to the first. -/
theorem trafficPath_iff (p : Planned s 0 none chain c.hops) (nonempty : chain ≠ [])
    (apart : PortsApart c) (objects : ∀ r ∈ chain, r.profile.HoldsObject)
    (lacks : ∀ r, chain.head? = some r → r.profile.LacksDetour) (path : List String) :
    TrafficPath (c.toJson.onward? [.ofHops c.hops] chain) c.final path
      ↔ path = (hopTags chain).reverse := by
  have length := p.length_eq
  have positive : 0 < c.hops.length := length ▸ List.length_pos_of_ne_nil nonempty
  have last : c.hops.length - 1 < c.hops.length := by omega
  have visited := p.trafficPath apart objects lacks last
  have final : c.final = c.hops[c.hops.length - 1].tag := by
    rw [final_eq (List.length_pos_iff.1 positive), List.getLast_eq_getElem]
  rw [← final, Nat.sub_add_cancel positive, List.take_length, p.map_tag] at visited
  -- The walk from the last hop is one path, and there is no other.
  constructor
  · intro other
    exact other.unique visited
  · rintro rfl
    exact visited

end Planned

/-- The ports of a compiled chain do not clash if those handed out are distinct and not the local
inbound's. -/
lemma portsApart_ofHops {s : Settings} {forTest : Bool} {hops : List Hop} {c : CoreConfig}
    (document : (Compiled.ofHops s forTest hops).document = .generated c)
    (distinct : (Compiled.ofHops s forTest hops).ports.Nodup)
    (apart : s.mixedPort ∉ (Compiled.ofHops s forTest hops).ports) : PortsApart c := by
  cases document
  refine ⟨Compiled.nodup_listens distinct, Compiled.nodup_relayPorts distinct, ?_⟩
  intro port mixed forwarded
  have same : s.mixedPort = port := by
    cases forTest with
    | true => cases mixed
    | false => exact Option.some.inj mixed
  exact apart (same ▸ Compiled.mem_ports_of_mem_relayPorts distinct forwarded)

/-- The traffic of a compiled chain leaves through the last hop and visits every hop once, from the last
to the first, and goes nowhere else, if no port is handed out twice and the raw outbounds are objects,
the first one without a detour of its own. -/
theorem compile_trafficPath_iff {system : SystemPorts} {chain : List Record} {s : Settings}
    {forTest : Bool} {compiled : Compiled} (h : compile system chain s forTest = .ok compiled)
    (chained : ∀ r ∈ chain, r.profile.isFullConfig = false)
    (objects : ∀ r ∈ chain, r.profile.HoldsObject)
    (lacks : ∀ r, chain.head? = some r → r.profile.LacksDetour) (distinct : compiled.ports.Nodup)
    (apart : s.mixedPort ∉ compiled.ports) :
    ∃ config final, compiled.document = .generated config ∧ config.toJson.finalTag? = some final ∧
      (hopTags chain).Nodup ∧
      ∀ path, TrafficPath (config.toJson.onward? compiled.external chain) final path
        ↔ path = (hopTags chain).reverse := by
  obtain ⟨r, text, rfl, full, -⟩ | ⟨hops, nonempty, planned, rfl⟩ := compile_cases h
  · have notFull := chained r List.mem_cons_self
    rw [Profile.isFullConfig_of_fullConfig? full] at notFull
    cases notFull
  · exact ⟨_, _, rfl, CoreConfig.finalTag?_toJson _, nodup_hopTags chain,
      planned.trafficPath_iff nonempty (portsApart_ofHops rfl distinct apart) objects lacks⟩

/-- A chain with a helper at each end and a raw outbound between them. -/
def helperRawHelper : List Record :=
  [{ id := 1, uuid := "", profile := ⟨{}, .naive {}⟩ },
   { id := 2, uuid := "", profile := ⟨{}, .config { scope := .outbound, text := "\x7b\x7d" }⟩ },
   { id := 3, uuid := "", profile := ⟨{}, .hysteria { transport := .fakeTcp }⟩ }]

/-- Through that chain traffic goes by way of a forwarded port and of a detour. -/
theorem compile_trafficPath_helperRawHelper :
    ∃ compiled config,
      compile (fun _ => .error "") helperRawHelper { cacheDir := "", helperPortBase := 41000 } false
          = .ok compiled ∧
        compiled.ports.Nodup ∧ 2080 ∉ compiled.ports ∧
        compiled.document = .generated config ∧
        TrafficPath (config.toJson.onward? compiled.external helperRawHelper) "proxy-3-2"
          ["proxy-3-2", "proxy-2-1", "proxy-1-0"] := by
  have compiles : compile (fun _ => .error "") helperRawHelper
      { cacheDir := "", helperPortBase := 41000 } false = .ok _ := rfl
  have objects : ∀ r ∈ helperRawHelper, r.profile.HoldsObject := by
    intro r mem raw variant
    simp only [helperRawHelper, List.mem_cons, List.not_mem_nil, or_false] at mem
    obtain rfl | rfl | rfl := mem <;> cases variant
    exact ⟨[], rfl⟩
  have lacks : ∀ r, helperRawHelper.head? = some r → r.profile.LacksDetour := by
    intro r head raw members variant
    cases head
    cases variant
  obtain ⟨config, final, document, leaves, -, path⟩ :=
    compile_trafficPath_iff compiles (by decide) objects lacks (by decide) (by decide)
  cases document
  rw [CoreConfig.finalTag?_toJson] at leaves
  obtain rfl : "proxy-3-2" = final := Option.some.inj leaves
  exact ⟨_, _, compiles, by decide, by decide, rfl, (path _).2 (by decide)⟩

end ProxyChain
