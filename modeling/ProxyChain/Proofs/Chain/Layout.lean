import ProxyChain.Proofs.Chain.Supply
import ProxyChain.Proofs.Chain.Traffic

/-!
# How helpers are laid out

A helper of a chain has a slot: the place of its hop, the port that it listens on and, behind other hops,
the port that it dials with the tag of the hop before. The index of helpers, the inbounds and the rules
of a compiled chain are made from the same slots, one for each hop that needs a helper
(`compile_laidOut`), and a build for a test differs from another by the local inbound alone.
-/

namespace ProxyChain

/-- What the helper of a hop is given. -/
structure HelperSlot where
  /-- The place of the hop in the chain. -/
  place : Nat
  record : Record
  /-- The port that the helper listens on. -/
  listen : UInt16
  /-- The port that it dials instead of its server, and the tag of the hop before, if there is one. -/
  behind : Option (UInt16 × String)

namespace HelperSlot

/-- The port that the helper dials instead of its server. -/
def relay? (h : HelperSlot) : Option UInt16 := h.behind.map Prod.fst

/-- The ports of the helper. -/
def ports (h : HelperSlot) : Helper.Ports := { listen := h.listen, relay := h.relay? }

/-- Its ports in the order in which they are handed out. -/
def handedOut (h : HelperSlot) : List UInt16 := h.listen :: h.relay?.toList

/-- The tag of the inbound on the port that the helper dials. -/
def inboundTag (h : HelperSlot) : String := hopTag h.record h.place ++ "-upstream"

/-- The inbound on the port that the helper dials, which forwards to the server of the hop. -/
def inbound? (h : HelperSlot) : Option Json := h.relay?.map fun relay => .ofFields
  [("type", .string "direct"), ("tag", .string h.inboundTag), ("listen", .string "127.0.0.1"),
   ("listen_port", .int relay.toNat),
   ("override_address", .string h.record.profile.endpoint.address),
   ("override_port", .int h.record.profile.endpoint.port.toNat)]

/-- The rule that sends what comes in there to the hop before. -/
def rule? (h : HelperSlot) : Option Json := h.behind.map fun (_, previous) => .ofFields
  [("inbound", .strings [h.inboundTag]), ("outbound", .string previous)]

/-- The entry of the table of relays. -/
def relayPair? (h : HelperSlot) : Option (UInt16 × UInt16) := h.relay?.map fun relay => (h.listen, relay)

end HelperSlot

/-- The slots of the helpers of a chain, with the index of the helpers. -/
structure LaidOut (chain : List Record) (base : UInt16) (slots : List HelperSlot)
    (helpers : ExternalChain) : Prop where
  /-- There is one slot for every hop that needs a helper, in the order of the chain. -/
  hops : slots.map (fun h => (h.record, h.place))
    = chain.zipIdx.filter fun hop => hop.1.profile.needsHelper
  first : ∀ h ∈ slots, h.place = 0 → h.behind = none
  later : ∀ h ∈ slots, ∀ i (inChain : i < chain.length), h.place = i + 1 →
    ∃ relay, h.behind = some (relay, hopTag chain[i] i)
  entries : helpers.entries = slots.map fun h => (h.listen, h.record)
  keys : helpers.relays.keys.Nodup
  relays : helpers.relays.Perm (slots.filterMap HelperSlot.relayPair?)
  /-- Ports that do not run past the last one are consecutive. -/
  numbered : 0 < base → base.toNat + portsNeeded false chain ≤ 65536 →
    (slots.flatMap HelperSlot.handedOut).map UInt16.toNat
      = List.range' base.toNat (portsNeeded false chain)

/-- The core's document has an inbound and a rule for every slot behind other hops, and `mixed` as its
first inbound, if that is one. -/
structure Describes (slots : List HelperSlot) (mixed : Option Json) (doc : Json) : Prop where
  inbounds : doc.at? "inbounds"
    = some (.array (mixed.toList ++ slots.filterMap HelperSlot.inbound?))
  rules : ∃ route, doc.at? "route" = some route ∧ route.at? "rules"
    = if (slots.filterMap HelperSlot.rule?).isEmpty then none
      else some (.array (slots.filterMap HelperSlot.rule?))

/-- The local inbound. -/
def mixedInbound (port : UInt16) : Json := .ofFields
  [("type", .string "mixed"), ("tag", .string "mixed-in"), ("listen", .string "127.0.0.1"),
   ("listen_port", .int port.toNat)]

namespace Hop

/-- The slot of the helper of a hop, if there is one. -/
def slot? (h : Hop) : Option HelperSlot := h.ports?.map fun ports =>
  { place := h.index
    record := h.record
    listen := ports.listen
    behind := ports.relay.bind fun relay => h.previous.map fun tag => (relay, tag) }

/-- The slots of the helpers of hops. -/
def slots (hops : List Hop) : List HelperSlot := hops.filterMap slot?

variable {s : Settings} {h : Hop}

/-- A hop with a slot is carried by a helper, which has a relay exactly if there is a hop before. -/
lemma of_slot? {slot : HelperSlot} (carried : Carries s h.previous.isSome h.record h.carrier)
    (made : h.slot? = some slot) :
    slot.place = h.index ∧ slot.record = h.record ∧ slot.behind.map Prod.snd = h.previous ∧
      h.ports? = some slot.ports := by
  obtain ⟨⟨listen, relay⟩, helper, rfl⟩ := Option.map_eq_some_iff.1 made
  have behind : relay.isSome = h.previous.isSome := by
    cases carrier : h.carrier with
    | core _ => rw [ports?, carrier] at helper; cases helper
    | helper ports =>
      rw [ports?, carrier] at helper
      cases helper
      rw [carrier] at carried
      cases carried with
      | helper _ relay => exact relay
  cases relay with
  | none =>
    cases previous : h.previous with
    | none => exact ⟨rfl, rfl, rfl, helper⟩
    | some tag => rw [previous] at behind; cases behind
  | some relay =>
    cases previous : h.previous with
    | none => rw [previous] at behind; cases behind
    | some tag => exact ⟨rfl, rfl, rfl, helper⟩

/-- A hop has ports exactly if it has a slot, and they are those of the slot. -/
lemma ports?_eq (carried : Carries s h.previous.isSome h.record h.carrier) :
    h.ports? = h.slot?.map HelperSlot.ports := by
  cases made : h.slot? with
  | none => exact Option.map_eq_none_iff.1 made
  | some slot =>
    obtain ⟨-, -, -, helper⟩ := of_slot? carried made
    exact helper

/-- A hop has the forwarding inbound of its slot. -/
lemma toJson_forward? (carried : Carries s h.previous.isSome h.record h.carrier) :
    h.forward?.map Inbound.toJson = h.slot?.bind HelperSlot.inbound? := by
  rw [forward?, ports?_eq carried]
  cases made : h.slot? with
  | none => rfl
  | some slot =>
    obtain ⟨place, record, -, -⟩ := of_slot? carried made
    simp only [Option.map_some, Option.bind_some, HelperSlot.ports, HelperSlot.inbound?,
      HelperSlot.inboundTag, place, record, Option.map_map]
    rfl

/-- A hop has the rule of its slot. -/
lemma toJson_rule? (carried : Carries s h.previous.isSome h.record h.carrier) :
    h.rule?.map RouteRule.toJson = h.slot?.bind HelperSlot.rule? := by
  rw [rule?, ports?_eq carried]
  cases made : h.slot? with
  | none => rfl
  | some slot =>
    obtain ⟨place, record, previous, -⟩ := of_slot? carried made
    simp only [← previous, Option.map_some, Option.bind_some, HelperSlot.ports, HelperSlot.relay?,
      HelperSlot.rule?, HelperSlot.inboundTag, place, record]
    cases slot.behind <;> rfl

end Hop

namespace CoreConfig

/-- The document about routes has no member for rules if there are none. -/
lemma at?_rules (c : CoreConfig) : c.route.at? "rules"
    = if c.rules.isEmpty then none else some (.array (c.rules.map RouteRule.toJson)) :=
  @Json.at?_object [("final", some (.string c.final)),
    ("auto_detect_interface", some (.bool true)), ("rules", _)] _ _ (by simp) (by simp)

/-- What the document says about anything but the inbounds does not depend on the local one. -/
lemma at?_withMixedPort (c : CoreConfig) (mixedPort : Option UInt16) {key : String}
    (other : key ≠ "inbounds") :
    ({ c with mixedPort } : CoreConfig).toJson.at? key = c.toJson.at? key := by
  simp only [toJson, Json.at?_ofFields, List.reverse_cons, List.reverse_nil, List.nil_append,
    List.cons_append, Members.get?_cons, if_neg other]
  rfl

end CoreConfig

namespace Planned

variable {s : Settings} {index : Nat} {previous : Option String} {chain : List Record}
  {hops : List Hop}

/-- There is a slot for each hop that needs a helper, at the place of that hop. -/
lemma hops_slots (p : Planned s index previous chain hops) :
    (Hop.slots hops).map (fun h => (h.record, h.place))
      = (chain.zipIdx index).filter fun hop => hop.1.profile.needsHelper := by
  induction p with
  | nil => rfl
  | cons _ carries _ ih =>
    rw [List.zipIdx_cons, List.filter_cons, ← ih]
    cases carries with
    | helper needs _ =>
      rw [if_pos needs]
      rfl
    | core native _ =>
      rw [if_neg (by simp [native])]
      rfl

/-- What is made from every hop that has a slot is made from the slots. -/
lemma filterMap_slots {α : Type} (p : Planned s index previous chain hops) {ofHop : Hop → Option α}
    {ofSlot : HelperSlot → Option α}
    (same : ∀ h : Hop, Carries s h.previous.isSome h.record h.carrier →
      ofHop h = h.slot?.bind ofSlot) :
    hops.filterMap ofHop = (Hop.slots hops).filterMap ofSlot := by
  rw [Hop.slots, List.filterMap_filterMap]
  exact List.filterMap_congr fun h mem => same h (p.carries mem)

/-- A slot knows the tag of the hop before. -/
lemma previous_slot (p : Planned s 0 previous chain hops) {slot : HelperSlot}
    (mem : slot ∈ Hop.slots hops) :
    ∃ inHops : slot.place < hops.length, slot.behind.map Prod.snd = hops[slot.place].previous := by
  obtain ⟨h, memHops, made⟩ := List.mem_filterMap.1 mem
  obtain ⟨place, -, previous, -⟩ := Hop.of_slot? (p.carries memHops) made
  obtain ⟨i, inHops, rfl⟩ := List.getElem_of_mem memHops
  obtain rfl : slot.place = i := by rw [place, p.index_eq inHops, Nat.zero_add]
  exact ⟨inHops, previous⟩

/-- The ports of helpers are those of the slots, in order. -/
lemma helperPorts_eq (p : Planned s index previous chain hops) :
    Hop.helperPorts hops = (Hop.slots hops).map HelperSlot.ports := by
  rw [Hop.helperPorts, ← List.filterMap_eq_map]
  apply p.filterMap_slots
  intro h carried
  rw [Hop.ports?_eq carried, Option.map_eq_bind]

/-- The helpers of planned hops are laid out in the slots of the hops. -/
lemma laidOut {system : SystemPorts} (p : Planned s 0 none chain hops)
    (made : planHops system s 0 none { counter := s.helperPortBase } chain = .ok hops)
    (distinct : ((Hop.helperPorts hops).map (·.listen)).Nodup) :
    LaidOut chain s.helperPortBase (Hop.slots hops) (.ofHops hops) := by
  refine ⟨p.hops_slots, ?first, ?later, ?entries, ?keys, ?relays, ?numbered⟩
  case first =>
    intro slot mem start
    obtain ⟨inHops, previous⟩ := p.previous_slot mem
    simp only [start, p.previous_zero (start ▸ inHops), Option.map_eq_none_iff] at previous
    exact previous
  case later =>
    intro slot mem i inChain place
    obtain ⟨inHops, previous⟩ := p.previous_slot mem
    simp only [place] at inHops previous
    have before : i < hops.length := Nat.lt_of_succ_lt inHops
    have record : hops[i].record = chain[i] := by
      simp only [← p.records, List.getElem_map]
    rw [p.previous_succ inHops, p.tag_eq before, record] at previous
    obtain ⟨⟨relay, tag⟩, behind, rfl⟩ := Option.map_eq_some_iff.1 previous
    exact ⟨relay, behind⟩
  case entries =>
    rw [Hop.slots, List.map_filterMap]
    simp only [Hop.slot?, Option.map_map]
    rfl
  case keys =>
    rw [ExternalChain.relays_ofHops distinct, Table.keys, List.map_reverse, List.nodup_reverse]
    exact Helper.nodup_keys_relayPairs distinct
  case relays =>
    rw [ExternalChain.relays_ofHops distinct, p.helperPorts_eq, Helper.relayPairs,
      List.filterMap_map]
    exact List.reverse_perm _
  case numbered =>
    intro positive room
    have next : PortSupply.Next { counter := s.helperPortBase } s.helperPortBase.toNat :=
      ⟨(UInt16.ofNat_toNat).symm, UInt16.lt_iff_toNat_lt.1 positive⟩
    have numbered : (Hop.handedOut hops).map UInt16.toNat
        = List.range' s.helperPortBase.toNat (portsNeeded false chain) := by
      refine handedOut_of_planHops next ?_ made
      exact room
    rw [Hop.handedOut, p.helperPorts_eq, List.flatMap_map] at numbered
    exact numbered

/-- The document of a configuration describes the slots of its hops. -/
lemma describes (p : Planned s index previous chain hops) (logLevel : Option String)
    (mixedPort : Option UInt16) :
    Describes (Hop.slots hops) (mixedPort.map mixedInbound)
      (CoreConfig.toJson { logLevel, mixedPort, hops }) := by
  have forwarded : (hops.filterMap Hop.forward?).map Inbound.toJson
      = (Hop.slots hops).filterMap HelperSlot.inbound? := by
    rw [List.map_filterMap]
    exact p.filterMap_slots fun h carried => Hop.toJson_forward? carried
  have ruled : (hops.filterMap Hop.rule?).map RouteRule.toJson
      = (Hop.slots hops).filterMap HelperSlot.rule? := by
    rw [List.map_filterMap]
    exact p.filterMap_slots fun h carried => Hop.toJson_rule? carried
  constructor
  case inbounds =>
    have first : (mixedPort.map Inbound.mixed).toList.map Inbound.toJson
        = (mixedPort.map mixedInbound).toList := by cases mixedPort <;> rfl
    rw [← forwarded, ← first, ← List.map_append]
    simp [CoreConfig.toJson, Json.at?_ofFields, CoreConfig.inbounds]
  case rules =>
    refine ⟨_, CoreConfig.at?_route _, ?_⟩
    rw [← ruled, CoreConfig.at?_rules, List.isEmpty_map, CoreConfig.rules]

end Planned

/-- The helpers of a chain that compiles, the inbounds and the rules are laid out in the same slots, and
a build for a test differs from another by the local inbound alone. -/
theorem compile_laidOut {system : SystemPorts} {chain : List Record} {s : Settings} {forTest : Bool}
    {compiled : Compiled} (h : compile system chain s forTest = .ok compiled)
    (chained : ∀ r ∈ chain, r.profile.isFullConfig = false) (distinct : compiled.ports.Nodup) :
    ∃ slots helpers, ∃ config : Bool → CoreConfig,
      LaidOut chain s.helperPortBase slots helpers ∧
      compiled = { document := .generated (config forTest), external := [helpers] } ∧
      (∀ test, compile system chain s test
        = .ok { document := .generated (config test), external := [helpers] }) ∧
      (∀ test, Describes slots (if test then none else some (mixedInbound s.mixedPort))
        (config test).toJson) ∧
      (∀ key ≠ "inbounds", (config true).toJson.at? key = (config false).toJson.at? key) ∧
      (config true).hops = (config false).hops := by
  obtain ⟨hops, made, rfl, compiles⟩ := compile_planned h chained
  have planned := planned_of_planHops made
  let config (test : Bool) : CoreConfig :=
    { logLevel := s.logLevelName?, mixedPort := if test then none else some s.mixedPort, hops }
  refine ⟨Hop.slots hops, .ofHops hops, config, planned.laidOut made (Compiled.nodup_listens distinct),
    rfl, compiles, ?_, ?_, rfl⟩
  · intro test
    have described := planned.describes s.logLevelName? (if test then none else some s.mixedPort)
    cases test <;> exact described
  · intro key other
    exact CoreConfig.at?_withMixedPort (config false) none other

/-- Two helpers with a raw outbound between them are given three ports in a row. -/
theorem compile_laidOut_helperRawHelper :
    ∃ compiled,
      compile (fun _ => .error "") helperRawHelper { cacheDir := "", helperPortBase := 41000 } false
          = .ok compiled ∧
        (∀ r ∈ helperRawHelper, r.profile.isFullConfig = false) ∧ compiled.ports.Nodup ∧
        ∃ slots helpers, LaidOut helperRawHelper 41000 slots helpers ∧
          compiled.external = [helpers] ∧
          (slots.flatMap HelperSlot.handedOut).map UInt16.toNat = [41000, 41001, 41002] := by
  have compiles : compile (fun _ => .error "") helperRawHelper
      { cacheDir := "", helperPortBase := 41000 } false = .ok _ := rfl
  obtain ⟨slots, helpers, config, laidOut, compiled, -⟩ :=
    compile_laidOut compiles (by decide) (by decide)
  exact ⟨_, compiles, by decide, by decide, slots, helpers, laidOut,
    congrArg Compiled.external compiled, laidOut.numbered (by decide) (by decide)⟩

end ProxyChain
