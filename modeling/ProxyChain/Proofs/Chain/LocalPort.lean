import ProxyChain.Proofs.Chain.Distinct
import ProxyChain.Proofs.Chain.Layout

/-!
# Whether the local inbound has its port to itself

The port of the local inbound and the base of the helpers' ports are settings of their own, and handing
out ports does not look at the first. A clash shows either in the ports of the helpers or in a second
inbound on the same port (`LocalPortFree`). There is none exactly if the port of the local inbound is
neither counted for the helpers nor given by the system (`compile_localPortFree_iff`).
-/

namespace ProxyChain

/-- Nothing else in a compiled chain and its document listens on the port of the local inbound. -/
structure LocalPortFree (compiled : Compiled) (doc : Json) (port : UInt16) : Prop where
  /-- No helper listens on it or dials it. -/
  helpers : port ∉ compiled.ports
  /-- The local inbound is there, and no other inbound is on its port. -/
  inbounds : doc.inboundsOn port = [mixedInbound port]

/-- What was handed out for a helper is what it listens on or its relay. -/
lemma Hop.mem_handedOut_iff {hops : List Hop} {port : UInt16} : port ∈ handedOut hops ↔
    port ∈ (helperPorts hops).map (·.listen) ∨ port ∈ relayPorts hops := by
  rw [← (handedOut_perm hops).mem_iff, List.mem_append]

namespace CoreConfig

/-- Behind the local inbound those are on its port that forward from it. -/
lemma inboundsOn_mixedPort {c : CoreConfig} {port : UInt16} (mixed : c.mixedPort = some port) :
    c.toJson.inboundsOn port = mixedInbound port ::
      ((c.hops.filterMap Hop.forward?).filter fun i => i.port == port).map Inbound.toJson := by
  have first : c.inbounds = .mixed port :: c.hops.filterMap Hop.forward? := by
    rw [inbounds, mixed]
    rfl
  have itself : ((Inbound.mixed port).port == port) = true := beq_self_eq_true port
  rw [inboundsOn_toJson, first, List.filter_cons, if_pos itself]
  rfl

/-- The local inbound is alone on its port exactly if that is not forwarded. -/
lemma inboundsOn_mixedPort_iff {c : CoreConfig} {port : UInt16} (mixed : c.mixedPort = some port) :
    c.toJson.inboundsOn port = [mixedInbound port] ↔ port ∉ Hop.relayPorts c.hops := by
  have forwards : (c.hops.filterMap Hop.forward?).map Inbound.port = Hop.relayPorts c.hops := by
    have ports := c.ports_inbounds
    rw [inbounds, mixed] at ports
    exact (List.cons.inj ports).2
  rw [inboundsOn_mixedPort mixed, List.cons_inj_right, List.map_eq_nil_iff, List.filter_eq_nil_iff,
    ← forwards]
  simp only [beq_iff_eq, List.mem_map, not_exists, not_and]

end CoreConfig

/-- Nothing is on the port of the local inbound exactly if it was not handed out. -/
lemma localPortFree_iff {s : Settings} {hops : List Hop} {c : CoreConfig}
    (generated : (Compiled.ofHops s false hops).document = .generated c) :
    LocalPortFree (.ofHops s false hops) c.toJson s.mixedPort ↔ s.mixedPort ∉ Hop.handedOut hops := by
  have mixed : c.mixedPort = some s.mixedPort ∧ c.hops = hops := by
    cases generated
    exact ⟨rfl, rfl⟩
  obtain ⟨mixed, rfl⟩ := mixed
  have alone := CoreConfig.inboundsOn_mixedPort_iff mixed
  constructor
  · intro free handed
    rcases Hop.mem_handedOut_iff.1 handed with listens | relays
    · exact free.helpers (Compiled.mem_ports_iff.2 (.inl listens))
    · -- The table of relays may have forgotten this one, but its inbound is there.
      exact alone.1 free.inbounds relays
  · intro apart
    refine ⟨fun mem => apart (Compiled.mem_handedOut_of_mem_ports mem), alone.2 ?_⟩
    exact fun relays => apart (Hop.mem_handedOut_iff.2 (.inr relays))

/-- The local inbound of a generated configuration has its port to itself exactly if this port is not
counted for the helpers from the base on, and the system, as often as it is asked for a port, does not
give it. -/
theorem compile_localPortFree_iff {system : SystemPorts} {chain : List Record} {s : Settings}
    {compiled : Compiled} {config : CoreConfig} (h : compile system chain s false = .ok compiled)
    (generated : compiled.document = .generated config) :
    LocalPortFree compiled config.toJson s.mixedPort ↔
      ¬IsCounted s.helperPortBase (portsNeeded false chain) s.mixedPort ∧
        ∀ n < portsAsked s.helperPortBase (portsNeeded false chain),
          system n ≠ .ok s.mixedPort := by
  obtain ⟨r, text, -, -, rfl⟩ | ⟨hops, -, planned, rfl⟩ := compile_cases h
  · cases generated
  · obtain ⟨hops', made, same, -⟩ := compile_planned h planned.notFull
    obtain ⟨⟨supply', hands⟩, count⟩ := hands_of_planHops made
    rw [same] at generated
    rw [same, localPortFree_iff generated, hands.mem_iff, count, not_or]
    simp only [not_exists, not_and, ne_eq]
    rfl

/-- The second of two helpers takes two ports, and the local inbound is on the one after them. -/
theorem compile_localPortFree_afterTheHelpers : ∃ compiled config,
    compile (fun _ => .error "no free port") helperBehindHelper
        { cacheDir := "", mixedPort := 2083, helperPortBase := 2080 } false = .ok compiled ∧
      compiled.document = .generated config ∧ LocalPortFree compiled config.toJson 2083 := by
  have compiles : compile (fun _ => .error "no free port") helperBehindHelper
      { cacheDir := "", mixedPort := 2083, helperPortBase := 2080 } false = .ok _ := rfl
  refine ⟨_, _, compiles, rfl, (compile_localPortFree_iff compiles rfl).2 ⟨?_, ?_⟩⟩
  · rintro ⟨-, -, lt⟩
    exact absurd lt (by decide)
  · nofun

/-- The relay of the second of two helpers is on the port of the local inbound. -/
theorem compile_not_localPortFree : ∃ compiled config,
    compile (fun _ => .error "no free port") helperBehindHelper
        { cacheDir := "", mixedPort := 2080, helperPortBase := 2078 } false = .ok compiled ∧
      compiled.document = .generated config ∧ compiled.ports = [2078, 2079, 2080] ∧
      (config.toJson.inboundsOn 2080).length = 2 ∧ ¬LocalPortFree compiled config.toJson 2080 := by
  refine ⟨_, _, rfl, rfl, by decide, by decide, fun free => free.helpers ?_⟩
  decide

end ProxyChain
