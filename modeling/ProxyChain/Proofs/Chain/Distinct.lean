import ProxyChain.Proofs.Chain.Supply
import Mathlib.Data.List.Perm.Basic

/-!
# Whether ports are distinct

A port that the system gives is held until the chain is compiled, so that the system does not give it
again. A port that is counted is not held. A supply that has counted past the last port goes on with what
the system gives, and the ports of a compiled chain are distinct exactly if this is none of those that
were counted (`compile_nodup_ports_iff`).
-/

namespace ProxyChain

/-- A system that gives ports which are free: none is zero, and none is held because it was given
before. -/
structure SystemPorts.Lawful (system : SystemPorts) : Prop where
  nonzero {n : Nat} {port : UInt16} (given : system n = .ok port) : port ≠ 0
  held {m n : Nat} {port : UInt16} (before : m < n) (given : system m = .ok port) :
    system n ≠ .ok port

/-- How often the system is asked when `needed` ports are taken that are counted from a base. -/
def portsAsked (base : UInt16) (needed : Nat) : Nat :=
  needed - PortSupply.left { counter := base }

/-- Whether a port is among those that are counted when `needed` ports are taken from a base on. -/
def IsCounted (base : UInt16) (needed : Nat) (port : UInt16) : Prop :=
  base ≠ 0 ∧ base ≤ port ∧ port.toNat < base.toNat + needed

/-- Once the system is asked, every port from the base on has been counted. -/
lemma isCounted_of_asked {base port : UInt16} {needed : Nat} (counts : base ≠ 0)
    (asked : 0 < portsAsked base needed) : IsCounted base needed port ↔ base ≤ port := by
  refine ⟨fun counted => counted.2.1, fun le => ⟨counts, le, ?_⟩⟩
  rw [portsAsked, PortSupply.left, if_neg counts] at asked
  have bound := port.toNat_lt
  dsimp only at asked
  omega

variable {system : SystemPorts}

namespace PortSupply.Hands

variable {supply supply' : PortSupply} {ports : List UInt16}

/-- No port that is handed out is zero. -/
lemma nonzero (lawful : system.Lawful) (h : Hands system supply ports supply') :
    ∀ port ∈ ports, port ≠ 0 := by
  induction h with
  | nil => nofun
  | @cons supply _ _ _ _ taken _ ih =>
    refine List.forall_mem_cons.2 ⟨?_, ih⟩
    unfold take at taken
    split at taken
    · cases given : system supply.asked with
      | error e => rw [given] at taken; cases taken
      | ok port =>
        rw [given] at taken
        cases taken
        exact lawful.nonzero given
    · next counted =>
      cases taken
      exact counted

end PortSupply.Hands

/-- The ports that the system gives one after the other are distinct. -/
lemma SystemPorts.Lawful.nodup (lawful : system.Lawful) {given : List UInt16} {first : Nat}
    (answers : given.map Except.ok = (List.range' first given.length).map system) : given.Nodup := by
  have answer (i : Nat) (h : i < given.length) : system (first + i) = .ok given[i] := by
    have both := congrArg (·[i]?) answers
    simpa [h] using both.symm
  refine List.pairwise_iff_getElem.2 fun i j hi hj before same => ?_
  refine lawful.held (Nat.add_lt_add_left before first) (answer i hi) ?_
  rw [answer j hj, same]

namespace PortSupply.Hands

variable {base : UInt16} {ports : List UInt16} {supply' : PortSupply}

/-- The ports taken from a base on: those that are counted, each once, and the first answers of the
system. -/
lemma parts (h : Hands system { counter := base } ports supply') :
    ∃ counted given, ports = counted ++ given ∧ counted.Nodup ∧
      (∀ port, port ∈ counted ↔ IsCounted base ports.length port) ∧
      given.length = portsAsked base ports.length ∧
      given.map Except.ok = (List.range' 0 given.length).map system := by
  obtain ⟨counted, given, rfl, length, inOrder, answers⟩ := h.split
  rw [List.length_append] at length ⊢
  have nodup : counted.Nodup := by
    apply List.Nodup.of_map UInt16.toNat
    rw [inOrder]
    exact List.nodup_range'
  have asked : given.length = portsAsked base (counted.length + given.length) := by
    unfold portsAsked
    omega
  refine ⟨counted, given, rfl, nodup, fun port => ?_, asked, answers⟩
  rw [← List.mem_map_of_injective fun _ _ => UInt16.toNat_inj.1, inOrder, List.mem_range'_1,
    IsCounted, UInt16.le_iff_toNat_le]
  dsimp only
  by_cases zero : base = 0
  · have none : counted.length = 0 := by rw [length, left, if_pos zero, Nat.min_zero]
    exact iff_of_false (by omega) fun counts => counts.1 zero
  · rw [left, if_neg zero] at length
    dsimp only at length
    have bound := port.toNat_lt
    rw [and_iff_right zero]
    omega

/-- The ports that were given are those that the system gives for the first requests. -/
lemma mem_given_iff {given : List UInt16}
    (answers : given.map Except.ok = (List.range' 0 given.length).map system) {port : UInt16} :
    port ∈ given ↔ ∃ n < given.length, system n = .ok port := by
  have both : (.ok port : Except String UInt16) ∈ given.map Except.ok ↔
      .ok port ∈ (List.range' 0 given.length).map system := by rw [answers]
  simpa using both

/-- A port is handed out if it is counted or if the system, being asked, gives it. -/
lemma mem_iff (h : Hands system { counter := base } ports supply') {port : UInt16} :
    port ∈ ports ↔ IsCounted base ports.length port ∨
      ∃ n < portsAsked base ports.length, system n = .ok port := by
  obtain ⟨counted, given, both, -, memCounted, asked, answers⟩ := h.parts
  rw [← memCounted, ← asked, ← mem_given_iff answers, both, List.mem_append]

/-- Ports that are counted from a base and ports that the system gives after the last of them are
distinct exactly if it gives none from the base on. -/
lemma nodup_iff (lawful : system.Lawful) (h : Hands system { counter := base } ports supply') :
    ports.Nodup ↔ base = 0 ∨ ∀ n < portsAsked base ports.length, ∀ port,
      system n = .ok port → port < base := by
  obtain ⟨counted, given, both, nodup, memCounted, asked, answers⟩ := h.parts
  have apart_iff : ports.Nodup ↔ counted.Disjoint given := by
    rw [both, List.nodup_append', and_iff_right nodup, and_iff_right (lawful.nodup answers)]
  rw [apart_iff]
  by_cases zero : base = 0
  · refine iff_of_true (fun port mem => ?_) (.inl zero)
    exact absurd zero ((memCounted port).1 mem).1
  · simp only [zero, false_or]
    constructor
    · intro apart n more port answered
      have mem : port ∈ given := (mem_given_iff answers).2 ⟨n, asked ▸ more, answered⟩
      by_contra notBelow
      refine apart ((memCounted port).2 ?_) mem
      exact (isCounted_of_asked zero (Nat.zero_lt_of_lt more)).2 (UInt16.not_lt.1 notBelow)
    · intro below port mem mem'
      obtain ⟨n, more, answered⟩ := (mem_given_iff answers).1 mem'
      exact UInt16.not_le.2 (below n (asked ▸ more) port answered) ((memCounted port).1 mem).2.1

end PortSupply.Hands

/-- The ports that are handed out to helpers are those that they listen on and their relays. -/
lemma Hop.handedOut_perm (hops : List Hop) :
    ((helperPorts hops).map (·.listen) ++ relayPorts hops).Perm (handedOut hops) := by
  rw [relayPorts, List.filterMap_eq_flatMap_toList]
  exact List.map_append_flatMap_perm _ _ _

/-- Every relay that is noted was noted before or is that of some helper. -/
lemma ExternalChain.mem_foldl_relays {port : UInt16} (ports : List Helper.Ports)
    {noted : Table UInt16 UInt16} (mem : port ∈ (ports.foldl (fun relays ports =>
      match ports.relay with
      | some relay => Table.set relays ports.listen relay
      | none => relays) noted).map Prod.snd) :
    port ∈ noted.map Prod.snd ∨ port ∈ ports.filterMap (·.relay) := by
  induction ports generalizing noted with
  | nil => exact .inl mem
  | cons p ports ih =>
    cases relay : p.relay with
    | none =>
      rw [List.foldl_cons, relay] at mem
      rw [List.filterMap_cons_none relay]
      exact ih mem
    | some relay' =>
      rw [List.foldl_cons, relay] at mem
      rw [List.filterMap_cons_some relay, List.mem_cons]
      obtain earlier | later := ih mem
      · rcases List.mem_cons.1 earlier with same | earlier
        · exact .inr (.inl same)
        · refine .inl (List.map_subset _ ?_ earlier)
          exact List.filter_subset_self _
      · exact .inr (.inr later)

namespace Compiled

variable {s : Settings} {forTest : Bool} {hops : List Hop}

/-- The ports of a compiled chain are those that its helpers listen on, and the relays it has noted. -/
lemma mem_ports_iff {port : UInt16} : port ∈ (ofHops s forTest hops).ports ↔
    port ∈ (Hop.helperPorts hops).map (·.listen) ∨
      port ∈ (ExternalChain.ofHops hops).relays.map Prod.snd := by
  rw [← ExternalChain.listens_ofHops, ← List.mem_append]
  simp only [ofHops, ports, List.flatMap_cons, List.flatMap_nil, List.append_nil]

/-- Every port of a compiled chain was handed out. -/
lemma mem_handedOut_of_mem_ports {port : UInt16} (mem : port ∈ (ofHops s forTest hops).ports) :
    port ∈ Hop.handedOut hops := by
  refine (Hop.handedOut_perm hops).subset ?_
  refine List.mem_append.2 ((mem_ports_iff.1 mem).imp_right fun relay => ?_)
  obtain impossible | planned := ExternalChain.mem_foldl_relays _ relay
  · cases impossible
  · exact planned

/-- The ports of a compiled chain are distinct exactly if those that were handed out are. -/
lemma nodup_ports_iff : (ofHops s forTest hops).ports.Nodup ↔ (Hop.handedOut hops).Nodup := by
  have asPlanned (distinct : ((Hop.helperPorts hops).map (·.listen)).Nodup) :
      (ofHops s forTest hops).ports.Perm (Hop.handedOut hops) := by
    rw [ports_ofHops distinct]
    exact ((List.reverse_perm _).append_left _).trans (Hop.handedOut_perm hops)
  constructor
  · intro distinct
    exact (asPlanned (nodup_listens distinct)).nodup_iff.1 distinct
  · intro distinct
    have apart := (Hop.handedOut_perm hops).nodup_iff.2 distinct
    exact (asPlanned apart.of_append_left).nodup_iff.2 distinct

end Compiled

/-- A chain of two helpers. -/
def helperBehindHelper : List Record :=
  [{ id := 1, uuid := "", profile := ⟨{}, .naive {}⟩ },
   { id := 2, uuid := "", profile := ⟨{}, .naive {}⟩ }]

/-- A system with two free ports. -/
def twoPorts (first second : UInt16) : SystemPorts
  | 0 => .ok first
  | 1 => .ok second
  | _ => .error "no free port"

/-- A system that gives two different ports in turn is lawful. -/
lemma lawful_twoPorts {first second : UInt16} (nonzero : first ≠ 0) (nonzero' : second ≠ 0)
    (apart : first ≠ second) : (twoPorts first second).Lawful where
  nonzero := by
    intro n port given
    match n with
    | 0 => cases given; exact nonzero
    | 1 => cases given; exact nonzero'
    | n + 2 => cases given
  held := by
    intro m n port before given again
    match m, n with
    | 0, 1 =>
      cases given
      cases again
      exact apart rfl
    | m + 2, _ => cases given
    | _, n + 2 => cases again
    | 1, 1 => exact absurd before (Nat.lt_irrefl 1)

/-- The ports of a compiled chain are none of them zero, and they are distinct exactly if the base is zero
or the system, once the ports from the base on are used up, gives none of these. -/
theorem compile_nodup_ports_iff {chain : List Record} {s : Settings} {forTest : Bool}
    {compiled : Compiled} (lawful : system.Lawful)
    (h : compile system chain s forTest = .ok compiled) :
    (∀ port ∈ compiled.ports, port ≠ 0) ∧
      (compiled.ports.Nodup ↔ s.helperPortBase = 0 ∨
        ∀ n < portsAsked s.helperPortBase (portsNeeded false chain), ∀ port,
          system n = .ok port → port < s.helperPortBase) := by
  obtain ⟨r, text, rfl, full, rfl⟩ | ⟨hops, -, planned, rfl⟩ := compile_cases h
  · have native := Profile.needsHelper_of_isFullConfig (Profile.isFullConfig_of_fullConfig? full)
    have none : portsAsked s.helperPortBase (portsNeeded false [r]) = 0 := by
      simp [portsAsked, portsNeeded, native]
    refine ⟨List.forall_mem_nil _, iff_of_true .nil (.inr ?_)⟩
    rw [none]
    exact fun n asked => absurd asked (Nat.not_lt_zero n)
  · obtain ⟨hops', made, same, -⟩ := compile_planned h planned.notFull
    obtain ⟨⟨supply', hands⟩, count⟩ := hands_of_planHops made
    rw [same, Compiled.nodup_ports_iff, hands.nodup_iff lawful, count]
    refine ⟨fun port mem => ?_, .rfl⟩
    exact hands.nonzero lawful port (Compiled.mem_handedOut_of_mem_ports mem)

/-- A chain of two helpers takes the last port and two that the system gives. -/
theorem compile_nodup_ports_iff_pastTheLast :
    (twoPorts 40001 40003).Lawful ∧ ∃ compiled,
      compile (twoPorts 40001 40003) helperBehindHelper { cacheDir := "", helperPortBase := 65535 } false
          = .ok compiled ∧
        (∀ port ∈ compiled.ports, port ≠ 0) ∧ compiled.ports.Nodup := by
  have lawful : (twoPorts 40001 40003).Lawful := lawful_twoPorts (by decide) (by decide) (by decide)
  have compiles : compile (twoPorts 40001 40003) helperBehindHelper
      { cacheDir := "", helperPortBase := 65535 } false = .ok _ := rfl
  obtain ⟨nonzero, nodup⟩ := compile_nodup_ports_iff lawful compiles
  refine ⟨lawful, _, compiles, nonzero, nodup.2 (.inr ?_)⟩
  intro n asked port given
  have twice : portsAsked 65535 (portsNeeded false helperBehindHelper) = 2 := by decide
  change n < portsAsked 65535 (portsNeeded false helperBehindHelper) at asked
  rw [twice] at asked
  match n, asked with
  | 0, _ => cases given; decide
  | 1, _ => cases given; decide

/-- The last port is counted, nobody listens on it yet, and the system gives it once more. -/
theorem compile_not_nodup_ports :
    (twoPorts 65535 40001).Lawful ∧ ∃ compiled,
      compile (twoPorts 65535 40001) helperBehindHelper { cacheDir := "", helperPortBase := 65535 } false
          = .ok compiled ∧
        compiled.ports = [65535, 65535, 40001] ∧ ¬ compiled.ports.Nodup := by
  have lawful : (twoPorts 65535 40001).Lawful := lawful_twoPorts (by decide) (by decide) (by decide)
  exact ⟨lawful, _, rfl, by decide, by decide⟩

end ProxyChain
