import ProxyChain.Proofs.Chain.Plan

/-!
# The ports of helpers

The table of relays is filled hop by hop and forgets what a port held before, so that it says what was
planned only if no two helpers listen on the same port. Then it finds the relay of every helper
(`relay?_ofHops`), and the ports of a compiled chain are those that its helpers listen on and those that
they dial (`ports_ofHops`).
-/

namespace ProxyChain

namespace Table

variable {κ α : Type} [BEq κ] [LawfulBEq κ] {t : Table κ α} {key : κ} {value : α}

/-- There is nothing under a key that is not among those of the table. -/
lemma get?_of_notMem (h : key ∉ t.keys) : t.get? key = none := by
  induction t with
  | nil => rfl
  | cons entry t ih =>
    have other : ¬(key == entry.1) = true := fun same =>
      h (beq_iff_eq.1 same ▸ List.mem_cons_self)
    rw [get?_cons, if_neg other]
    exact ih fun mem => h (List.mem_cons_of_mem _ mem)

/-- If the keys are distinct, each holds the value it stands with. -/
lemma get?_of_mem (distinct : t.keys.Nodup) (mem : (key, value) ∈ t) :
    t.get? key = some value := by
  induction t with
  | nil => cases mem
  | cons entry t ih =>
    obtain ⟨fresh, distinct⟩ := List.nodup_cons.1 distinct
    rw [get?_cons]
    rcases List.mem_cons.1 mem with rfl | mem
    · rw [if_pos (beq_self_eq_true key)]
    · have other : ¬(key == entry.1) = true := fun same =>
        fresh (beq_iff_eq.1 same ▸ List.mem_map_of_mem mem)
      rw [if_neg other, ih distinct mem]

/-- What is set under a new key is put in front. -/
lemma set_of_notMem (h : key ∉ t.keys) : t.set key value = (key, value) :: t := by
  have kept : t.erase key = t := by
    apply List.filter_eq_self.2
    intro entry mem
    have other : entry.1 ≠ key := fun same => h (same ▸ List.mem_map_of_mem mem)
    simpa using other
  rw [set, kept]

/-- Things with different keys are noted one on top of the other, and nothing is forgotten. -/
lemma foldl_set {ι : Type} {xs : List ι} {keyOf : ι → κ} (valueOf : ι → α)
    (distinct : (xs.map keyOf).Nodup) (fresh : ∀ x ∈ xs, keyOf x ∉ t.keys) :
    xs.foldl (fun noted x => noted.set (keyOf x) (valueOf x)) t
      = (xs.map fun x => (keyOf x, valueOf x)).reverse ++ t := by
  -- What is noted so far stays free of the keys that are still to come.
  induction xs generalizing t with
  | nil => rfl
  | cons x xs ih =>
    obtain ⟨first, distinct⟩ := List.nodup_cons.1 distinct
    have stillFresh : ∀ y ∈ xs, keyOf y ∉ Table.keys ((keyOf x, valueOf x) :: t) := by
      intro y mem memKeys
      rcases List.mem_cons.1 memKeys with same | memKeys
      · exact first (List.mem_map.2 ⟨y, mem, same⟩)
      · exact fresh y (List.mem_cons_of_mem _ mem) memKeys
    rw [List.foldl_cons, set_of_notMem (fresh x List.mem_cons_self), ih distinct stillFresh,
      List.map_cons, List.reverse_cons, List.append_assoc, List.singleton_append]

end Table

/-- The relays of helpers, by the ports they listen on. -/
def Helper.relayPairs (ports : List Helper.Ports) : Table UInt16 UInt16 :=
  ports.filterMap fun p => p.relay.map fun relay => (p.listen, relay)

/-- The ports of the helpers of hops. -/
def Hop.helperPorts (hops : List Hop) : List Helper.Ports := hops.filterMap Hop.ports?

/-- The relays of the helpers of hops. -/
def Hop.relayPorts (hops : List Hop) : List UInt16 := (Hop.helperPorts hops).filterMap (·.relay)

/-- The ports with relays are among those that helpers listen on. -/
lemma Helper.mem_listens_of_mem_relayPairs {ports : List Helper.Ports} {listen : UInt16}
    (mem : listen ∈ (Helper.relayPairs ports).keys) : listen ∈ ports.map (·.listen) := by
  obtain ⟨⟨listen', relay⟩, memPairs, rfl⟩ := List.mem_map.1 mem
  obtain ⟨p, memPorts, made⟩ := List.mem_filterMap.1 memPairs
  obtain ⟨relay', -, same⟩ := Option.map_eq_some_iff.1 made
  cases same
  exact List.mem_map_of_mem memPorts

/-- The helpers with a relay listen on distinct ports if all helpers do. -/
lemma Helper.nodup_keys_relayPairs {ports : List Helper.Ports}
    (distinct : (ports.map (·.listen)).Nodup) : (Helper.relayPairs ports).keys.Nodup := by
  induction ports with
  | nil => exact List.nodup_nil
  | cons p ports ih =>
    obtain ⟨fresh, distinct⟩ := List.nodup_cons.1 distinct
    cases relay : p.relay with
    | none =>
      have skipped : relayPairs (p :: ports) = relayPairs ports := by
        simp only [relayPairs, List.filterMap_cons, relay, Option.map_none]
      rw [skipped]
      exact ih distinct
    | some port =>
      have added : relayPairs (p :: ports) = (p.listen, port) :: relayPairs ports := by
        simp only [relayPairs, List.filterMap_cons, relay, Option.map_some]
      rw [added]
      exact List.nodup_cons.2 ⟨fun mem => fresh (mem_listens_of_mem_relayPairs mem), ih distinct⟩

namespace ExternalChain

/-- Only the helpers with a relay are noted. -/
lemma foldl_relays (ports : List Helper.Ports) (noted : Table UInt16 UInt16) :
    ports.foldl (fun relays ports =>
      match ports.relay with
      | some relay => Table.set relays ports.listen relay
      | none => relays) noted
      = (Helper.relayPairs ports).foldl (fun noted pair => noted.set pair.1 pair.2) noted := by
  induction ports generalizing noted with
  | nil => rfl
  | cons p ports ih =>
    rw [List.foldl_cons, ih, Helper.relayPairs, Helper.relayPairs, List.filterMap_cons]
    cases p.relay <;> rfl

/-- If all helpers listen on distinct ports, every relay stays noted. -/
lemma relays_ofHops {hops : List Hop} (distinct : ((Hop.helperPorts hops).map (·.listen)).Nodup) :
    (ofHops hops).relays = (Helper.relayPairs (Hop.helperPorts hops)).reverse := by
  have noted := Table.foldl_set (t := []) Prod.snd
    (Helper.nodup_keys_relayPairs distinct) fun _ _ => List.not_mem_nil
  rw [List.map_id', List.append_nil] at noted
  exact (foldl_relays _ _).trans noted

/-- The entries of the index are those of the ports that helpers listen on. -/
lemma listens_ofHops (hops : List Hop) :
    (ofHops hops).entries.map Prod.fst = (Hop.helperPorts hops).map (·.listen) := by
  induction hops with
  | nil => rfl
  | cons h hops ih =>
    cases ports : h.ports? with
    | none =>
      simp only [ofHops, Hop.helperPorts, List.filterMap_cons, ports, Option.map_none] at ih ⊢
      exact ih
    | some ports' =>
      simp only [ofHops, Hop.helperPorts, List.filterMap_cons, ports, Option.map_some] at ih ⊢
      rw [List.map_cons, List.map_cons, ih]

/-- The relay of every helper is found, and none where there is none. -/
theorem relay?_ofHops {hops : List Hop} (distinct : ((Hop.helperPorts hops).map (·.listen)).Nodup)
    {h : Hop} (mem : h ∈ hops) {ports : Helper.Ports} (helper : h.ports? = some ports) :
    (ofHops hops).relay? ports.listen = ports.relay := by
  have memPorts : ports ∈ Hop.helperPorts hops := List.mem_filterMap.2 ⟨h, mem, helper⟩
  have keys := Helper.nodup_keys_relayPairs distinct
  rw [relay?, relays_ofHops distinct]
  cases relay : ports.relay with
  | some port =>
    apply Table.get?_of_mem
    · rw [Table.keys, List.map_reverse, List.nodup_reverse]
      exact keys
    · exact List.mem_reverse.2 (List.mem_filterMap.2 ⟨ports, memPorts, by rw [relay]; rfl⟩)
  | none =>
    apply Table.get?_of_notMem
    rw [Table.keys, List.map_reverse, List.mem_reverse]
    intro memKeys
    obtain ⟨⟨listen, port⟩, memPairs, same⟩ := List.mem_map.1 memKeys
    obtain ⟨q, memPorts', made⟩ := List.mem_filterMap.1 memPairs
    obtain ⟨port', relay', pair⟩ := Option.map_eq_some_iff.1 made
    cases pair
    obtain rfl := List.inj_on_of_nodup_map distinct memPorts' memPorts same
    rw [relay] at relay'
    cases relay'

/-- A helper is rendered for the ports that were planned for it. -/
lemma ports_ofHops {hops : List Hop} (distinct : ((Hop.helperPorts hops).map (·.listen)).Nodup)
    {h : Hop} (mem : h ∈ hops) {ports : Helper.Ports} (helper : h.ports? = some ports) :
    (ofHops hops).ports ports.listen = ports := by
  rw [ExternalChain.ports, relay?_ofHops distinct mem helper]

end ExternalChain

namespace Compiled

variable {s : Settings} {forTest : Bool} {hops : List Hop}

/-- If the ports handed out are distinct, the helpers listen on distinct ports. -/
lemma nodup_listens (distinct : (ofHops s forTest hops).ports.Nodup) :
    ((Hop.helperPorts hops).map (·.listen)).Nodup := by
  rw [← ExternalChain.listens_ofHops]
  simp only [ofHops, ports, List.flatMap_cons, List.flatMap_nil, List.append_nil] at distinct
  exact distinct.of_append_left

/-- The ports of a compiled chain are those that its helpers listen on and those that they dial. -/
lemma ports_ofHops (distinct : ((Hop.helperPorts hops).map (·.listen)).Nodup) :
    (ofHops s forTest hops).ports
      = (Hop.helperPorts hops).map (·.listen) ++ (Hop.relayPorts hops).reverse := by
  have relays : ((Helper.relayPairs (Hop.helperPorts hops)).map Prod.snd) = Hop.relayPorts hops := by
    rw [Helper.relayPairs, List.map_filterMap]
    simp only [Option.map_map, Function.comp_def, Option.map_id', Hop.relayPorts]
  simp only [ofHops, ports, List.flatMap_cons, List.flatMap_nil, List.append_nil]
  rw [ExternalChain.listens_ofHops, ExternalChain.relays_ofHops distinct, List.map_reverse, relays]

/-- The relays of helpers with distinct ports are distinct. -/
lemma nodup_relayPorts (distinct : (ofHops s forTest hops).ports.Nodup) :
    (Hop.relayPorts hops).Nodup := by
  rw [ports_ofHops (nodup_listens distinct)] at distinct
  exact List.nodup_reverse.1 distinct.of_append_right

/-- The ports of relays are among all ports. -/
lemma mem_ports_of_mem_relayPorts (distinct : (ofHops s forTest hops).ports.Nodup) {port : UInt16}
    (mem : port ∈ Hop.relayPorts hops) : port ∈ (ofHops s forTest hops).ports := by
  rw [ports_ofHops (nodup_listens distinct)]
  exact List.mem_append_right _ (List.mem_reverse.2 mem)

end Compiled

end ProxyChain
