import ProxyChain.Proofs.Chain.Reference
import ProxyChain.Proofs.Chain.Relay

/-!
# Traffic is accounted for hop by hop

The core counts traffic by tags. The tag of a hop ends in its place, so that no two hops have the same
one, even if their records have the same id or are the same record, and neither have two outbounds or
two inbounds of a generated configuration (`KeptApart`). The map from tags to records is filled hop by
hop and forgets what a tag held before; so it forgets nothing and has one entry for every hop
(`compile_keptApart`).
-/

namespace ProxyChain

/-- Where a chain needs a port that is forwarded to a server: at every hop behind others that needs a
helper. -/
def isForwarded (hop : Record × Nat) : Bool := 0 < hop.2 && hop.1.profile.needsHelper

/-- The tags of the forwarding inbounds of a chain. -/
def relayTags (chain : List Record) : List String :=
  (chain.zipIdx.filter isForwarded).map fun (r, i) => hopTag r i ++ "-upstream"

/-- The tags of the inbounds for a chain, the local one first. -/
def inboundTags (chain : List Record) (forTest : Bool) : List String :=
  (if forTest then [] else [mixedTag]) ++ relayTags chain

/-- Nothing that has a tag in the document for a chain, and nothing in the map from tags to records, is
taken for anything else. -/
structure KeptApart (chain : List Record) (forTest : Bool) (doc : Json)
    (traffic : Table String (List Int64)) : Prop where
  hops : (hopTags chain).Nodup
  direct : directTag ∉ hopTags chain
  /-- No two outbounds carry the same tag. -/
  outbounds : ((doc.itemsAt "outbounds").filterMap fun outbound => outbound.textAt? "tag").Nodup
  inbounds : (doc.itemsAt "inbounds").map (fun inbound => inbound.textAt? "tag")
    = (inboundTags chain forTest).map some
  inboundsApart : (inboundTags chain forTest).Nodup
  /-- Every hop has an entry of its own, and there are no others. -/
  entries : traffic.Perm (chain.mapIdx fun i r => (hopTag r i, [r.id]))
  keys : traffic.keys.Nodup
  /-- Under the tag of a hop stands the id of its record alone. -/
  counted : ∀ (i : Nat) (h : i < chain.length),
    traffic.get? (hopTag chain[i] i) = some [chain[i].id]

/-- No hop goes by the tag of the direct outbound. -/
lemma directTag_notMem_hopTags (chain : List Record) : directTag ∉ hopTags chain := by
  intro mem
  obtain ⟨i, inChain, same⟩ := List.mem_mapIdx.1 mem
  exact hopTag_ne_directTag _ _ same

/-- The inbounds of a core go by different tags. -/
lemma nodup_inboundTags (chain : List Record) (forTest : Bool) : (inboundTags chain forTest).Nodup := by
  have forwarded : (relayTags chain).Nodup := by
    have tags : ((hopTags chain).map (· ++ "-upstream")).Nodup :=
      (nodup_hopTags chain).map fun _ _ => (String.append_left_inj "-upstream").1
    rw [hopTags, List.mapIdx_eq_zipIdx_map, List.map_map] at tags
    exact tags.sublist (List.filter_sublist.map _)
  refine List.nodup_append'.2 ⟨?_, forwarded, ?_⟩
  · cases forTest with
    | true => exact List.nodup_nil
    | false => exact List.nodup_singleton mixedTag
  · intro tag mem mem'
    cases forTest with
    | true => cases mem
    | false =>
      obtain rfl := List.mem_singleton.1 mem
      obtain ⟨⟨r, i⟩, -, same⟩ := List.mem_map.1 mem'
      exact Hop.relayTag_ne_mixedTag ⟨r, i, none, .core .null⟩ same

/-- What some of the things in a list give is among what all of them give. -/
lemma sublist_filterMap {α β : Type} {xs : List α} {give? : α → Option β} {give : α → β}
    (agree : ∀ x ∈ xs, ∀ y, give? x = some y → give x = y) :
    (xs.filterMap give?).Sublist (xs.map give) := by
  induction xs with
  | nil => exact .slnil
  | cons x xs ih =>
    have others := ih fun y mem => agree y (List.mem_cons_of_mem _ mem)
    rw [List.map_cons]
    cases given : give? x with
    | none =>
      rw [List.filterMap_cons_none given]
      exact others.cons _
    | some y =>
      rw [List.filterMap_cons_some given, agree x List.mem_cons_self y given]
      exact others.cons_cons y

namespace Planned

variable {s : Settings} {chain : List Record} {hops : List Hop}

/-- Hops have the tags and the records of their places. -/
lemma map_tag_record {α : Type} (p : Planned s 0 none chain hops) (f : String → Record → α) :
    hops.map (fun h => f h.tag h.record) = chain.mapIdx fun i r => f (hopTag r i) r := by
  rw [← p.records]
  apply List.ext_getElem
  · simp
  · intro i h h'
    simp [p.tag_eq (by simpa using h)]

/-- The hops are planned under the tags of the chain. -/
lemma tags_eq (p : Planned s 0 none chain hops) : hops.map Hop.tag = hopTags chain :=
  p.map_tag_record fun tag _ => tag

/-- Every inbound behind the local one forwards for a hop behind others that needs a helper. -/
lemma map_tag_forward? {index : Nat} {previous : Option String}
    (p : Planned s index previous chain hops) (behind : previous.isSome = decide (0 < index)) :
    (hops.filterMap Hop.forward?).map Inbound.tag
      = ((chain.zipIdx index).filter isForwarded).map fun (r, i) => hopTag r i ++ "-upstream" := by
  induction p with
  | nil => rfl
  | @cons index previous record carrier records hops _ carries _ ih =>
    have others := ih (by simp)
    rw [List.zipIdx_cons, List.filter_cons]
    cases carries with
    | core native _ =>
      rw [if_neg (by simp [isForwarded, native]), ← others]
      rfl
    | @helper ports needs relay =>
      rw [behind] at relay
      cases given : ports.relay with
      | none =>
        rw [given] at relay
        rw [if_neg (by simp [isForwarded, ← relay]), ← others]
        simp [Hop.forward?, Hop.ports?, given]
      | some port =>
        rw [given] at relay
        rw [if_pos (by simp [isForwarded, needs, ← relay]), List.map_cons, ← others]
        simp [Hop.forward?, Hop.ports?, given, Inbound.tag, Hop.relayTag, Hop.tag]

/-- The inbounds of a generated configuration are told apart by their tags. -/
lemma tags_inbounds {c : CoreConfig} (p : Planned s 0 none chain c.hops) {forTest : Bool}
    (mixed : c.mixedPort = if forTest then none else some s.mixedPort) :
    (c.toJson.itemsAt "inbounds").map (fun inbound => inbound.textAt? "tag")
      = (inboundTags chain forTest).map some := by
  have forwards := p.map_tag_forward? rfl
  rw [CoreConfig.itemsAt_inbounds, List.map_map, inboundTags, relayTags, ← forwards,
    CoreConfig.inbounds, mixed]
  cases forTest <;> simp [Inbound.textAt?_tag_toJson, Inbound.tag]

/-- The tags that outbounds carry are those of hops, in order, and that of the direct one. -/
lemma sublist_tags_outbounds {c : CoreConfig} (p : Planned s 0 none chain c.hops) :
    (c.outbounds.filterMap fun outbound => outbound.textAt? "tag").Sublist
      (hopTags chain ++ [directTag]) := by
  rw [CoreConfig.outbounds, List.filterMap_append, List.filterMap_map, ← p.tags_eq]
  refine List.Sublist.append (sublist_filterMap ?_) ?_
  · intro h mem tag carried
    exact (((p.carries mem).textAt?_tag_outbound tag).1 carried).1
  · simp [CoreConfig.textAt?_tag_directOutbound]

/-- Every hop is noted, and nothing is forgotten. -/
lemma trafficMap_eq (p : Planned s 0 none chain hops) (forTest : Bool) :
    (Compiled.ofHops s forTest hops).trafficMap
      = (chain.mapIdx fun i r => (hopTag r i, [r.id])).reverse := by
  have noted := Table.foldl_set (t := []) (fun h : Hop => [h.record.id]) p.nodup_tags
    fun _ _ => List.not_mem_nil
  have entries := p.map_tag_record fun tag r => (tag, [r.id])
  rw [List.append_nil, entries] at noted
  exact noted

end Planned

/-- In a generated configuration nothing is taken for anything else by its tag, and the traffic of every
hop is counted for its own record. -/
theorem compile_keptApart {system : SystemPorts} {chain : List Record} {s : Settings} {forTest : Bool}
    {compiled : Compiled} {config : CoreConfig} (h : compile system chain s forTest = .ok compiled)
    (generated : compiled.document = .generated config) :
    KeptApart chain forTest config.toJson compiled.trafficMap := by
  obtain ⟨r, text, -, -, rfl⟩ | ⟨hops, -, planned, rfl⟩ := compile_cases h
  · cases generated
  · cases generated
    have entries := planned.trafficMap_eq forTest
    have tags : (hopTags chain ++ [directTag]).Nodup := by
      refine List.nodup_append'.2 ⟨nodup_hopTags chain, List.nodup_singleton _, ?_⟩
      rw [List.disjoint_singleton]
      exact directTag_notMem_hopTags chain
    have keys : (Compiled.ofHops s forTest hops).trafficMap.keys.Nodup := by
      have tagged : (chain.mapIdx fun i r => (hopTag r i, [r.id])).map Prod.fst = hopTags chain :=
        List.ext_getElem (by simp [hopTags]) (by simp [hopTags])
      rw [entries, Table.keys, List.map_reverse, List.nodup_reverse, tagged]
      exact nodup_hopTags chain
    refine ⟨nodup_hopTags chain, directTag_notMem_hopTags chain, ?outbounds, ?inbounds,
      nodup_inboundTags chain forTest, ?entries, keys, ?counted⟩
    case outbounds =>
      rw [CoreConfig.itemsAt_outbounds]
      exact tags.sublist planned.sublist_tags_outbounds
    case inbounds => exact planned.tags_inbounds rfl
    case entries =>
      rw [entries]
      exact List.reverse_perm _
    case counted =>
      intro i inChain
      refine Table.get?_of_mem keys ?_
      rw [entries, List.mem_reverse, List.mem_mapIdx]
      exact ⟨i, inChain, rfl⟩

/-- One record three times, with a negative id. -/
def sameRecordThrice : List Record :=
  List.replicate 3 { id := -1, uuid := "", profile := ⟨{}, .naive {}⟩ }

/-- Even then every hop has a tag and an entry of its own. -/
theorem compile_keptApart_sameRecordThrice :
    hopTags sameRecordThrice = ["proxy--1-0", "proxy--1-1", "proxy--1-2"] ∧
      relayTags sameRecordThrice = ["proxy--1-1-upstream", "proxy--1-2-upstream"] ∧
      ∃ compiled config,
        compile (fun _ => .error "") sameRecordThrice { cacheDir := "", helperPortBase := 41000 } false
            = .ok compiled ∧
          compiled.document = .generated config ∧
          KeptApart sameRecordThrice false config.toJson compiled.trafficMap := by
  have compiles : compile (fun _ => .error "") sameRecordThrice
      { cacheDir := "", helperPortBase := 41000 } false = .ok _ := rfl
  exact ⟨by decide +kernel, by decide +kernel, _, _, compiles, rfl, compile_keptApart compiles rfl⟩

end ProxyChain
