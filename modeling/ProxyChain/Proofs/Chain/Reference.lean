import ProxyChain.Proofs.Chain.Document

/-!
# Closure under reference

A generated configuration refers to outbounds by their tags: traffic leaves through one, rules send
traffic to one, and each hop that the core runs detours through the one before. `ReferencesClosed`
says that every such tag is that of exactly one outbound. It holds of a generated configuration if and
only if every raw outbound of its chain is an object (`referencesClosed_iff`), for only an object can be
given a tag, and compiling accepts any JSON.
-/

namespace ProxyChain

/-- Exactly one outbound of a document has the tag. -/
def Json.Resolves (doc : Json) (tag : String) : Prop :=
  ∃ outbound, doc.outboundsTagged tag = [outbound]

/-- Everything in the document for a chain that names an outbound names exactly one. -/
structure ReferencesClosed (chain : List Record) (doc : Json) : Prop where
  /-- Every hop contributes one outbound, at its place, and no other one has its tag. -/
  hop : ∀ (i : Nat) (h : i < chain.length), ∃ outbound,
    (doc.itemsAt "outbounds")[i]? = some outbound ∧
      doc.outboundsTagged (hopTag chain[i] i) = [outbound]
  /-- Traffic leaves through an outbound. -/
  final : ∃ tag, doc.finalTag? = some tag ∧ doc.Resolves tag
  /-- Every rule sends its traffic to an outbound. -/
  rule : ∀ rule ∈ doc.routeRules, ∃ tag, rule.textAt? "outbound" = some tag ∧ doc.Resolves tag
  /-- Every hop that the core runs detours through the outbound of the hop before. -/
  detour : ∀ (i : Nat) (h : i + 1 < chain.length), chain[i + 1].profile.needsHelper = false →
    ∃ outbound, (doc.itemsAt "outbounds")[i + 1]? = some outbound ∧
      outbound.textAt? "detour" = some (hopTag chain[i] i) ∧ doc.Resolves (hopTag chain[i] i)

/-- In a document that is closed under reference traffic leaves through some outbound. -/
lemma ReferencesClosed.outboundsTagged_ne_nil {chain : List Record} {doc : Json}
    (closed : ReferencesClosed chain doc) {tag : String} (final : doc.finalTag? = some tag) :
    doc.outboundsTagged tag ≠ [] := by
  obtain ⟨tag', final', outbound, tagged⟩ := closed.final
  obtain rfl := Option.some.inj (final.symm.trans final')
  rw [tagged]
  exact List.cons_ne_nil _ _

/-- Whether the outbound of a profile is an object: the text of a raw configuration may be any JSON. -/
def Profile.HoldsObject (p : Profile) : Prop :=
  ∀ raw, p.variant = .config raw → ∃ members, Json.parse raw.text = .ok (.object members)

/-- The outbound of a profile that the core runs is an object unless it is some other raw JSON. -/
lemma Profile.holdsObject_iff {p : Profile} {s : Settings} {outbound : Json}
    (built : p.toOutbound s = .ok outbound) :
    p.HoldsObject ↔ ∃ members, outbound = .object members := by
  unfold toOutbound at built
  cases variant : p.variant with
  | config raw =>
    rw [variant] at built
    simp only at built
    cases parsed : Json.parse raw.text with
    | error e => rw [parsed] at built; cases built
    | ok document =>
      rw [parsed] at built
      cases built
      constructor
      · intro holds
        obtain ⟨members, object⟩ := holds raw variant
        rw [parsed] at object
        exact ⟨members, Except.ok.inj object⟩
      · rintro ⟨members, rfl⟩ raw' same
        cases variant.symm.trans same
        exact ⟨members, parsed⟩
  | naive settings => rw [variant] at built; cases built
  | _ =>
    rw [variant] at built
    cases built
    refine iff_of_true ?_ ⟨_, rfl⟩
    intro raw other
    cases variant.symm.trans other

/-- A profile that needs a helper has no raw outbound that might be no object. -/
lemma Profile.holdsObject_of_needsHelper {p : Profile} (needs : p.needsHelper = true) :
    p.HoldsObject := by
  intro raw variant
  simp [needsHelper, variant] at needs

/-- The outbound of a hop has the hop's tag or none, and it has none exactly when it is no object. -/
lemma Carries.textAt?_tag_outbound {s : Settings} {behind : Bool} {h : Hop}
    (carries : Carries s behind h.record h.carrier) (tag : String) :
    h.outbound.textAt? "tag" = some tag ↔ h.tag = tag ∧ h.record.profile.HoldsObject := by
  obtain ⟨record, index, previous, carrier⟩ := h
  cases carries with
  | helper needs relay =>
    rw [Hop.outbound, Hop.textAt?_tag_socks, Option.some_inj]
    exact (and_iff_left (Profile.holdsObject_of_needsHelper needs)).symm
  | @core outbound native built =>
    rw [Profile.holdsObject_iff built, Hop.outbound]
    cases outbound with
    | object members =>
      rw [Hop.textAt?_tag_label, Option.some_inj]
      exact (and_iff_left ⟨members, rfl⟩).symm
    | _ =>
      refine iff_of_false (fun found => ?_) (fun object => ?_)
      · cases found
      · obtain ⟨-, members, object⟩ := object
        cases object

namespace Planned

variable {s : Settings} {chain : List Record} {c : CoreConfig}

/-- The hop at a place is the one for the record there. -/
lemma record_eq (p : Planned s 0 none chain c.hops) {i : Nat} (h : i < c.hops.length)
    (h' : i < chain.length) : c.hops[i].record = chain[i] := by
  have records := p.records
  subst records
  exact (List.getElem_map Hop.record).symm

/-- The hop at a place goes by the tag of the record there. -/
lemma tag_eq_hopTag (p : Planned s 0 none chain c.hops) {i : Nat} (h : i < c.hops.length)
    (h' : i < chain.length) : c.hops[i].tag = hopTag chain[i] i := by
  rw [p.tag_eq h, p.record_eq h h']

/-- If every outbound of a hop is an object, the tags of the outbounds are those of the hops and that
of the direct one. -/
lemma tags_outbounds (p : Planned s 0 none chain c.hops)
    (objects : ∀ r ∈ chain, r.profile.HoldsObject) :
    c.outbounds.map (fun outbound => outbound.textAt? "tag")
      = c.hops.map (fun h => some h.tag) ++ [some directTag] := by
  rw [CoreConfig.outbounds, List.map_append, List.map_map, List.map_singleton,
    CoreConfig.textAt?_tag_directOutbound]
  congr 1
  apply List.map_congr_left
  intro h mem
  have holds : h.record.profile.HoldsObject :=
    objects h.record (p.records ▸ List.mem_map_of_mem mem)
  exact ((p.carries mem).textAt?_tag_outbound h.tag).2 ⟨rfl, holds⟩

/-- The outbounds go by different tags. -/
lemma nodup_tags_outbounds (p : Planned s 0 none chain c.hops)
    (objects : ∀ r ∈ chain, r.profile.HoldsObject) :
    (c.outbounds.map fun outbound => outbound.textAt? "tag").Nodup := by
  rw [p.tags_outbounds objects]
  refine List.nodup_append'.2 ⟨?_, List.nodup_singleton _, ?_⟩
  · have tags := p.nodup_tags.map fun _ _ => Option.some.inj
    rwa [List.map_map] at tags
  · rw [List.disjoint_singleton]
    intro mem
    obtain ⟨h, -, same⟩ := List.mem_map.1 mem
    exact hopTag_ne_directTag _ _ (Option.some.inj same)

/-- The only outbound with the tag of a hop is the hop's. -/
lemma outboundsTagged_eq (p : Planned s 0 none chain c.hops)
    (objects : ∀ r ∈ chain, r.profile.HoldsObject) {h : Hop} (mem : h ∈ c.hops) :
    c.toJson.outboundsTagged h.tag = [h.outbound] := by
  have tagged : h.outbound.textAt? "tag" = some h.tag := by
    have holds := objects h.record (p.records ▸ List.mem_map_of_mem mem)
    exact ((p.carries mem).textAt?_tag_outbound h.tag).2 ⟨rfl, holds⟩
  have memOutbounds : h.outbound ∈ c.outbounds :=
    List.mem_append_left _ (List.mem_map_of_mem mem)
  have found := filter_key_eq (p.nodup_tags_outbounds objects) memOutbounds
  rw [tagged, ← c.itemsAt_outbounds] at found
  exact found

/-- The outbound of a hop stands at the hop's place. -/
lemma getElem?_outbounds {i : Nat} (h : i < c.hops.length) :
    (c.toJson.itemsAt "outbounds")[i]? = some c.hops[i].outbound := by
  rw [c.itemsAt_outbounds, CoreConfig.outbounds, List.getElem?_append_left (by simpa using h),
    List.getElem?_map, List.getElem?_eq_getElem h, Option.map_some]

/-- An outbound with the tag of a hop is an object made by that very hop. -/
lemma holdsObject_of_tagged (p : Planned s 0 none chain c.hops) {i : Nat} (h : i < c.hops.length)
    {outbound : Json} (mem : outbound ∈ c.toJson.outboundsTagged c.hops[i].tag) :
    c.hops[i].record.profile.HoldsObject := by
  rw [Json.outboundsTagged, c.itemsAt_outbounds, List.mem_filter, beq_iff_eq] at mem
  obtain ⟨memOutbounds, tagged⟩ := mem
  -- Hops elsewhere have other tags, and the direct outbound has that of no hop.
  rcases List.mem_append.1 memOutbounds with ofHop | direct
  · obtain ⟨hop, memHops, rfl⟩ := List.mem_map.1 ofHop
    obtain ⟨j, hj, rfl⟩ := List.getElem_of_mem memHops
    obtain ⟨same, holds⟩ := ((p.carries memHops).textAt?_tag_outbound _).1 tagged
    obtain rfl := p.tag_inj same
    exact holds
  · obtain rfl := List.mem_singleton.1 direct
    rw [CoreConfig.textAt?_tag_directOutbound] at tagged
    exact absurd (Option.some.inj tagged).symm (hopTag_ne_directTag _ _)

/-- A hop that stands behind another one is told its tag. -/
lemma exists_previous (p : Planned s 0 none chain c.hops) {h : Hop} (mem : h ∈ c.hops) {tag : String}
    (previous : h.previous = some tag) : ∃ h' ∈ c.hops, h'.tag = tag := by
  obtain ⟨i, hi, rfl⟩ := List.getElem_of_mem mem
  cases i with
  | zero =>
    rw [p.previous_zero hi] at previous
    cases previous
  | succ i =>
    rw [p.previous_succ hi] at previous
    exact ⟨c.hops[i], List.getElem_mem _, Option.some.inj previous⟩

/-- The tag of every hop leads to its outbound. -/
lemma resolves (p : Planned s 0 none chain c.hops) (objects : ∀ r ∈ chain, r.profile.HoldsObject)
    {h : Hop} (mem : h ∈ c.hops) : c.toJson.Resolves h.tag :=
  ⟨h.outbound, p.outboundsTagged_eq objects mem⟩

/-- A hop that the core runs detours through the hop before, if the outbounds are objects. -/
lemma textAt?_detour_outbound (p : Planned s 0 none chain c.hops)
    (objects : ∀ r ∈ chain, r.profile.HoldsObject) {h : Hop} (mem : h ∈ c.hops)
    (native : h.record.profile.needsHelper = false) {tag : String} (previous : h.previous = some tag) :
    h.outbound.textAt? "detour" = some tag := by
  have holds := objects h.record (p.records ▸ List.mem_map_of_mem mem)
  have carries := p.carries mem
  obtain ⟨record, index, previous', carrier⟩ := h
  obtain rfl : previous' = some tag := previous
  cases carries with
  | helper needs relay =>
    rw [native] at needs
    cases needs
  | core _ built =>
    obtain ⟨members, rfl⟩ := (Profile.holdsObject_iff built).1 holds
    rw [Hop.outbound, Json.textAt?, Hop.at?_detour_label]
    rfl

/-- What no rule is about goes to the last hop. -/
lemma final_eq (nonempty : c.hops ≠ []) : c.final = (c.hops.getLast nonempty).tag := by
  rw [CoreConfig.final, List.getLast?_eq_some_getLast nonempty]
  rfl

/-- The generated configuration of a chain is closed under reference if and only if every raw outbound
is an object. -/
theorem referencesClosed_iff (p : Planned s 0 none chain c.hops) (nonempty : chain ≠ []) :
    ReferencesClosed chain c.toJson ↔ ∀ r ∈ chain, r.profile.HoldsObject := by
  have length := p.length_eq
  constructor
  · intro closed r mem
    obtain ⟨i, hi, rfl⟩ := List.getElem_of_mem mem
    have hi' : i < c.hops.length := by omega
    -- Some outbound has the tag of the hop, and only an object of the hop's own could be given it.
    obtain ⟨outbound, -, tagged⟩ := closed.hop i hi
    rw [← p.tag_eq_hopTag hi' hi] at tagged
    rw [← p.record_eq hi' hi]
    exact p.holdsObject_of_tagged hi' (tagged ▸ List.mem_singleton_self outbound)
  · intro objects
    refine ⟨?hop, ?final, ?rule, ?detour⟩
    case hop =>
      intro i hi
      have hi' : i < c.hops.length := by omega
      rw [← p.tag_eq_hopTag hi' hi]
      exact ⟨_, getElem?_outbounds hi', p.outboundsTagged_eq objects (List.getElem_mem hi')⟩
    case final =>
      have hops : c.hops ≠ [] := by
        intro none
        rw [none] at length
        exact nonempty (List.eq_nil_of_length_eq_zero length.symm)
      refine ⟨c.final, c.finalTag?_toJson, ?_⟩
      rw [final_eq hops]
      exact p.resolves objects (List.getLast_mem hops)
    case rule =>
      intro rule mem
      rw [c.routeRules_toJson] at mem
      obtain ⟨r, memRules, rfl⟩ := List.mem_map.1 mem
      obtain ⟨h, memHops, made⟩ := List.mem_filterMap.1 memRules
      refine ⟨r.outbound, r.textAt?_toJson, ?_⟩
      obtain ⟨h', memHops', same⟩ := p.exists_previous memHops (Hop.of_rule? made).2
      exact same ▸ p.resolves objects memHops'
    case detour =>
      intro i hi native
      have hi' : i + 1 < c.hops.length := by omega
      have before : i < c.hops.length := by omega
      rw [← p.record_eq hi' hi] at native
      rw [← p.tag_eq_hopTag before]
      exact ⟨_, getElem?_outbounds hi',
        p.textAt?_detour_outbound objects (List.getElem_mem hi') native (p.previous_succ hi'),
        p.resolves objects (List.getElem_mem before)⟩

end Planned

/-- A chain that compiles, other than a complete configuration by itself, becomes a document that is
closed under reference if and only if every raw outbound is an object. -/
theorem compile_referencesClosed_iff {system : SystemPorts} {chain : List Record} {s : Settings}
    {forTest : Bool} {compiled : Compiled} (h : compile system chain s forTest = .ok compiled)
    (chained : ∀ r, chain = [r] → r.profile.isFullConfig = false) :
    ∃ config, compiled.document = .generated config ∧
      (ReferencesClosed chain config.toJson ↔ ∀ r ∈ chain, r.profile.HoldsObject) := by
  obtain ⟨r, text, alone, full, -⟩ | ⟨hops, nonempty, planned, rfl⟩ := compile_cases h
  · have notFull := chained r alone
    rw [Profile.isFullConfig_of_fullConfig? full] at notFull
    cases notFull
  · exact ⟨_, rfl, Planned.referencesClosed_iff planned nonempty⟩

/-- A direct hop and a raw outbound behind it. -/
def directThenRaw (text : String) : List Record :=
  [{ id := 1, uuid := "", profile := ⟨{}, .direct⟩ },
   { id := 2, uuid := "", profile := ⟨{}, .config { scope := .outbound, text }⟩ }]

/-- An empty object behind a direct hop is given its tag and its detour. -/
theorem compile_referencesClosed_emptyObject :
    (∀ r, directThenRaw "\x7b\x7d" = [r] → r.profile.isFullConfig = false) ∧
      ∃ compiled config,
        compile (fun _ => .error "") (directThenRaw "\x7b\x7d") (Settings.defaults "") false
            = .ok compiled ∧
          compiled.document = .generated config ∧
          ReferencesClosed (directThenRaw "\x7b\x7d") config.toJson := by
  have chained : ∀ r, directThenRaw "\x7b\x7d" = [r] → r.profile.isFullConfig = false := by
    intro r alone
    cases alone
  have compiles : compile (fun _ => .error "") (directThenRaw "\x7b\x7d") (Settings.defaults "") false
      = .ok _ := rfl
  obtain ⟨config, document, closed⟩ := compile_referencesClosed_iff compiles chained
  refine ⟨chained, _, config, compiles, document, closed.2 ?_⟩
  intro r mem raw variant
  rcases List.mem_cons.1 mem with rfl | mem
  · cases variant
  · obtain rfl := List.mem_singleton.1 mem
    cases variant
    exact ⟨[], rfl⟩

/-- A null behind a direct hop compiles to a document whose traffic leaves through no outbound. -/
theorem compile_not_referencesClosed_null :
    ∃ compiled config,
      compile (fun _ => .error "") (directThenRaw "null") (Settings.defaults "") false = .ok compiled ∧
        compiled.document = .generated config ∧
        config.toJson.finalTag? = some "proxy-2-1" ∧
        config.toJson.outboundsTagged "proxy-2-1" = [] ∧
        ¬ReferencesClosed (directThenRaw "null") config.toJson := by
  have dangling : ∃ compiled config,
      compile (fun _ => .error "") (directThenRaw "null") (Settings.defaults "") false = .ok compiled ∧
        compiled.document = .generated config ∧
        config.toJson.finalTag? = some "proxy-2-1" ∧
        (config.toJson.outboundsTagged "proxy-2-1").isEmpty = true := by
    refine ⟨_, _, rfl, rfl, ?_, ?_⟩
    · rw [CoreConfig.finalTag?_toJson]
      decide +kernel
    · decide +kernel
  obtain ⟨compiled, config, compiles, document, final, untagged⟩ := dangling
  have none : config.toJson.outboundsTagged "proxy-2-1" = [] := List.isEmpty_iff.1 untagged
  exact ⟨compiled, config, compiles, document, final, none,
    fun closed => closed.outboundsTagged_ne_nil final none⟩

end ProxyChain
