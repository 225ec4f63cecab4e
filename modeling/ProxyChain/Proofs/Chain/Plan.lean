import ProxyChain.Chain.Compile
import ProxyChain.Proofs.Chain.Tag
import Mathlib.Data.List.Nodup

/-!
# What planning makes of a chain

`Planned` says which hops a chain of records may become: one for each record, in order, each numbered
by its place and told the tag of the one before, and carried by a helper exactly when its profile
needs one. Planning yields nothing else (`planned_of_planHops`), so that whatever holds of planned hops
holds of every generated configuration (`compile_cases`). The ports do not matter here.
-/

namespace ProxyChain

variable {s : Settings} {index : Nat} {previous : Option String} {chain : List Record}
  {hops : List Hop}

/-- What may carry the traffic of a record: a helper if its profile needs one, with a relay if there
are hops before it, and otherwise the outbound of the profile. -/
inductive Carries (s : Settings) (behind : Bool) (r : Record) : Carrier → Prop where
  | helper {ports : Helper.Ports} (needs : r.profile.needsHelper = true)
      (relay : ports.relay.isSome = behind) : Carries s behind r (.helper ports)
  | core {outbound : Json} (native : r.profile.needsHelper = false)
      (built : r.profile.toOutbound s = .ok outbound) : Carries s behind r (.core outbound)

/-- The hops that a chain may become from a place in it on. -/
inductive Planned (s : Settings) : Nat → Option String → List Record → List Hop → Prop where
  | nil {index : Nat} {previous : Option String} : Planned s index previous [] []
  | cons {index : Nat} {previous : Option String} {record : Record} {carrier : Carrier}
      {records : List Record} {hops : List Hop} (notFull : record.profile.isFullConfig = false)
      (carries : Carries s previous.isSome record carrier)
      (rest : Planned s (index + 1) (some (hopTag record index)) records hops) :
      Planned s index previous (record :: records) ({ record, index, previous, carrier } :: hops)

/-- A helper is given a relay exactly when it stands behind other hops. -/
lemma relay_of_takePorts {system : SystemPorts} {behind : Bool} {supply supply' : PortSupply}
    {ports : Helper.Ports} (h : takePorts system behind supply = .ok (ports, supply')) :
    ports.relay.isSome = behind := by
  unfold takePorts at h
  cases first : supply.take system with
  | error e => rw [first] at h; cases h
  | ok taken =>
    rw [first] at h
    cases behind with
    | false => cases h; rfl
    | true =>
      cases second : taken.2.take system with
      | error e =>
        simp only [bind, Except.bind, if_true, second] at h
        cases h
      | ok taken' =>
        simp only [bind, Except.bind, if_true, second] at h
        cases h
        rfl

/-- A hop that is planned is no complete configuration and is carried as it has to be. -/
lemma carries_of_planCarrier {system : SystemPorts} {behind : Bool} {r : Record}
    {supply supply' : PortSupply} {carrier : Carrier}
    (h : planCarrier system s behind r supply = .ok (carrier, supply')) :
    r.profile.isFullConfig = false ∧ Carries s behind r carrier := by
  unfold planCarrier at h
  cases full : r.profile.isFullConfig with
  | true => rw [full] at h; cases h
  | false =>
    refine ⟨rfl, ?_⟩
    cases needs : r.profile.needsHelper with
    | true =>
      cases taken : takePorts system behind supply with
      | error cause => rw [full, needs, taken] at h; cases h
      | ok result =>
        rw [full, needs, taken] at h
        cases h
        exact .helper needs (relay_of_takePorts taken)
    | false =>
      cases built : r.profile.toOutbound s with
      | error e => rw [full, needs, built] at h; cases h
      | ok outbound =>
        rw [full, needs, built] at h
        cases h
        exact .core needs built

/-- Planning yields planned hops. -/
theorem planned_of_planHops {system : SystemPorts} {supply : PortSupply}
    (h : planHops system s index previous supply chain = .ok hops) :
    Planned s index previous chain hops := by
  -- Every hop moves the place, the tag and the supply of ports on.
  induction chain generalizing index previous supply hops with
  | nil =>
    cases h
    exact .nil
  | cons record records ih =>
    unfold planHops at h
    cases first : planCarrier system s previous.isSome record supply with
    | error e => rw [first] at h; cases h
    | ok result =>
      rw [first] at h
      obtain ⟨full, carries⟩ := carries_of_planCarrier first
      simp only [bind, Except.bind] at h
      split at h
      · cases h
      · next rest planned =>
        cases h
        exact .cons full carries (ih planned)

namespace Planned

/-- The hops are planned for the records of the chain, in order. -/
lemma records (p : Planned s index previous chain hops) : hops.map Hop.record = chain := by
  induction p with
  | nil => rfl
  | cons _ _ _ ih => exact congrArg (_ :: ·) ih

/-- There is one hop for each record. -/
lemma length_eq (p : Planned s index previous chain hops) : hops.length = chain.length := by
  rw [← p.records, List.length_map]

/-- Hops are numbered by their places. -/
lemma index_eq (p : Planned s index previous chain hops) {i : Nat} (h : i < hops.length) :
    hops[i].index = index + i := by
  induction p generalizing i with
  | nil => cases h
  | cons _ _ _ ih =>
    cases i with
    | zero => rfl
    | succ i =>
      rw [List.getElem_cons_succ, ih (Nat.lt_of_succ_lt_succ h)]
      omega

/-- The first hop is told what stands before the chain. -/
lemma previous_zero (p : Planned s index previous chain hops) (h : 0 < hops.length) :
    hops[0].previous = previous := by
  cases p with
  | nil => cases h
  | cons => rfl

/-- Every other hop is told the tag of the one before. -/
lemma previous_succ (p : Planned s index previous chain hops) {i : Nat} (h : i + 1 < hops.length) :
    hops[i + 1].previous = some hops[i].tag := by
  induction p generalizing i with
  | nil => cases h
  | cons _ _ rest ih =>
    cases i with
    | zero => exact rest.previous_zero (Nat.lt_of_succ_lt_succ h)
    | succ i => exact ih (Nat.lt_of_succ_lt_succ h)

/-- Every hop is carried in the way of its record. -/
lemma carries (p : Planned s index previous chain hops) {h : Hop} (mem : h ∈ hops) :
    Carries s h.previous.isSome h.record h.carrier := by
  induction p with
  | nil => cases mem
  | cons _ carries _ ih =>
    cases mem with
    | head => exact carries
    | tail _ mem => exact ih mem

/-- A hop goes by the tag of its record and its place. -/
lemma tag_eq (p : Planned s 0 previous chain hops) {i : Nat} (h : i < hops.length) :
    hops[i].tag = hopTag hops[i].record i := by
  rw [Hop.tag, p.index_eq h, Nat.zero_add]

/-- Hops with the same tag stand at the same place. -/
lemma tag_inj (p : Planned s index previous chain hops) {i j : Nat} {hi : i < hops.length}
    {hj : j < hops.length} (h : hops[i].tag = hops[j].tag) : i = j := by
  have indices := hopTag_inj h
  rw [p.index_eq, p.index_eq] at indices
  exact Nat.add_left_cancel indices

/-- The hops go by different tags. -/
lemma nodup_tags (p : Planned s index previous chain hops) : (hops.map Hop.tag).Nodup := by
  rw [List.nodup_iff_injective_get]
  intro i j h
  simp only [List.get_eq_getElem, List.getElem_map] at h
  exact Fin.ext (p.tag_inj h)

/-- No hop of a plan is a full configuration. -/
lemma notFull (p : Planned s index previous chain hops) :
    ∀ r ∈ chain, r.profile.isFullConfig = false := by
  induction p with
  | nil => exact List.forall_mem_nil _
  | cons notFull _ _ ih => exact List.forall_mem_cons.2 ⟨notFull, ih⟩

/-- The records of the helpers are those of the chain that need one. -/
lemma entries_records (p : Planned s index previous chain hops) :
    (ExternalChain.ofHops hops).entries.map Prod.snd
      = chain.filter fun r => r.profile.needsHelper := by
  induction p with
  | nil => rfl
  | cons _ carries _ ih =>
    cases carries with
    | helper needs _ =>
      rw [List.filter_cons, if_pos needs, ← ih]
      rfl
    | core native _ =>
      rw [List.filter_cons, if_neg (by simp [native]), ← ih]
      rfl

end Planned

namespace Compiled

/-- What a chain that was planned compiles to. -/
def ofHops (s : Settings) (forTest : Bool) (hops : List Hop) : Compiled where
  document := .generated
    { logLevel := s.logLevelName?, mixedPort := if forTest then none else some s.mixedPort, hops }
  external := [.ofHops hops]

end Compiled

/-- A profile with the text of a complete configuration is one. -/
lemma Profile.isFullConfig_of_fullConfig? {p : Profile} {text : String}
    (h : p.fullConfig? = some text) : p.isFullConfig = true := by
  cases variant : p.variant with
  | config raw =>
    simp only [fullConfig?, variant] at h
    split at h
    · next full => simp [isFullConfig, variant, full]
    · cases h
  | _ => simp [fullConfig?, variant] at h

/-- A full configuration needs no helper. -/
lemma Profile.needsHelper_of_isFullConfig {p : Profile} (h : p.isFullConfig = true) :
    p.needsHelper = false := by
  cases variant : p.variant with
  | config raw => simp [needsHelper, variant]
  | _ => simp [isFullConfig, variant] at h

/-- A chain that compiles is a complete configuration by itself, which is handed on as it is, or has
none in it and is planned. -/
theorem compile_cases {system : SystemPorts} {forTest : Bool} {compiled : Compiled}
    (h : compile system chain s forTest = .ok compiled) :
    (∃ r text, chain = [r] ∧ r.profile.fullConfig? = some text ∧
      compiled = { document := .verbatim text, external := [{}] }) ∨
    ∃ hops, chain ≠ [] ∧ Planned s 0 none chain hops ∧ compiled = .ofHops s forTest hops := by
  cases chain with
  | nil => cases h
  | cons first rest =>
    unfold compile at h
    cases full : first.profile.fullConfig? with
    | some text =>
      simp only [full] at h
      split at h
      · next alone =>
        refine .inl ⟨first, text, by rw [List.isEmpty_iff.1 alone], full, ?_⟩
        unfold compileFull at h
        split at h
        · cases h
          rfl
        · cases h
      · cases h
    | none =>
      simp only [full, compileHops, bind, Except.bind] at h
      split at h
      · cases h
      · next hops planned =>
        cases h
        exact .inr ⟨hops, List.cons_ne_nil _ _, planned_of_planHops planned, rfl⟩

/-- A chain without a complete configuration that compiles is planned, and compiles for a test and not
for one from the same hops. -/
lemma compile_planned {system : SystemPorts} {forTest : Bool} {compiled : Compiled}
    (h : compile system chain s forTest = .ok compiled)
    (chained : ∀ r ∈ chain, r.profile.isFullConfig = false) :
    ∃ hops, planHops system s 0 none { counter := s.helperPortBase } chain = .ok hops ∧
      compiled = .ofHops s forTest hops ∧
      ∀ test, compile system chain s test = .ok (.ofHops s test hops) := by
  cases chain with
  | nil => cases h
  | cons first rest =>
    have alone : first.profile.fullConfig? = none := by
      cases full : first.profile.fullConfig? with
      | none => rfl
      | some text =>
        have notFull := chained first List.mem_cons_self
        rw [Profile.isFullConfig_of_fullConfig? full] at notFull
        cases notFull
    simp only [compile, alone, compileHops, bind, Except.bind] at h ⊢
    split at h
    · cases h
    · next hops planned =>
      cases h
      exact ⟨hops, planned, rfl, fun test => rfl⟩

/-- The records of all helpers are those of the chain that need one, in order. -/
theorem compile_entries {system : SystemPorts} {forTest : Bool} {compiled : Compiled}
    (h : compile system chain s forTest = .ok compiled) :
    (compiled.external.flatMap ExternalChain.entries).map Prod.snd
      = chain.filter fun r => r.profile.needsHelper := by
  obtain ⟨r, text, rfl, full, rfl⟩ | ⟨hops, -, planned, rfl⟩ := compile_cases h
  · have native := Profile.needsHelper_of_isFullConfig (Profile.isFullConfig_of_fullConfig? full)
    simp [native]
  · simpa [Compiled.ofHops] using planned.entries_records

end ProxyChain
