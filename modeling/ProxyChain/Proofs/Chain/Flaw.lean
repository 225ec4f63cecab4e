import ProxyChain.Proofs.Chain.Plan

/-!
# Which chains compile

A profile has a flaw if it is a complete configuration or a raw outbound whose text is no JSON. No chain
of several profiles compiles with a flaw in it, and the first flaw is what is reported
(`planHops_ends`). A complete configuration that is alone is no flaw; it is held to its text instead.
Apart from the ports, which the system may be unable to give, nothing else decides whether a chain
compiles (`compile_ends`).
-/

namespace ProxyChain

/-- What is reported of a text that is to be JSON. -/
def textFlaw? (text : String) : Option ChainError :=
  match Json.parse text with
  | .ok _ => none
  | .error e => some (.outbound (.invalidText e))

/-- A text has no flaw exactly if it is read as a document. -/
lemma textFlaw?_eq_none_iff {text : String} :
    textFlaw? text = none ↔ ∃ doc, Json.parse text = .ok doc := by
  unfold textFlaw?
  cases Json.parse text <;> simp

/-- The flaw of a text that cannot be read is the reason why. -/
lemma textFlaw?_of_invalid {text : String} {e : TextError} (invalid : Json.parse text = .error e) :
    textFlaw? text = some (.outbound (.invalidText e)) := by
  rw [textFlaw?, invalid]

/-- No text is flawed because its kind is not supported. -/
lemma textFlaw?_ne_unsupported (text : String) (kind : Profile.Kind) :
    textFlaw? text ≠ some (.outbound (.unsupported kind)) := by
  unfold textFlaw?
  split <;> nofun

namespace Profile

def rawOutbound? (p : Profile) : Option String :=
  match p.variant with
  | .config raw => if raw.scope = .outbound then some raw.text else none
  | _ => none

/-- A raw outbound is no full configuration. -/
lemma fullConfig?_of_rawOutbound? {p : Profile} {text : String} (raw : p.rawOutbound? = some text) :
    p.fullConfig? = none := by
  cases variant : p.variant with
  | config raw' =>
    cases scope : raw'.scope with
    | full => simp [rawOutbound?, variant, scope] at raw
    | outbound => simp [fullConfig?, variant, scope]
  | _ => simp [fullConfig?, variant]

/-- What is reported of a chain in which the profile is the first that keeps it from compiling. -/
def flaw? (p : Profile) : Option ChainError :=
  if p.fullConfig?.isSome then some .fullConfig else p.rawOutbound?.bind textFlaw?

/-- The profile may stand in a chain with others: it is no complete configuration, and if it is a raw
outbound, its text is JSON. -/
def Chainable (p : Profile) : Prop :=
  p.fullConfig? = none ∧ ∀ text, p.rawOutbound? = some text → ∃ doc, Json.parse text = .ok doc

/-- A profile has no flaw exactly if it can be a hop. -/
lemma flaw?_eq_none_iff {p : Profile} : p.flaw? = none ↔ p.Chainable := by
  unfold flaw? Chainable
  cases p.fullConfig? with
  | some text => simp
  | none => simp [Option.bind_eq_none_iff, textFlaw?_eq_none_iff]

/-- A profile has an outbound, or a helper runs it. -/
lemma flaw?_ne_unsupported (p : Profile) (kind : Kind) :
    p.flaw? ≠ some (.outbound (.unsupported kind)) := by
  unfold flaw?
  split
  · nofun
  · intro unsupported
    obtain ⟨text, -, flaw⟩ := Option.bind_eq_some_iff.1 unsupported
    exact textFlaw?_ne_unsupported text kind flaw

/-- A profile is a full configuration exactly if it has the text of one. -/
lemma isFullConfig_eq_isSome (p : Profile) : p.isFullConfig = p.fullConfig?.isSome := by
  cases variant : p.variant with
  | config raw => cases scope : raw.scope <;> simp [isFullConfig, fullConfig?, variant, scope]
  | _ => simp [isFullConfig, fullConfig?, variant]

/-- The core gives no outbound only to a profile that a helper runs or whose text is no JSON. -/
lemma toOutbound_of_native {p : Profile} (s : Settings) (notFull : p.fullConfig? = none)
    (native : p.needsHelper = false) :
    (p.flaw? = none ∧ ∃ document, p.toOutbound s = .ok document) ∨
      ∃ e, p.flaw? = some (.outbound e) ∧ p.toOutbound s = .error e := by
  cases variant : p.variant with
  | naive settings => simp [needsHelper, variant] at native
  | config raw =>
    cases scope : raw.scope with
    | full => simp [fullConfig?, variant, scope] at notFull
    | outbound =>
      cases parsed : Json.parse raw.text <;>
        simp [flaw?, fullConfig?, rawOutbound?, textFlaw?, toOutbound, variant, scope, parsed]
  | _ => simp [flaw?, fullConfig?, rawOutbound?, toOutbound, variant]

/-- A profile that a helper runs is no raw text. -/
lemma flaw?_of_needsHelper {p : Profile} (needs : p.needsHelper = true) : p.flaw? = none := by
  cases variant : p.variant with
  | config raw => simp [needsHelper, variant] at needs
  | _ => simp [flaw?, fullConfig?, rawOutbound?, variant]

end Profile

/-- How something ends that needs ports of the system and in which `flaw?` is the first flaw: the system
may have no port when it is asked for one, and otherwise the flaw alone decides. -/
inductive EndsBy (system : SystemPorts) {α : Type} :
    Option ChainError → Except ChainError α → Prop where
  | noPort {flaw? : Option ChainError} {n : Nat} {cause : String} (refused : system n = .error cause) :
      EndsBy system flaw? (.error (.noPort cause))
  | sound (a : α) : EndsBy system none (.ok a)
  | flawed (e : ChainError) : EndsBy system (some e) (.error e)

variable {system : SystemPorts} {s : Settings} {supply : PortSupply}

/-- What follows is reached only if there was no flaw so far. -/
lemma EndsBy.bind {α β : Type} {flaw? flaw?' : Option ChainError} {x : Except ChainError α}
    {f : α → Except ChainError β} (first : EndsBy system flaw? x)
    (second : ∀ a, EndsBy system flaw?' (f a)) : EndsBy system (flaw?.or flaw?') (x >>= f) := by
  cases first with
  | noPort refused => exact .noPort refused
  | sound a => exact second a
  | flawed e => exact .flawed e

/-- Unless the system has no port, the flaw alone decides. -/
lemma EndsBy.decided {α : Type} {flaw? : Option ChainError} {x : Except ChainError α}
    (ends : EndsBy system flaw? x) :
    (∃ n cause, system n = .error cause ∧ x = .error (.noPort cause)) ∨
      ((∃ a, x = .ok a) ↔ flaw? = none) ∧ ∀ e, flaw? = some e → x = .error e := by
  cases ends with
  | noPort refused => exact .inl ⟨_, _, refused, rfl⟩
  | sound a => exact .inr ⟨iff_of_true ⟨a, rfl⟩ rfl, nofun⟩
  | flawed e =>
    refine .inr ⟨iff_of_false nofun nofun, fun e' same => ?_⟩
    rw [Option.some.inj same]

/-- What ends as decided fails with no other error than its flaw and the lack of a port. -/
lemma EndsBy.ne_error {α : Type} {flaw? : Option ChainError} {x : Except ChainError α}
    (ends : EndsBy system flaw? x) {e : ChainError} (noFlaw : flaw? ≠ some e)
    (noPort : ∀ cause, e ≠ .noPort cause) : x ≠ .error e := by
  rintro rfl
  cases ends with
  | noPort refused => exact noPort _ rfl
  | flawed => exact noFlaw rfl

/-- Taking a port fails only if the system gives none. -/
lemma take_error {cause : String} (h : supply.take system = .error cause) :
    ∃ n, system n = .error cause := by
  unfold PortSupply.take at h
  split at h
  · cases asked : system supply.asked with
    | ok port => rw [asked] at h; cases h
    | error e => rw [asked] at h; cases h; exact ⟨_, asked⟩
  · cases h

/-- Taking the ports of a helper fails only if the system gives none. -/
lemma takePorts_error {behind : Bool} {cause : String}
    (h : takePorts system behind supply = .error cause) : ∃ n, system n = .error cause := by
  unfold takePorts at h
  cases first : supply.take system with
  | error e =>
    rw [first] at h
    cases h
    exact take_error first
  | ok taken =>
    rw [first] at h
    cases behind with
    | false => cases h
    | true =>
      cases second : taken.2.take system with
      | error e =>
        simp only [bind, Except.bind, if_true, second] at h
        cases h
        exact take_error second
      | ok taken' =>
        simp only [bind, Except.bind, if_true, second] at h
        cases h

/-- A hop is planned unless its profile has a flaw or the system gives no port. -/
lemma planCarrier_ends (system : SystemPorts) (s : Settings) (behind : Bool) (r : Record)
    (supply : PortSupply) : EndsBy system r.profile.flaw? (planCarrier system s behind r supply) := by
  unfold planCarrier
  rw [r.profile.isFullConfig_eq_isSome]
  cases full : r.profile.fullConfig? with
  | some text =>
    have flaw : r.profile.flaw? = some .fullConfig := by simp [Profile.flaw?, full]
    rw [flaw]
    exact .flawed .fullConfig
  | none =>
    cases needs : r.profile.needsHelper with
    | true =>
      cases taken : takePorts system behind supply with
      | error cause =>
        obtain ⟨n, refused⟩ := takePorts_error taken
        exact .noPort refused
      | ok result =>
        rw [Profile.flaw?_of_needsHelper needs]
        exact .sound _
    | false =>
      obtain ⟨sound, document, built⟩ | ⟨e, flaw, refused⟩ :=
        Profile.toOutbound_of_native s full needs
      · rw [sound, built]
        exact .sound _
      · rw [flaw, refused]
        exact .flawed _

/-- Hops are planned up to the first one with a flaw. -/
theorem planHops_ends (system : SystemPorts) (s : Settings) (index : Nat) (previous : Option String)
    (supply : PortSupply) (chain : List Record) :
    EndsBy system (chain.findSome? fun r => r.profile.flaw?)
      (planHops system s index previous supply chain) := by
  induction chain generalizing index previous supply with
  | nil => exact .sound []
  | cons record records ih =>
    have inOrder : ((record :: records).findSome? fun r => r.profile.flaw?)
        = record.profile.flaw?.or ((records.findSome? fun r => r.profile.flaw?).or none) := by
      rw [List.findSome?_cons, Option.or_none]
      cases record.profile.flaw? <;> rfl
    -- The hop comes first, then those behind it, and putting them together cannot fail.
    rw [inOrder]
    refine (planCarrier_ends system s previous.isSome record supply).bind fun planned => ?_
    exact (ih _ _ _).bind fun hops => .sound _

/-- What keeps a chain from compiling, ports aside. -/
def chainFlaw? : List Record → Option ChainError
  | [] => some .empty
  | first :: rest =>
    match first.profile.fullConfig? with
    | some text => if rest.isEmpty then textFlaw? text else some .fullConfig
    | none => (first :: rest).findSome? fun r => r.profile.flaw?

/-- A chain is compiled unless it has a flaw or the system gives no port. -/
lemma compile_ends (system : SystemPorts) (chain : List Record) (s : Settings) (forTest : Bool) :
    EndsBy system (chainFlaw? chain) (compile system chain s forTest) := by
  cases chain with
  | nil => exact .flawed .empty
  | cons first rest =>
    cases full : first.profile.fullConfig? with
    | none =>
      have planned := planHops_ends system s 0 none { counter := s.helperPortBase } (first :: rest)
      simp only [compile, chainFlaw?, full]
      rw [← Option.or_none (o := List.findSome? _ _)]
      exact planned.bind fun hops => .sound _
    | some text =>
      simp only [compile, chainFlaw?, full]
      split
      · unfold compileFull textFlaw?
        cases Json.parse text with
        | ok doc => exact .sound _
        | error e => exact .flawed _
      · exact .flawed .fullConfig

/-- How compiling ends if no port is wanting. -/
structure Judged (chain : List Record) (outcome : Except ChainError Compiled) : Prop where
  /-- Compiling succeeds exactly on a complete configuration that is alone and is JSON, and on profiles
  each of which may stand in a chain with others. -/
  succeeds_iff : (∃ compiled, outcome = .ok compiled) ↔
    (∃ r text doc, chain = [r] ∧ r.profile.fullConfig? = some text ∧ Json.parse text = .ok doc) ∨
      (chain ≠ [] ∧ ∀ r ∈ chain, r.profile.Chainable)
  /-- A complete configuration goes to the core as it is. -/
  verbatim : ∀ r text compiled, chain = [r] → r.profile.fullConfig? = some text →
    outcome = .ok compiled → compiled.text = text
  empty : chain = [] → outcome = .error .empty
  /-- A complete configuration that is alone has to be JSON. -/
  alone : ∀ r text e, chain = [r] → r.profile.fullConfig? = some text → Json.parse text = .error e →
    outcome = .error (.outbound (.invalidText e))
  /-- One that comes first is refused, whatever its text and the others. -/
  leading : ∀ r others, chain = r :: others → others ≠ [] → r.profile.fullConfig?.isSome →
    outcome = .error .fullConfig
  /-- One that comes later is refused if all before it may stand in a chain. -/
  full : ∀ front r back, chain = front ++ r :: back → front ≠ [] →
    (∀ q ∈ front, q.profile.Chainable) → r.profile.fullConfig?.isSome → outcome = .error .fullConfig
  /-- So is a raw outbound that is no JSON. -/
  invalid : ∀ front r back text e, chain = front ++ r :: back →
    (∀ q ∈ front, q.profile.Chainable) → r.profile.rawOutbound? = some text →
    Json.parse text = .error e → outcome = .error (.outbound (.invalidText e))

/-- A chain that does not begin with a complete configuration is judged profile by profile. -/
lemma chainFlaw?_of_fullConfig?_eq_none {first : Record} {rest : List Record}
    (notFull : first.profile.fullConfig? = none) :
    chainFlaw? (first :: rest) = (first :: rest).findSome? fun r => r.profile.flaw? := by
  simp only [chainFlaw?, notFull]

/-- A chain has no flaw exactly if it is a single full configuration that can be read, or if it is not
empty and each of its profiles can be a hop. -/
lemma chainFlaw?_eq_none_iff {chain : List Record} : chainFlaw? chain = none ↔
    (∃ r text doc, chain = [r] ∧ r.profile.fullConfig? = some text ∧ Json.parse text = .ok doc) ∨
      (chain ≠ [] ∧ ∀ r ∈ chain, r.profile.Chainable) := by
  cases chain with
  | nil => simp [chainFlaw?]
  | cons first rest =>
    cases full : first.profile.fullConfig? with
    | none =>
      rw [chainFlaw?_of_fullConfig?_eq_none full]
      simp only [List.findSome?_eq_none_iff, Profile.flaw?_eq_none_iff]
      constructor
      · intro sound
        exact .inr ⟨List.cons_ne_nil _ _, sound⟩
      · rintro (⟨r, text, doc, alone, full', -⟩ | ⟨-, sound⟩)
        · cases alone
          cases full.symm.trans full'
        · exact sound
    | some text =>
      have bad : ¬ ∀ r ∈ first :: rest, r.profile.Chainable := by
        intro sound
        cases full.symm.trans (sound first List.mem_cons_self).1
      simp only [chainFlaw?, full]
      cases rest with
      | nil =>
        rw [List.isEmpty_nil, if_pos rfl, textFlaw?_eq_none_iff]
        constructor
        · rintro ⟨doc, parsed⟩
          exact .inl ⟨first, text, doc, rfl, full, parsed⟩
        · rintro (⟨r, text', doc, alone, full', parsed⟩ | ⟨-, sound⟩)
          · cases alone
            cases full.symm.trans full'
            exact ⟨doc, parsed⟩
          · exact absurd sound bad
      | cons second rest =>
        refine iff_of_false nofun ?_
        rintro (⟨r, text', doc, alone, -⟩ | ⟨-, sound⟩)
        · cases alone
        · exact bad sound

/-- Apart from a complete configuration that comes first the first flaw is that of the chain. -/
lemma chainFlaw?_of_first {front back : List Record} {r : Record} {e : ChainError}
    (sound : ∀ q ∈ front, q.profile.Chainable) (flaw : r.profile.flaw? = some e)
    (notFull : front = [] → r.profile.fullConfig? = none) :
    chainFlaw? (front ++ r :: back) = some e := by
  have first : (front ++ r :: back).findSome? (fun q => q.profile.flaw?) = some e :=
    List.findSome?_eq_some_iff.2 ⟨front, r, back, rfl, flaw, fun q mem =>
      Profile.flaw?_eq_none_iff.2 (sound q mem)⟩
  cases front with
  | nil => exact (chainFlaw?_of_fullConfig?_eq_none (notFull rfl)).trans first
  | cons q front =>
    exact (chainFlaw?_of_fullConfig?_eq_none (sound q List.mem_cons_self).1).trans first

/-- No chain is flawed because a kind is not supported. -/
lemma chainFlaw?_ne_unsupported (chain : List Record) (kind : Profile.Kind) :
    chainFlaw? chain ≠ some (.outbound (.unsupported kind)) := by
  intro unsupported
  cases chain with
  | nil => cases unsupported
  | cons first rest =>
    cases full : first.profile.fullConfig? with
    | none =>
      rw [chainFlaw?_of_fullConfig?_eq_none full] at unsupported
      obtain ⟨front, r, back, -, flaw, -⟩ := List.findSome?_eq_some_iff.1 unsupported
      exact r.profile.flaw?_ne_unsupported kind flaw
    | some text =>
      simp only [chainFlaw?, full] at unsupported
      split at unsupported
      · exact textFlaw?_ne_unsupported text kind unsupported
      · cases unsupported

/-- A complete configuration that is alone is handed on as it is. -/
lemma text_of_fullConfig? {r : Record} {text : String} (full : r.profile.fullConfig? = some text)
    {forTest : Bool} {compiled : Compiled} (h : compile system [r] s forTest = .ok compiled) :
    compiled.text = text := by
  obtain ⟨r', text', alone, full', rfl⟩ | ⟨hops, -, planned, rfl⟩ := compile_cases h
  · cases alone
    exact Option.some.inj (full'.symm.trans full)
  · -- A complete configuration is never planned as a hop.
    cases planned with
    | cons notFull _ _ =>
      rw [Profile.isFullConfig_of_fullConfig? full] at notFull
      cases notFull

/-- An outcome that is decided by the flaw of a chain judges the chain rightly. -/
lemma Judged.of_chainFlaw? {chain : List Record} {outcome : Except ChainError Compiled}
    (succeeds : (∃ compiled, outcome = .ok compiled) ↔ chainFlaw? chain = none)
    (fails : ∀ e, chainFlaw? chain = some e → outcome = .error e)
    (verbatim : ∀ r text compiled, chain = [r] → r.profile.fullConfig? = some text →
      outcome = .ok compiled → compiled.text = text) : Judged chain outcome where
  succeeds_iff := succeeds.trans chainFlaw?_eq_none_iff
  verbatim := verbatim
  empty := by
    rintro rfl
    exact fails _ rfl
  alone := by
    rintro r text e rfl full invalid
    apply fails
    simp only [chainFlaw?, full]
    exact textFlaw?_of_invalid invalid
  leading := by
    rintro r others rfl several full
    obtain ⟨text, full⟩ := Option.isSome_iff_exists.1 full
    apply fails
    simp only [chainFlaw?, full]
    exact if_neg (mt List.isEmpty_iff.1 several)
  full := by
    rintro front r back rfl later sound full
    have flaw : r.profile.flaw? = some .fullConfig := if_pos full
    exact fails _ (chainFlaw?_of_first sound flaw fun none => absurd none later)
  invalid := by
    rintro front r back text e rfl sound raw invalid
    have notFull := Profile.fullConfig?_of_rawOutbound? raw
    have flaw : r.profile.flaw? = some (.outbound (.invalidText e)) := by
      simp [Profile.flaw?, notFull, raw, textFlaw?_of_invalid invalid]
    exact fails _ (chainFlaw?_of_first sound flaw fun _ => notFull)

/-- Whether a chain compiles, and what is reported if it does not, depends on its profiles alone, except
that the system may have no port for a helper. No profile is reported to have no outbound. -/
theorem compile_judged (system : SystemPorts) (chain : List Record) (s : Settings) (forTest : Bool) :
    (∀ kind, compile system chain s forTest ≠ .error (.outbound (.unsupported kind))) ∧
    ((∃ n cause, system n = .error cause ∧
        compile system chain s forTest = .error (.noPort cause)) ∨
      Judged chain (compile system chain s forTest)) := by
  have ends := compile_ends system chain s forTest
  refine ⟨fun kind => ends.ne_error (chainFlaw?_ne_unsupported chain kind) nofun, ?_⟩
  obtain refused | ⟨succeeds, fails⟩ := ends.decided
  · exact .inl refused
  · refine .inr (.of_chainFlaw? succeeds fails ?_)
    rintro r text compiled rfl full succeeded
    exact text_of_fullConfig? full succeeded

end ProxyChain
