import ProxyChain.Helper.Command
import ProxyChain.Proofs.Helper.Wiring
import ProxyChain.Proofs.Profile.Payload

/-!
# The generations of Hysteria

The type of an outbound, the helper, the layout of its configuration and the words that start it belong to
a generation, and each of them is chosen by a look at the protocol version of its own. They agree on what
the first generation is, namely version 1, and on everything else being the second one. Only for the
privilege that raw sockets take is version 2 asked for, which is why it is missing in any further version
(`Hysteria.generation_agrees_iff`).
-/

namespace ProxyChain.Hysteria

/-- A generation of Hysteria. -/
structure Generation where
  /-- The core's type of an outbound. -/
  type : String
  helper : Helper
  /-- The configuration of the helper. -/
  layout : Profile → Hysteria → Surroundings → Json
  /-- The words that start the program of the helper on the file of its configuration. -/
  words : Transport → Path → Path → Settings → List String

namespace Generation

/-- The first generation, which needs no privilege for any transport. -/
def first : Generation where
  type := "hysteria"
  helper := .hysteria
  layout := firstConfig
  words _ program config s :=
    [program.display, "--no-check", "--config", config.display, "--log-level",
      if s.verbose then "trace" else "warn", "client"]

/-- The second generation, which needs one for raw sockets. -/
def second : Generation where
  type := "hysteria2"
  helper := .hysteria2
  layout := secondConfig
  words transport program config s :=
    (if transport = .fakeTcp then ["su", "-c"] else []) ++
      [program.display, "client", "--config", config.display, "--log-level",
        if s.verbose then "warn" else "error"]

end Generation

/-- The generation that a protocol version stands for. -/
def generation (h : Hysteria) : Generation := if h.isFirstGeneration then .first else .second

section Dispatch

variable {h : Hysteria}

/-- There are no other generations. -/
lemma generation_mem (h : Hysteria) : h.generation ∈ [Generation.first, Generation.second] := by
  unfold generation
  split <;> simp

/-- The type of an outbound is that of its generation. -/
lemma outboundType_eq (h : Hysteria) : h.outboundType = h.generation.type := by
  unfold outboundType generation
  split <;> rfl

/-- The configuration has the layout of its generation. -/
lemma config_eq (p : Profile) (h : Hysteria) (around : Surroundings) :
    h.config p around = h.generation.layout p h around := by
  unfold config generation
  split <;> rfl

/-- The first generation is version 1. -/
lemma isFirstGeneration_iff : h.isFirstGeneration = true ↔ h.protocolVersion = 1 := beq_iff_eq

/-- The privilege is for raw sockets in version 2. -/
lemma privileged_iff : Helper.privileged h = true ↔ h.protocolVersion = 2 ∧ h.transport = .fakeTcp := by
  rw [Helper.privileged, Bool.and_eq_true, beq_iff_eq, beq_iff_eq]

/-- The first generation needs no privilege. -/
lemma not_privileged (first : h.isFirstGeneration = true) : ¬ Helper.privileged h = true := by
  rw [privileged_iff, isFirstGeneration_iff.1 first]
  exact fun privileged => absurd privileged.1 (by decide)

/-- What stands in front of the same words is the same exactly if it is there under the same
conditions. -/
lemma ite_append_inj {a b : Prop} [Decidable a] [Decidable b] {front : List String} (filled : front ≠ [])
    (words : List String) :
    (if a then front else []) ++ words = (if b then front else []) ++ words ↔ (a ↔ b) := by
  rw [List.append_left_inj]
  by_cases left : a <;> by_cases right : b <;> simp [left, right, filled, filled.symm]

/-- A helper is started in the words of its generation exactly if it needs no privilege or the version is
one of the two known ones. -/
lemma hysteriaWords_eq_iff (h : Hysteria) (program config : Path) (s : Settings) :
    Helper.hysteriaWords h program.display config.display s =
        h.generation.words h.transport program config s ↔
      (h.transport = .fakeTcp → h.protocolVersion = 1 ∨ h.protocolVersion = 2) := by
  by_cases first : h.protocolVersion = 1
  · have isFirst : h.isFirstGeneration = true := isFirstGeneration_iff.2 first
    rw [Helper.hysteriaWords, generation, if_neg (not_privileged isFirst), if_pos isFirst, if_pos isFirst]
    exact iff_of_true rfl fun _ => .inl first
  · -- The words are those of the second generation, and only what stands in front may differ.
    have later : ¬ h.isFirstGeneration = true := mt isFirstGeneration_iff.1 first
    rw [Helper.hysteriaWords, generation, if_neg later, if_neg later, Generation.second,
      Helper.secondWords, ite_append_inj (by decide), privileged_iff, and_iff_right_iff_imp,
      or_iff_right first]

end Dispatch

/-- Whatever the protocol version, the outbound, the helper and its configuration are of one generation.
The words that start the helper are of that generation too exactly if no raw sockets are needed or the
version is one of the two known ones. -/
theorem generation_agrees_iff {p : Profile} {h : Hysteria} (variant : p.variant = .hysteria h) :
    ∃ g ∈ [Generation.first, Generation.second],
      p.outboundType? = some g.type ∧ Helper.of? p = some g.helper ∧
      (∀ ports underTunnel s name, ∃ rendered,
        Helper.render p ports underTunnel s name = some rendered ∧ rendered.helper = g.helper ∧
          rendered.config = (g.layout p h (h.surroundings ports underTunnel s name)).pretty) ∧
      ∀ program config s, ∃ command, Helper.command p program config s = some command ∧
        (command.words = g.words h.transport program config s ↔
          (h.transport = .fakeTcp → h.protocolVersion = 1 ∨ h.protocolVersion = 2)) := by
  have helper : (if h.isFirstGeneration then Helper.hysteria else .hysteria2) = h.generation.helper := by
    unfold generation
    split <;> rfl
  refine ⟨h.generation, generation_mem h, ?_, ?_, fun ports underTunnel s name => ?_,
    fun program config s => ?_⟩
  · simp only [Profile.outboundType?, variant, outboundType_eq]
  · simp only [Helper.of?, variant, helper]
  · exact ⟨_, render_eq variant ports underTunnel s name, helper, by rw [config_eq]⟩
  · have runs : Helper.command p program config s = some
        { words := Helper.hysteriaWords h program.display config.display s
          environment := [("HYSTERIA_DISABLE_UPDATE_CHECK", "1")] } := by
      simp only [Helper.command, variant]
    exact ⟨_, runs, hysteriaWords_eq_iff h program config s⟩

/-- Fake TCP in version 2. -/
def rawSockets : Profile := ⟨{}, .hysteria { transport := .fakeTcp }⟩

/-- It is started with the privilege for raw sockets. -/
theorem generation_agrees_iff_rawSockets :
    rawSockets.outboundType? = some "hysteria2" ∧ Helper.of? rawSockets = some .hysteria2 ∧
      ∃ command, Helper.command rawSockets "/bin/hy" "/tmp/c.json" { cacheDir := "" } = some command ∧
        command.words = ["su", "-c", "/bin/hy", "client", "--config", "/tmp/c.json", "--log-level",
          "error"] := by
  obtain ⟨g, known, type, helper, -, started⟩ :=
    generation_agrees_iff (p := rawSockets) (h := { transport := .fakeTcp }) rfl
  obtain ⟨command, runs, words_iff⟩ := started "/bin/hy" "/tmp/c.json" { cacheDir := "" }
  have second : g = .second := by
    obtain rfl | rfl : g = .first ∨ g = .second := by simpa using known
    · exact absurd type (by decide)
    · rfl
  subst second
  exact ⟨type, helper, command, runs, words_iff.2 fun _ => .inr rfl⟩

/-- Fake TCP in a version that nobody knows. -/
def unknownVersion : Profile := ⟨{}, .hysteria { protocolVersion := 3, transport := .fakeTcp }⟩

/-- A payload can have that version. It is started as the second generation is, but without the privilege
for raw sockets. -/
theorem generation_not_agrees :
    Profile.decode unknownVersion.tag unknownVersion.encode = .ok unknownVersion ∧
      unknownVersion.outboundType? = some "hysteria2" ∧
      ∃ command, Helper.command unknownVersion "/bin/hy" "/tmp/c.json" { cacheDir := "" } = some command ∧
        command.words = ["/bin/hy", "client", "--config", "/tmp/c.json", "--log-level", "error"] ∧
        command.words ≠
          Generation.second.words .fakeTcp "/bin/hy" "/tmp/c.json" { cacheDir := "" } := by
  have fits : ∀ s ∈ unknownVersion.texts, Wire.Writable s := by
    unfold Wire.Writable
    decide
  have decoded := Profile.decode_encode_append fits []
  rw [List.append_nil] at decoded
  exact ⟨decoded, rfl, _, rfl, rfl, by decide⟩

end ProxyChain.Hysteria
