import ProxyChain.Proofs.Session.Provision

/-!
# What a session holds

A session is in the hands of its owner, who may ask it for any operation and who may at any time make it
a test or have it under another policy (`Owned`). Whatever is asked of it and whatever fails, it then
holds what its stage calls for (`Owned.holds`), so that no phase ever misses what an earlier one was to
leave behind (`Operation.outcome_ne_missing`).
-/

namespace ProxyChain

open SessionM

variable {ω : Type} {env : Environment ω}

namespace Run

/-- Makes a session a test. -/
def asTest (r : Run ω) : Run ω := { r with session := { r.session with forTest := true } }

/-- Has a session under a policy. -/
def govern (policy : ShutdownPolicy) (r : Run ω) : Run ω :=
  { r with session := { r.session with policy } }

end Run

/-- The runs of a session in the hands of its owner. The world may become any other in between. -/
inductive Owned (env : Environment ω) : Run ω → Prop where
  | fresh (chain : List Record) (settings : Settings) (world : ω) :
      Owned env (.fresh chain settings {} false world)
  | perform (op : Operation) {r : Run ω} (owned : Owned env r) : Owned env (op.perform env r)
  | asTest {r : Run ω} (owned : Owned env r) : Owned env r.asTest
  | govern (policy : ShutdownPolicy) {r : Run ω} (owned : Owned env r) : Owned env (r.govern policy)
  | drift (world : ω) {r : Run ω} (owned : Owned env r) : Owned env { r with world }

/-- Whatever is reached by operations from a new session of any kind is owned. -/
lemma Reachable.owned {r : Run ω} (reachable : Reachable env r) : Owned env r := by
  induction reachable with
  | fresh chain settings policy forTest world =>
    have governed : Owned env (.fresh chain settings policy false world) :=
      .govern policy (.fresh chain settings world)
    cases forTest with
    | false => exact governed
    | true => exact governed.asTest
  | perform op _ ih => exact ih.perform op
  | drift world _ ih => exact ih.drift world

namespace Session

/-- What a session holds at each of its stages. -/
structure Holds (s : Session) : Prop where
  unbuilt : s.stage = .unconfigured → s.compiled = none
  /-- From building to closing there is what the chain was compiled to. -/
  compiled : s.stage = .configured ∨ s.stage = .loaded ∨ s.stage = .running →
    s.compiled.isSome = true
  /-- From preparing to closing there is a core, and at no other time. -/
  core : s.coreLoaded = true ↔ s.stage = .loaded ∨ s.stage = .running
  /-- From preparing to closing each helper's program has been found and its configuration rendered. -/
  equipped : s.stage = .loaded ∨ s.stage = .running →
    ∀ compiled, s.compiled = some compiled → s.AllEquipped compiled
  /-- The index of helpers is one of records that need them. -/
  needed : ∀ compiled, s.compiled = some compiled →
    ∀ entry ∈ compiled.external.flatMap ExternalChain.entries, entry.2.profile.needsHelper = true

namespace Holds

variable {s s' : Session}

/-- A session holds as much as before if it is at the same stage and nothing got lost. -/
lemma of_same (h : s.Holds) (stage : s'.stage = s.stage) (compiled : s'.compiled = s.compiled)
    (core : s'.coreLoaded = s.coreLoaded) (grows : Grows s s') : s'.Holds := by
  constructor
  · rw [stage, compiled]
    exact h.unbuilt
  · rw [stage, compiled]
    exact h.compiled
  · rw [stage, core]
    exact h.core
  · rw [stage, compiled]
    exact fun ready compiled found => (h.equipped ready compiled found).grows grows
  · rw [compiled]
    exact h.needed

/-- Once every entry of the index is equipped and the core is loaded, a session may start or run. -/
lemma ready (h : s.Holds) (stage : s'.stage = .loaded ∨ s'.stage = .running)
    (same : s'.compiled = s.compiled) (core : s'.coreLoaded = true) {compiled : Compiled}
    (found : s.compiled = some compiled) (equipped : s'.AllEquipped compiled) : s'.Holds := by
  constructor
  · intro unbuilt
    rw [unbuilt] at stage
    simp at stage
  · intro _
    rw [same, found]
    rfl
  · exact iff_of_true core stage
  · intro _ compiled' found'
    rw [same, found] at found'
    rwa [← Option.some.inj found']
  · rw [same]
    exact h.needed

/-- Before it is built and after it is closed a session holds no core and nothing for helpers. -/
lemma idle (stage : ¬(s.stage = .configured ∨ s.stage = .loaded ∨ s.stage = .running))
    (unbuilt : s.stage = .unconfigured → s.compiled = none) (core : s.coreLoaded = false)
    (needed : ∀ compiled, s.compiled = some compiled →
      ∀ entry ∈ compiled.external.flatMap ExternalChain.entries, entry.2.profile.needsHelper = true) :
    s.Holds where
  unbuilt := unbuilt
  compiled active := absurd active stage
  core := by
    rw [core]
    exact iff_of_false Bool.false_ne_true fun ready => stage (.inr ready)
  equipped ready := absurd (.inr ready) stage
  needed := needed

/-- A session that is past building was compiled. -/
lemma exists_compiled (h : s.Holds)
    (stage : s.stage = .configured ∨ s.stage = .loaded ∨ s.stage = .running) :
    ∃ compiled, s.compiled = some compiled :=
  Option.isSome_iff_exists.1 (h.compiled stage)

variable {r : Run ω}

/-- Building keeps the holdings in order. -/
lemma build (env : Environment ω) (h : r.session.Holds) :
    (leaves (Session.build env) r).session.Holds := by
  obtain ⟨e, failed⟩ | ⟨compiled, stage, compiles, built⟩ := build_cases env r
  · rw [leaves, failed]
    exact h
  · rw [leaves, built]
    refine ⟨fun unbuilt => ?_, fun _ => rfl, ?_, ?_, ?_⟩
    · cases unbuilt
    · have unloaded : r.session.coreLoaded ≠ true := by
        rw [Ne, h.core, stage]
        decide
      refine iff_of_false unloaded ?_
      rintro (stage | stage) <;> cases stage
    · rintro (stage | stage) <;> cases stage
    · have fromPlan : CompiledFromPlan { r.session with
          compiled := some compiled, stage := Phase.build.after } := by
        intro compiled' found
        rw [← Option.some.inj found]
        exact ⟨_, compiles⟩
      exact fun _ found => fromPlan.needsHelper found

/-- What preparing may count on. -/
lemma toPrepare (h : r.session.Holds) (stage : r.session.stage = Phase.prepare.before) :
    ∃ compiled, r.session.compiled = some compiled ∧
      ∀ entry ∈ compiled.external.flatMap ExternalChain.entries,
        entry.2.profile.needsHelper = true := by
  obtain ⟨compiled, found⟩ := h.exists_compiled (.inl stage)
  exact ⟨compiled, found, h.needed compiled found⟩

/-- What starting may count on. -/
lemma toStart (h : r.session.Holds) (stage : r.session.stage = Phase.start.before) :
    r.session.coreLoaded = true ∧
      ∃ compiled, r.session.compiled = some compiled ∧ r.session.AllEquipped compiled := by
  obtain ⟨compiled, found⟩ := h.exists_compiled (.inr (.inl stage))
  exact ⟨h.core.2 (.inl stage), compiled, found, h.equipped (.inl stage) compiled found⟩

/-- Preparing keeps the holdings in order. -/
lemma prepare (env : Environment ω) (underTunnel : Bool) (h : r.session.Holds) :
    (leaves (Session.prepare env underTunnel) r).session.Holds := by
  obtain ⟨_, -, concludes⟩ := concludes_prepare env underTunnel r
  obtain ⟨_, -, same, -⟩ := prepares_prepare underTunnel r
  obtain ⟨_, -, grows, provided⟩ := provides_prepare env underTunnel h.toPrepare
  generalize leaves (Session.prepare env underTunnel) r = r' at *
  generalize result (Session.prepare env underTunnel) r = result at *
  -- A preparation that fails may have equipped some entries, but has loaded no core.
  cases concludes with
  | broken works | failed works =>
    exact h.of_same works.stage same.compiled works.coreLoaded grows
  | passed opened works is reply =>
    obtain ⟨compiled, found, equipped⟩ := provided
    obtain ⟨_, -, rfl⟩ := is
    exact h.ready (.inl rfl) same.compiled (Bool.or_true _) found equipped

/-- Starting keeps the holdings in order. -/
lemma start (env : Environment ω) (h : r.session.Holds) :
    (leaves (Session.start env) r).session.Holds := by
  have starts : Does (Session.start env) r _ := does_start h.needed
  obtain ⟨_, -, same, -⟩ := starts
  obtain ⟨_, -, concludes⟩ := concludes_start env r
  obtain ⟨_, -, grows, -⟩ := provides_start env h.toStart
  generalize leaves (Session.start env) r = r' at *
  generalize result (Session.start env) r = result at *
  cases concludes with
  | broken works | failed works =>
    exact h.of_same works.stage same.compiled works.coreLoaded grows
  | passed opened works is reply =>
    obtain ⟨core, compiled, found, equipped⟩ := h.toStart opened
    have loaded := congrArg (· || Event.loadsCore ⟨_, .ok reply⟩) (works.coreLoaded.trans core)
    exact h.ready (.inr rfl) same.compiled (loaded.trans (Bool.true_or _)) found (equipped.grows grows)

end Holds

/-- Closing keeps the holdings in order. -/
lemma Holds.close (env : Environment ω) {r : Run ω} (h : r.session.Holds) :
    (Session.close env r).2.session.Holds := by
  obtain ⟨-, -, -, same | closed⟩ := quiet_close env r
  · rw [same]
    exact h
  · rw [closed]
    exact .idle (by simp [Session.closed]) nofun rfl h.needed

end Session

namespace Operation

/-- Whatever is asked of a session, it goes on holding what its stage calls for. -/
theorem holds_perform (op : Operation) (env : Environment ω) {r : Run ω} (h : r.session.Holds) :
    (op.perform env r).session.Holds := by
  cases op with
  | build => exact h.build env
  | prepare underTunnel => exact h.prepare env underTunnel
  | start => exact h.start env
  | close => exact h.close env
  | attach external => exact h.of_same rfl rfl rfl (.of_eq rfl rfl)

/-- No operation finds anything missing. -/
theorem outcome_ne_missing (op : Operation) (env : Environment ω) {r : Run ω} (h : r.session.Holds)
    (part : Missing) : op.outcome env r ≠ .error (.missing part) := by
  cases op with
  | build =>
    have provided := (Session.provides_build env r).ne_missing part
    intro missing
    rw [outcome] at missing
    cases ends : result (Session.build env) r with
    | ok compiled =>
      rw [ends] at missing
      cases missing
    | error e =>
      rw [ends] at missing provided
      exact provided (congrArg Except.error (Except.error.inj missing))
  | prepare underTunnel => exact (Session.provides_prepare env underTunnel h.toPrepare).ne_missing part
  | start => exact (Session.provides_start env h.toStart).ne_missing part
  | close | attach _ =>
    intro missing
    cases missing

end Operation

/-- An owned session holds what its stage calls for. -/
theorem Owned.holds {r : Run ω} (owned : Owned env r) : r.session.Holds := by
  induction owned with
  | fresh => exact .idle (by simp [Run.fresh]) (fun _ => rfl) rfl nofun
  | perform op _ ih => exact op.holds_perform env ih
  | asTest _ ih | govern _ _ ih => exact ih.of_same rfl rfl rfl (.of_eq rfl rfl)
  | drift _ _ ih => exact ih

end ProxyChain
