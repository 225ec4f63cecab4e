import ProxyChain.Proofs.Session.Later

/-!
# What a phase needs from earlier ones

An entry of the index of helpers is started with the path of its program and with its configuration
(`Equipped`). `Provides x r goal` says of an action and the run it starts from that nothing of this kind
gets lost, that nothing turns out to be missing, and that `goal` holds of what it gives and of the
session that it leaves, unless a call fails. So preparing equips every entry that needs a helper
(`provides_prepare`), and starting finds what it needs if all of them are equipped
(`provides_start`).
-/

namespace ProxyChain

open SessionM

variable {ω α β : Type} {env : Environment ω}

/-- A profile with a helper program is rendered for it. -/
lemma Helper.exists_render {p : Profile} {helper : Helper} (which : Helper.of? p = some helper)
    (ports : Helper.Ports) (underTunnel : Bool) (s : Settings) (name : String) :
    ∃ rendered, Helper.render p ports underTunnel s name = some rendered := by
  cases variant : p.variant <;> simp [Helper.render, Helper.of?, variant] at which ⊢

namespace Session

/-- No path of a program and no configuration of a helper gets lost. -/
structure Grows (s s' : Session) : Prop where
  programs : ∀ helper, (s.programs.get? helper).isSome → (s'.programs.get? helper).isSome
  configs : ∀ port, (s.helperConfigs.get? port).isSome → (s'.helperConfigs.get? port).isSome

namespace Grows

/-- Nothing gets lost when programs and configurations stay as they are. -/
lemma of_eq {s s' : Session} (programs : s'.programs = s.programs)
    (configs : s'.helperConfigs = s.helperConfigs) : Grows s s' := by
  constructor
  · rw [programs]
    exact fun _ found => found
  · rw [configs]
    exact fun _ rendered => rendered

/-- A session loses nothing to itself. -/
lemma refl (s : Session) : Grows s s := .of_eq rfl rfl

/-- What loses nothing twice loses nothing. -/
lemma trans {s s' s'' : Session} (h : Grows s s') (h' : Grows s' s'') : Grows s s'' :=
  ⟨fun helper found => h'.programs helper (h.programs helper found),
    fun port rendered => h'.configs port (h.configs port rendered)⟩

/-- What is in a table stays when something is set. -/
lemma isSome_set {κ ν : Type} [BEq κ] [LawfulBEq κ] {t : Table κ ν} {key : κ} (other : κ) (value : ν)
    (there : (t.get? key).isSome = true) : ((t.set other value).get? key).isSome = true := by
  rw [Table.get?_set]
  split
  · rfl
  · exact there

/-- What is set is in the table. -/
lemma isSome_set_self {κ ν : Type} [BEq κ] [LawfulBEq κ] (t : Table κ ν) (key : κ) (value : ν) :
    ((t.set key value).get? key).isSome = true := by
  rw [Table.get?_set, beq_self_eq_true, if_pos rfl]
  rfl

end Grows

/-- An entry of the index of helpers has a helper, whose program was found, and a configuration for it
was rendered. -/
def Equipped (s : Session) (entry : UInt16 × Record) : Prop :=
  ∃ helper, Helper.of? entry.2.profile = some helper ∧ (s.programs.get? helper).isSome = true ∧
    (s.helperConfigs.get? entry.1).isSome = true

/-- An entry stays equipped as long as nothing gets lost. -/
lemma Equipped.grows {s s' : Session} {entry : UInt16 × Record} (equipped : s.Equipped entry)
    (grows : Grows s s') : s'.Equipped entry := by
  obtain ⟨helper, which, found, rendered⟩ := equipped
  exact ⟨helper, which, grows.programs helper found, grows.configs entry.1 rendered⟩

/-- What an action provides: a goal is reached, or it fails for another reason than that something is
missing. Either way nothing gets lost. -/
def Provides (x : SessionM ω α) (r : Run ω) (goal : α → Session → Prop) : Prop :=
  Does x r fun result _ r' => Grows r.session r'.session ∧
    match result with
    | .ok a => goal a r'.session
    | .error e => ∀ part, e ≠ .missing part

namespace Provides

variable {x : SessionM ω α} {f : α → SessionM ω β} {r : Run ω}

/-- What is provided is enough for less. -/
lemma mono {goal goal' : α → Session → Prop} (provides : Provides x r goal)
    (weaker : ∀ a s, Grows r.session s → goal a s → goal' a s) : Provides x r goal' := by
  refine Does.mono provides fun result _ r' h => ⟨h.1, ?_⟩
  cases result with
  | ok a => exact weaker a r'.session h.1 h.2
  | error e => exact h.2

/-- Nothing is missing where something is provided. -/
lemma ne_missing {goal : α → Session → Prop} (provides : Provides x r goal) (part : Missing) :
    result x r ≠ .error (.missing part) := by
  obtain ⟨_, -, -, provided⟩ := provides
  intro failed
  rw [failed] at provided
  exact provided part rfl

/-- A value provides what holds already. -/
lemma pure {goal : α → Session → Prop} {a : α} (holds : goal a r.session) :
    Provides (Pure.pure a) r goal :=
  Does.pure ⟨.refl _, holds⟩

/-- What two steps provide is provided by both in turn. -/
lemma bind {goal : α → Session → Prop} {goal' : β → Session → Prop} (first : Provides x r goal)
    (second : ∀ a r', Grows r.session r'.session → goal a r'.session → Provides (f a) r' goal') :
    Provides (x >>= f) r goal' := by
  refine Does.bind (Does.mono first fun result _ r' h => ?_)
  cases result with
  | error e => exact h
  | ok a => exact Does.mono (second a r' h.1 h.2) fun _ _ _ h' => ⟨h.1.trans h'.1, h'.2⟩

/-- The session that is looked at is the one that is there. -/
lemma session : Provides SessionM.session r fun s s' => s = r.session ∧ s' = r.session :=
  Does.session ⟨.refl _, rfl, rfl⟩

/-- A look at the run leaves the session as it is. -/
lemma get : Provides MonadState.get r fun _ s => s = r.session :=
  Does.get ⟨.refl _, rfl⟩

/-- A call leaves the session as it is. -/
lemma call {c : Call} : Provides (SessionM.call env c) r fun _ s => s = r.session :=
  Does.call (fun _ _ => ⟨.refl _, rfl⟩) fun _ _ => ⟨.refl _, nofun⟩

/-- Drawing a name leaves the session as it is. -/
lemma freshName : Provides (SessionM.freshName env) r fun _ s => s = r.session :=
  Does.freshName fun _ _ => ⟨.refl _, rfl⟩

/-- A change to the session provides what is changed, if nothing gets lost by it. -/
lemma update {g : Session → Session} (grows : Grows r.session (g r.session)) :
    Provides (SessionM.update g) r fun _ s => s = g r.session :=
  Does.update ⟨grows, rfl⟩

/-- A demand that is met provides what was demanded. -/
lemma require {part : Missing} {a : α} :
    Provides (SessionM.require part (some a)) r fun b s => b = a ∧ s = r.session :=
  pure ⟨rfl, rfl⟩

/-- Entering a phase provides that it was open. -/
lemma enter {phase : Phase} : Provides (SessionM.enter phase) r fun _ s =>
    r.session.stage = phase.before ∧ s = r.session :=
  Does.enter (fun stage => ⟨.refl _, stage, rfl⟩) fun _ => ⟨.refl _, nofun⟩

/-- Writing a file provides that it is on the account. -/
lemma writeFile {path : Path} {contents : String} :
    Provides (SessionM.writeFile env path contents) r fun _ s =>
      s = { r.session with cacheFiles := r.session.cacheFiles ++ [path] } :=
  bind (update (.of_eq rfl rfl)) fun _ _ _ same => call.mono fun _ _ _ same' => same'.trans same

/-- What is reached for each of several things stays reached for the others. -/
lemma forM {g : α → SessionM ω PUnit} {goal : α → Session → Prop} {xs : List α}
    (keeps : ∀ a s s', goal a s → Grows s s' → goal a s')
    (each : ∀ a ∈ xs, ∀ r', Grows r.session r'.session → Provides (g a) r' fun _ => goal a) :
    Provides (xs.forM g) r fun _ s => ∀ a ∈ xs, goal a s := by
  induction xs generalizing r with
  | nil => exact pure nofun
  | cons a xs ih =>
    refine bind (each a List.mem_cons_self r (.refl _)) fun _ r' grows reached => ?_
    have others : Provides (xs.forM g) r' fun _ s => ∀ a ∈ xs, goal a s :=
      ih fun b mem r'' grows' => each b (List.mem_cons_of_mem a mem) r'' (grows.trans grows')
    refine others.mono fun _ s grows' reached' => ?_
    rw [List.forall_mem_cons]
    exact ⟨keeps a _ _ reached grows', reached'⟩

end Provides

variable {r : Run ω}

/-- Building goes without anything missing. -/
lemma provides_build (env : Environment ω) (r : Run ω) : Provides (build env) r fun _ _ => True := by
  refine .bind .enter fun _ _ _ _ => .bind .get fun r' _ _ _ => ?_
  cases compile (env.systemPorts r'.world) r'.session.chain r'.session.settings
      r'.session.forTest with
  | error e => exact Does.throw ⟨.refl _, nofun⟩
  | ok compiled => exact .bind (.update (.of_eq rfl rfl)) fun _ _ _ _ => .pure trivial

/-- Looking up a program provides it. -/
lemma provides_resolveHelper (helper : Helper) (r : Run ω) :
    Provides (resolveHelper env helper) r fun _ s => (s.programs.get? helper).isSome = true := by
  refine .bind .session fun s r' _ ⟨is, same⟩ => ?_
  split
  · refine .bind .call fun path r'' _ _ => ?_
    refine (Provides.update ⟨fun _ => Grows.isSome_set helper path, fun _ => id⟩).mono
      fun _ s' _ found => ?_
    rw [found]
    exact Grows.isSome_set_self _ helper path
  · next found =>
    refine .pure ?_
    rw [same, ← is]
    exact Option.isSome_iff_ne_none.2 fun nothing => found (Option.isNone_iff_eq_none.2 nothing)

/-- A file that a helper needs is written without anything missing. -/
lemma provides_writeAuxFile (file : Helper.AuxFile) (r : Run ω) :
    Provides (writeAuxFile env file) r fun _ _ => True := by
  unfold writeAuxFile
  cases Path.parent? file.path with
  | none => exact Provides.writeFile.mono fun _ _ _ _ => trivial
  | some dir => exact .bind .call fun _ _ _ _ => Provides.writeFile.mono fun _ _ _ _ => trivial

/-- Rendering provides the configuration. -/
lemma provides_renderHelper (underTunnel : Bool) {p : Profile} {helper : Helper}
    (which : Helper.of? p = some helper) (ports : Helper.Ports) (r : Run ω) :
    Provides (renderHelper env underTunnel p ports) r fun _ s =>
      (s.helperConfigs.get? ports.listen).isSome = true := by
  refine .bind .freshName fun name r' _ _ => ?_
  refine .bind .session fun s r'' _ _ => ?_
  obtain ⟨rendered, renders⟩ := Helper.exists_render which ports underTunnel s.settings name
  simp only [renders]
  refine .bind (.forM (fun _ _ _ reached _ => reached) fun file _ r' _ => provides_writeAuxFile file r')
    fun _ r'' _ _ => ?_
  refine (Provides.update ⟨fun _ => id, fun _ => Grows.isSome_set ports.listen rendered.config⟩).mono
    fun _ s' _ added => ?_
  rw [added]
  exact Grows.isSome_set_self _ ports.listen rendered.config

/-- Preparing equips an entry that needs a helper. -/
lemma provides_prepareEntry (underTunnel : Bool) (helpers : ExternalChain) {entry : UInt16 × Record}
    (needs : entry.2.profile.needsHelper = true) (r : Run ω) :
    Provides (prepareEntry env underTunnel helpers entry) r fun _ s => s.Equipped entry := by
  obtain ⟨helper, which⟩ := Helper.exists_of? needs
  simp only [prepareEntry, needs, if_true, which]
  refine .bind (provides_resolveHelper helper r) fun _ r' _ found => ?_
  refine (provides_renderHelper underTunnel which _ r').mono fun _ s grows rendered => ?_
  exact ⟨helper, which, grows.programs helper found, rendered⟩

/-- Every entry of the index of helpers is equipped. -/
def AllEquipped (s : Session) (compiled : Compiled) : Prop :=
  ∀ entry ∈ compiled.external.flatMap ExternalChain.entries, s.Equipped entry

/-- All entries stay equipped as long as nothing gets lost. -/
lemma AllEquipped.grows {s s' : Session} {compiled : Compiled} (all : s.AllEquipped compiled)
    (grows : Grows s s') : s'.AllEquipped compiled :=
  fun entry mem => (all entry mem).grows grows

/-- Preparing finds what was compiled, and equips every entry of its index of helpers. -/
theorem provides_prepare (env : Environment ω) (underTunnel : Bool) {r : Run ω}
    (held : r.session.stage = Phase.prepare.before → ∃ compiled, r.session.compiled = some compiled ∧
      ∀ entry ∈ compiled.external.flatMap ExternalChain.entries,
        entry.2.profile.needsHelper = true) :
    Provides (prepare env underTunnel) r fun _ s =>
      ∃ compiled, r.session.compiled = some compiled ∧ s.AllEquipped compiled := by
  refine .bind .enter fun _ r' _ ⟨stage, entered⟩ => ?_
  obtain ⟨compiled, found, needs⟩ := held stage
  refine .bind .session fun s r' _ ⟨is, _⟩ => ?_
  rw [is, entered, found]
  refine .bind .require fun _ r' _ ⟨it, _⟩ => ?_
  rw [it]
  have equips : Provides (compiled.external.forM fun helpers =>
      helpers.entries.forM (prepareEntry env underTunnel helpers)) r' fun _ s =>
        ∀ helpers ∈ compiled.external, ∀ entry ∈ helpers.entries, s.Equipped entry := by
    refine .forM (fun helpers s s' all grows entry mem => (all entry mem).grows grows)
      fun helpers memHelpers r' _ => ?_
    refine .forM (fun entry s s' equipped => equipped.grows) fun entry mem r'' _ => ?_
    have listed := List.mem_flatMap.2 ⟨helpers, memHelpers, mem⟩
    exact provides_prepareEntry underTunnel helpers (needs entry listed) r''
  refine .bind equips fun _ r' _ equipped => ?_
  refine .bind .session fun s r' grows _ => ?_
  refine .bind .call fun _ r'' grows' _ => ?_
  refine (Provides.update (.of_eq rfl rfl)).mono fun _ s grows'' _ => ?_
  refine ⟨compiled, rfl, fun entry listed => ?_⟩
  obtain ⟨helpers, memHelpers, mem⟩ := List.mem_flatMap.1 listed
  exact (equipped helpers memHelpers entry mem).grows ((grows.trans grows').trans grows'')

/-- A helper is started without anything missing if its program and its configuration are there. -/
lemma provides_startHelper {helper : Helper} {port : UInt16} {p : Profile} {r : Run ω}
    (found : (r.session.programs.get? helper).isSome = true)
    (rendered : (r.session.helperConfigs.get? port).isSome = true) :
    Provides (startHelper env helper port p) r fun _ _ => True := by
  obtain ⟨program, isProgram⟩ := Option.isSome_iff_exists.1 found
  obtain ⟨config, isConfig⟩ := Option.isSome_iff_exists.1 rendered
  refine .bind .session fun s r' _ ⟨is, _⟩ => ?_
  rw [is, isProgram, isConfig]
  refine .bind .require fun program r' _ _ => ?_
  refine .bind .require fun config r' _ _ => ?_
  refine .bind .freshName fun name r' _ _ => ?_
  refine .bind .writeFile fun _ r' _ _ => ?_
  split
  · exact Provides.call.mono fun _ _ _ _ => trivial
  · exact .pure trivial

/-- An entry that is equipped is served without anything missing. -/
lemma provides_startEntry {entry : UInt16 × Record} {r : Run ω} (equipped : r.session.Equipped entry) :
    Provides (startEntry env entry) r fun _ _ => True := by
  obtain ⟨helper, which, found, rendered⟩ := equipped
  refine .bind .session fun s r' _ ⟨_, same⟩ => ?_
  rw [← same] at found rendered
  split
  · exact Provides.call.mono fun _ _ _ _ => trivial
  · split
    · rw [which]
      exact provides_startHelper found rendered
    · exact .pure trivial

/-- Starting finds what was compiled, the core and what the helpers need. -/
theorem provides_start (env : Environment ω) {r : Run ω}
    (held : r.session.stage = Phase.start.before → r.session.coreLoaded = true ∧
      ∃ compiled, r.session.compiled = some compiled ∧ r.session.AllEquipped compiled) :
    Provides (start env) r fun _ _ => True := by
  refine .bind .enter fun _ r' _ ⟨stage, entered⟩ => ?_
  obtain ⟨core, compiled, found, equipped⟩ := held stage
  refine .bind .session fun s r' grows ⟨is, _⟩ => ?_
  rw [entered] at is grows
  rw [is, found, core]
  refine .bind .require fun _ r' grows' ⟨it, _⟩ => ?_
  rw [it]
  refine .bind .call fun _ r' grows'' _ => ?_
  have there := equipped.grows ((grows.trans grows').trans grows'')
  have serves : Provides (compiled.external.forM fun helpers =>
      helpers.entries.forM (startEntry env)) r' fun _ _ => ∀ helpers ∈ compiled.external,
        ∀ entry ∈ helpers.entries, True := by
    refine .forM (fun _ _ _ all _ => all) fun helpers memHelpers r₁ grows₁ => ?_
    refine .forM (fun _ _ _ served _ => served) fun entry mem r₂ grows₂ => ?_
    have listed := List.mem_flatMap.2 ⟨helpers, memHelpers, mem⟩
    -- Serving those before has lost nothing of what this one needs.
    exact provides_startEntry ((there entry listed).grows (grows₁.trans grows₂))
  refine .bind serves fun _ r' _ _ => ?_
  refine .bind .require fun _ r' _ _ => ?_
  refine .bind .call fun _ r' _ _ => ?_
  exact (Provides.update (.of_eq rfl rfl)).mono fun _ _ _ _ => trivial

end Session

end ProxyChain
