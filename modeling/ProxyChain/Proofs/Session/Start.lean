import ProxyChain.Proofs.Session.Frame
import Mathlib.Data.List.Forall2

/-!
# The order of a start

Starting serves the port of every entry in turn, by the instance attached to it or else by its helper
(`Serves`), and asks for the core's start only after the last of them. An entry that needs a helper is
served exactly once, or else the start has failed (`does_startEntries`), since every profile that needs
a helper has a program and a command for it.
-/

namespace ProxyChain

open SessionM

variable {ω : Type} {env : Environment ω}

/-- A profile that needs a helper has a program for it. -/
lemma Helper.exists_of? {p : Profile} (needs : p.needsHelper = true) :
    ∃ helper, Helper.of? p = some helper := by
  cases variant : p.variant <;> simp [Profile.needsHelper, Helper.of?, variant] at needs ⊢

/-- A profile with a helper program has a command for it. -/
lemma Helper.exists_command {p : Profile} {helper : Helper} (which : Helper.of? p = some helper)
    (program config : Path) (s : Settings) :
    ∃ command, Helper.command p program config s = some command := by
  cases variant : p.variant <;> simp [Helper.command, Helper.of?, variant] at which ⊢

/-- Whether an event hands a port to a helper or to an attached instance, or tries to. -/
def Event.isServing (e : Event) : Bool :=
  match e.call with
  | .startHelper _ | .launchExternal _ => true
  | _ => false

namespace Session

/-- An event that serves the port of an entry: the launch of the instance attached to the port, or
without one the start of the entry's helper by its own command. -/
inductive Serves (s : Session) (entry : UInt16 × Record) : Event → Prop where
  | external {external : External} (attached : s.external? entry.1 = some external) :
      Serves s entry ⟨.launchExternal external, .ok ()⟩
  | helper {helper : Helper} {program config : Path} {command : Helper.Command}
      (free : s.external? entry.1 = none) (which : Helper.of? entry.2.profile = some helper)
      (found : s.programs.get? helper = some program)
      (built : Helper.command entry.2.profile program config s.settings = some command) :
      Serves s entry ⟨.startHelper command, .ok ()⟩

/-- Nothing but the files of a session has changed. -/
def FilesAdded (s s' : Session) : Prop := s' = { s with cacheFiles := s'.cacheFiles }

namespace FilesAdded

/-- A session has its own files. -/
lemma refl (s : Session) : FilesAdded s s := rfl

/-- What adds files twice adds files. -/
lemma trans {s s' s'' : Session} (h : FilesAdded s s') (h' : FilesAdded s' s'') :
    FilesAdded s s'' := by
  unfold FilesAdded at h h' ⊢
  rw [h', h]

/-- Added files are not part of the plan. -/
lemma samePlan {s s' : Session} (h : FilesAdded s s') : SamePlan s s' := by
  rw [h]
  exact ⟨rfl, rfl, rfl, rfl, rfl⟩

/-- The same events serve a port. -/
lemma serves {s s' : Session} (h : FilesAdded s s') {entry : UInt16 × Record} {e : Event}
    (serves : Serves s' entry e) : Serves s entry e := by
  rw [h] at serves
  cases serves with
  | external attached => exact .external attached
  | helper free which found built => exact .helper free which found built

end FilesAdded

/-- What serving entries in turn amounts to: only files are added, the core is not started, and unless
serving has failed each entry was served once, in order. -/
structure ServesAll (entries : List (UInt16 × Record)) (r : Run ω)
    (result : Except SessionError Unit) (events : List Event) (r' : Run ω) : Prop where
  files : FilesAdded r.session r'.session
  quiet : Quiet events
  served : result = .ok () → List.Forall₂ (Serves r.session) entries (events.filter Event.isServing)

namespace ServesAll

variable {entries : List (UInt16 × Record)} {r r' : Run ω} {events : List Event}

/-- Nothing has to be served where a start fails before the core. -/
lemma failed {e : SessionError} (files : FilesAdded r.session r'.session) (quiet : Quiet events) :
    ServesAll entries r (.error e) events r' :=
  ⟨files, quiet, fun ok => by cases ok⟩

end ServesAll

/-- The port of an entry without an attached instance is served by starting its helper. -/
lemma does_startHelper {helper : Helper} {port : UInt16} {record : Record} {r : Run ω}
    (free : r.session.external? port = none) (which : Helper.of? record.profile = some helper) :
    Does (startHelper env helper port record.profile) r (ServesAll [(port, record)] r) := by
  -- Every step up to the helper's start may fail, and then nothing is claimed of the entry.
  refine .bind (.session ?_)
  refine .bind (.require (fun program found => ?_) fun _ => ?noProgram)
  case noProgram => exact .failed (.refl _) .nil
  refine .bind (.require (fun config rendered => ?_) fun _ => ?noConfig)
  case noConfig => exact .failed (.refl _) .nil
  refine .bind (.freshName fun name world => ?_)
  refine .bind (.writeFile fun written outcome r' session => ?_)
  have files : FilesAdded r.session r'.session := by
    rw [session]
    rfl
  cases written with
  | error fault => exact .failed files (.singleton (by simp))
  | ok _ =>
    obtain ⟨command, built⟩ := Helper.exists_command which program
      (r.session.configPath record.profile name) r.session.settings
    have quiet (outcome' : Except String Unit) : Quiet
        ([⟨.writeFile (r.session.configPath record.profile name) config, outcome⟩] ++
          [⟨.startHelper command, outcome'⟩]) :=
      .append (.singleton (by simp)) (.singleton (by simp))
    simp only [built]
    refine .call (fun reply world => ?started) fun fault world => ?notStarted
    case started =>
      refine ⟨files, quiet (.ok reply), fun _ => ?_⟩
      exact .cons (.helper free which found built) .nil
    case notStarted => exact .failed files (quiet (.error fault))

/-- The port of an entry that needs a helper is served. -/
lemma does_startEntry {entry : UInt16 × Record} (needs : entry.2.profile.needsHelper = true)
    (r : Run ω) : Does (startEntry env entry) r (ServesAll [entry] r) := by
  obtain ⟨port, record⟩ := entry
  refine .bind (.session ?_)
  cases attached : r.session.external? port with
  | some external =>
    simp only [attached]
    refine .call (fun reply world => ?launched) fun fault world => ?notLaunched
    case launched =>
      refine ⟨.refl _, .singleton (by simp), fun _ => ?_⟩
      exact .cons (.external attached) .nil
    case notLaunched => exact .failed (.refl _) (.singleton (by simp))
  | none =>
    obtain ⟨helper, which⟩ := Helper.exists_of? needs
    simp only [attached, needs, if_true, which]
    exact does_startHelper attached which

/-- The ports of entries that need helpers are served in turn. -/
theorem does_startEntries {entries : List (UInt16 × Record)}
    (needs : ∀ entry ∈ entries, entry.2.profile.needsHelper = true) (r : Run ω) :
    Does (entries.forM (startEntry env)) r (ServesAll entries r) := by
  induction entries generalizing r with
  | nil => exact .pure ⟨.refl _, .nil, fun _ => .nil⟩
  | cons entry entries ih =>
    refine .bind ((does_startEntry (needs entry List.mem_cons_self) r).mono
      fun result events r' first => ?_)
    cases result with
    | error e => exact .failed first.files first.quiet
    | ok _ =>
      have needs' : ∀ entry ∈ entries, entry.2.profile.needsHelper = true :=
        fun entry' mem => needs entry' (List.mem_cons_of_mem entry mem)
      -- What serves the others is judged by the session they find, in which only files were added.
      refine (ih needs' r').mono fun result' events' r'' rest => ?_
      refine ⟨first.files.trans rest.files, first.quiet.append rest.quiet, fun ok => ?_⟩
      rw [List.filter_append]
      have others : List.Forall₂ (Serves r.session) entries (events'.filter Event.isServing) :=
        (rest.served ok).imp fun _ _ serves => first.files.serves serves
      exact List.rel_append (first.served rfl) others

/-- The core's start is asked for at the very end and once, after each entry of the index of helpers
was served once, in order. -/
def ServedBeforeCore (s : Session) (events : List Event) : Prop :=
  ∃ compiled before last, s.compiled = some compiled ∧ events = before ++ [last] ∧
    last.call = .startCore ∧ Quiet before ∧
    List.Forall₂ (Serves s) (compiled.external.flatMap ExternalChain.entries)
      (before.filter Event.isServing)

/-- Serving the entries of each chain of helpers is serving all of them. -/
lemma forM_entries (external : List ExternalChain) :
    (external.forM fun helpers => helpers.entries.forM (startEntry env))
      = (external.flatMap ExternalChain.entries).forM (startEntry env) := by
  induction external with
  | nil => rfl
  | cons helpers external ih =>
    rw [List.flatMap_cons]
    exact (congrArg (helpers.entries.forM (startEntry env) >>= ·) (funext fun _ => ih)).trans
      List.forM_append.symm

/-- Starting keeps to the plan, and if it asks for the core's start then last of all, after every entry
of the index of helpers was served. -/
theorem does_start {r : Run ω}
    (needs : ∀ compiled, r.session.compiled = some compiled →
      ∀ entry ∈ compiled.external.flatMap ExternalChain.entries,
        entry.2.profile.needsHelper = true) :
    Does (start env) r fun _ events r' =>
      SamePlan r.session r'.session ∧ (Quiet events ∨ ServedBeforeCore r.session events) := by
  refine .bind (.enter (fun _ => ?_) fun _ => ?wrongStage)
  case wrongStage => exact ⟨.refl _, .inl .nil⟩
  refine .bind (.session ?_)
  refine .bind (.require (fun compiled found => ?_) fun _ => ?notCompiled)
  case notCompiled => exact ⟨.refl _, .inl .nil⟩
  refine .bind (.call (fun reply world => ?_) fun fault world => ?noDirectory)
  case noDirectory => exact ⟨.refl _, .inl (.singleton (by simp))⟩
  rw [forM_entries]
  refine .bind ((does_startEntries (needs compiled found) _).mono fun result events r' serves => ?_)
  have directory : Quiet [⟨.createDirectory r.session.configDirectory, .ok reply⟩] :=
    .singleton (by simp)
  cases result with
  | error e => exact ⟨serves.files.samePlan, .inl (directory.append serves.quiet)⟩
  | ok _ =>
    refine .bind (.require (fun _ _ => ?_) fun _ => ?notLoaded)
    case notLoaded =>
      refine ⟨serves.files.samePlan, .inl ?_⟩
      exact directory.append (serves.quiet.append .nil)
    have inOrder (outcome : Except String Unit) : ServedBeforeCore r.session
        ([⟨.createDirectory r.session.configDirectory, .ok reply⟩] ++
          (events ++ [⟨.startCore, outcome⟩])) :=
      ⟨compiled, _, _, found, (List.append_assoc _ _ _).symm, rfl, directory.append serves.quiet,
        serves.served rfl⟩
    refine .bind (.call (fun reply' world' => ?started) fun fault world' => ?notStarted)
    case started => exact .update ⟨serves.files.samePlan.trans ⟨rfl, rfl, rfl, rfl, rfl⟩,
      .inr (inOrder (.ok reply'))⟩
    case notStarted => exact ⟨serves.files.samePlan, .inr (inOrder (.error fault))⟩

end Session

end ProxyChain
