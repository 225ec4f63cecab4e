import ProxyChain.Proofs.Session.Effect
import ProxyChain.Proofs.Session.FileName

/-!
# Work on helpers

Preparing and starting go through the index of helpers hop by hop. Work on a hop finds a program, draws
names, writes files, each of them made from a name of its own, and has a port served. What all of these
keep (`KeptByWork`) is kept by work on a hop, whatever becomes of it (`keeps_prepareEntry`,
`keeps_startEntry`). So work touches the helpers' programs, configurations and files only, and it records
every file that it writes or tries to write, in order (`Works`).
-/

namespace ProxyChain

open SessionM

variable {ω : Type}

/-- The path of the file that a call writes. -/
def Call.written? : Call → Option Path
  | writeFile path _ => some path
  | _ => none

/-- The paths of the files that events wrote or tried to write, in order. -/
def written (events : List Event) : List Path := events.filterMap fun e => e.call.written?

/-- Files are written in turn. -/
lemma written_append (events events' : List Event) :
    written (events ++ events') = written events ++ written events' := List.filterMap_append

/-- Whether a call gets a helper ready or has a port served. -/
def Call.isWork : Call → Bool
  | resolveHelper _ | createDirectory _ | writeFile .. | startHelper _ | launchExternal _ => true
  | deleteFile _ | loadCore .. | startCore | closeCore | closeHelpers | closeExternal _
  | updateTrust _ | testLink .. => false

namespace Session

/-- An invariant that everything keeps that is done for a helper. It may speak of a spare name, one that
was drawn and that no file is made from yet. -/
structure KeptByWork (env : Environment ω) (Inv : Option String → Run ω → Prop) : Prop where
  perform {spare : Option String} {r : Run ω} {c : Call} (work : c.isWork = true)
    (silent : c.written? = none) (holds : Inv spare r) : Inv spare (r.perform env c).2
  helpers {spare : Option String} {r : Run ω} (programs : Table Helper Path)
    (helperConfigs : Table UInt16 String) (holds : Inv spare r) :
    Inv spare { r with session := { r.session with programs, helperConfigs } }
  draw {r : Run ω} (holds : Inv none r) :
    Inv (some (env.freshName r.world).1) { r with world := (env.freshName r.world).2 }
  drop {name : String} {r : Run ω} (holds : Inv (some name) r) : Inv none r
  write {name : String} {path : Path} {r : Run ω} (made : MadeFrom r.session.settings name path)
    (contents : String) (holds : Inv (some name) r) :
    let recorded := { r.session with cacheFiles := r.session.cacheFiles ++ [path] }
    Inv none (Run.perform env (.writeFile path contents) { r with session := recorded }).2

namespace KeptByWork

variable {env : Environment ω} {Inv : Option String → Run ω → Prop} (kept : KeptByWork env Inv)
include kept

/-- A call that writes nothing keeps the invariant. -/
lemma keeps_call {c : Call} (work : c.isWork = true) (silent : c.written? = none)
    (spare : Option String) : Keeps (Inv spare) (call env c) :=
  .call fun _ holds => kept.perform work silent holds

/-- Finding a program keeps the invariant. -/
lemma keeps_resolveHelper (helper : Helper) : Keeps (Inv none) (resolveHelper env helper) := by
  refine .bind .session fun s => ?_
  split
  · refine .bind (kept.keeps_call rfl rfl none) fun path r holds => .update ?_
    exact kept.helpers _ _ holds
  · exact .pure ()

variable {name : String} {r : Run ω}

/-- A file is written that is made from the spare name. -/
lemma does_writeFile {path : Path} (holds : Inv (some name) r)
    (made : MadeFrom r.session.settings name path) (contents : String) :
    Does (writeFile env path contents) r fun _ _ r' => Inv none r' :=
  .bind (.update (.call_perform (kept.write made contents holds)))

/-- A file that a helper needs is written from the spare name. -/
lemma does_writeAuxFile {file : Helper.AuxFile} (holds : Inv (some name) r)
    (made : MadeFrom r.session.settings name file.path) :
    Does (writeAuxFile env file) r fun _ _ r' => Inv none r' := by
  unfold writeAuxFile
  cases Path.parent? file.path with
  | none => exact kept.does_writeFile holds made file.contents
  | some dir =>
    have later : Inv (some name) (r.perform env (.createDirectory dir)).2 :=
      kept.perform rfl rfl holds
    refine .bind (.call_step (fun reply world step => ?_) fun fault world step => ?_)
    · rw [Run.perform, step] at later
      exact kept.does_writeFile later made file.contents
    · rw [Run.perform, step] at later
      exact kept.drop later

/-- Of the files of a rendered configuration there is one at most. -/
lemma does_writeAuxFiles {p : Profile} {ports : Helper.Ports} {underTunnel : Bool}
    {rendered : Helper.Rendered} (holds : Inv (some name) r)
    (renders : Helper.render p ports underTunnel r.session.settings name = some rendered) :
    Does (rendered.files.forM (writeAuxFile env)) r fun _ _ r' => Inv none r' := by
  obtain nothing | ⟨file, one, made⟩ := MadeFrom.of_render renders
  · rw [nothing]
    exact .pure (kept.drop holds)
  · rw [one]
    refine .bind ((kept.does_writeAuxFile holds made).mono fun result _ r' holds' => ?_)
    cases result with
    | ok _ => exact .pure holds'
    | error e => exact holds'

/-- Rendering a configuration keeps the invariant. -/
lemma keeps_renderHelper (underTunnel : Bool) (p : Profile) (ports : Helper.Ports) :
    Keeps (Inv none) (renderHelper env underTunnel p ports) := by
  intro r holds
  have drawn := kept.draw holds
  refine .bind (.freshName_step (.bind (.session ?_)))
  dsimp only
  cases renders : Helper.render p ports underTunnel r.session.settings (env.freshName r.world).1 with
  | none => exact .pure (kept.drop drawn)
  | some rendered =>
    refine .bind ((kept.does_writeAuxFiles drawn renders).mono fun result _ r' holds' => ?_)
    cases result with
    | ok _ => exact .update (kept.helpers _ _ holds')
    | error e => exact holds'

/-- Preparing a hop. -/
theorem keeps_prepareEntry (underTunnel : Bool) (helpers : ExternalChain) (entry : UInt16 × Record) :
    Keeps (Inv none) (prepareEntry env underTunnel helpers entry) := by
  unfold prepareEntry
  split
  · cases Helper.of? entry.2.profile with
    | some helper =>
      exact .bind (kept.keeps_resolveHelper helper) fun _ => kept.keeps_renderHelper underTunnel _ _
    | none => exact .pure ()
  · exact .pure ()

/-- Starting a helper keeps the invariant. -/
lemma keeps_startHelper (helper : Helper) (port : UInt16) (p : Profile) :
    Keeps (Inv none) (startHelper env helper port p) := by
  intro r holds
  have drawn := kept.draw holds
  refine .bind (.session ?_)
  refine .bind (.require (fun program _ => ?_) fun _ => holds)
  refine .bind (.require (fun config _ => ?_) fun _ => holds)
  refine .bind (.freshName_step ?_)
  refine .bind ((kept.does_writeFile drawn (.configPath r.session p _) config).mono
    fun result _ r' holds' => ?_)
  cases result with
  | error e => exact holds'
  | ok _ =>
    dsimp only
    cases Helper.command p program _ r.session.settings with
    | some command => exact kept.keeps_call rfl rfl none r' holds'
    | none => exact .pure holds'

/-- Having a hop served. -/
theorem keeps_startEntry (entry : UInt16 × Record) : Keeps (Inv none) (startEntry env entry) := by
  refine .bind .session fun s => ?_
  cases s.external? entry.1 with
  | some external => exact kept.keeps_call rfl rfl none
  | none =>
    dsimp only
    split
    · cases Helper.of? entry.2.profile with
      | some helper => exact kept.keeps_startHelper helper _ _
      | none => exact .pure ()
    · exact .pure ()

end KeptByWork

/-- Work on helpers: of the session only their programs, configurations and files change, and the files
are those written, each of them made from a name. -/
structure Works (r : Run ω) (events : List Event) (r' : Run ω) : Prop where
  session : ∃ programs helperConfigs, r'.session =
    { r.session with programs, helperConfigs, cacheFiles := r.session.cacheFiles ++ written events }
  calls : ∀ e ∈ events, e.call.isWork = true
  made : ∀ path ∈ written events, ∃ name, MadeFrom r.session.settings name path

/-- What writes no file leaves the files as they are. -/
lemma Works.silent {r r' : Run ω} {events : List Event} {programs : Table Helper Path}
    {helperConfigs : Table UInt16 String}
    (session : r'.session = { r.session with programs, helperConfigs })
    (nothing : written events = []) (calls : ∀ e ∈ events, e.call.isWork = true) :
    Works r events r' := by
  refine ⟨⟨programs, helperConfigs, ?_⟩, calls, ?_⟩
  · rw [nothing, List.append_nil]
    exact session
  · rw [nothing]
    exact List.forall_mem_nil _

namespace Works

variable {r r' : Run ω} {events : List Event}

/-- Work leaves the stage as it is. -/
lemma stage (h : Works r events r') : r'.session.stage = r.session.stage := by
  obtain ⟨programs, configs, session⟩ := h.session
  rw [session]

/-- Work leaves the attached instances as they are. -/
lemma externals (h : Works r events r') : r'.session.externals = r.session.externals := by
  obtain ⟨programs, configs, session⟩ := h.session
  rw [session]

/-- Work neither loads a core nor takes one away. -/
lemma coreLoaded (h : Works r events r') : r'.session.coreLoaded = r.session.coreLoaded := by
  obtain ⟨programs, configs, session⟩ := h.session
  rw [session]

/-- Work leaves the settings as they are. -/
lemma settings (h : Works r events r') : r'.session.settings = r.session.settings := by
  obtain ⟨programs, configs, session⟩ := h.session
  rw [session]

/-- Work puts the files that it writes on the account. -/
lemma cacheFiles (h : Works r events r') :
    r'.session.cacheFiles = r.session.cacheFiles ++ written events := by
  obtain ⟨programs, configs, session⟩ := h.session
  rw [session]

end Works

instance : Composes (Works (ω := ω)) where
  idle _ _ := .silent rfl rfl nofun
  trans := by
    intro r r' r'' events events' h h'
    obtain ⟨programs, configs, session⟩ := h.session
    obtain ⟨programs', configs', session'⟩ := h'.session
    refine ⟨⟨programs', configs', ?_⟩, ?_, ?_⟩
    · rw [session', session, written_append, List.append_assoc]
    · intro e mem
      exact (List.mem_append.1 mem).elim (h.calls e) (h'.calls e)
    · have later := h'.made
      rw [h.settings] at later
      rw [written_append]
      exact List.forall_mem_append.2 ⟨h.made, later⟩

variable {env : Environment ω}

/-- A call that writes nothing. -/
lemma works_perform {c : Call} (work : c.isWork = true) (silent : c.written? = none) (r : Run ω) :
    Works r [⟨c, (r.perform env c).1⟩] (r.perform env c).2 := by
  refine .silent rfl (List.filterMap_cons_none silent) ?_
  intro e mem
  rw [List.mem_singleton.1 mem]
  exact work

/-- From some run on there was nothing but work on helpers. -/
def WorkedSince (start r : Run ω) : Prop :=
  ∃ events, r.trace = start.trace ++ events ∧ Works start events r

namespace WorkedSince

variable {start r r' : Run ω}

/-- There is still nothing but work when more of it is done. -/
lemma works (worked : WorkedSince start r) {events : List Event} (trace : r'.trace = r.trace ++ events)
    (works : Works r events r') : WorkedSince start r' := by
  obtain ⟨before, traceBefore, worksBefore⟩ := worked
  refine ⟨before ++ events, ?_, Composes.trans worksBefore works⟩
  rw [trace, traceBefore, List.append_assoc]

/-- Everything that is done for a helper is work on it. -/
lemma kept (env : Environment ω) (start : Run ω) : KeptByWork env fun _ => WorkedSince start where
  perform work silent worked := worked.works rfl (works_perform work silent _)
  helpers _ _ worked := worked.works (List.append_nil _).symm (.silent rfl rfl nofun)
  draw worked := worked.works (List.append_nil _).symm (Composes.idle _ _)
  drop worked := worked
  write made contents worked := by
    refine worked.works rfl ⟨⟨_, _, rfl⟩, List.forall_mem_singleton.2 rfl, ?_⟩
    exact List.forall_mem_singleton.2 ⟨_, made⟩

end WorkedSince

/-- What always leaves nothing but work behind is work. -/
lemma always_works {α : Type} {x : SessionM ω α} (kept : ∀ start, Keeps (WorkedSince start) x) :
    Always Works x := by
  intro start
  obtain ⟨events, trace, before, traceBefore, works⟩ :=
    kept start start ⟨[], (List.append_nil _).symm, Composes.idle start _⟩
  have same : events = before := List.append_cancel_left (trace.symm.trans traceBefore)
  exact ⟨events, trace, same ▸ works⟩

/-- A call that writes nothing is work. -/
lemma works_call {c : Call} (work : c.isWork = true) (silent : c.written? = none) :
    Always Works (call env c) :=
  always_works fun start => (WorkedSince.kept env start).keeps_call work silent none

/-- Preparing a hop is work on helpers. -/
lemma works_prepareEntry (underTunnel : Bool) (helpers : ExternalChain) (entry : UInt16 × Record) :
    Always Works (prepareEntry env underTunnel helpers entry) :=
  always_works fun start => (WorkedSince.kept env start).keeps_prepareEntry underTunnel helpers entry

/-- Having a hop served is work on helpers. -/
lemma works_startEntry (entry : UInt16 × Record) : Always Works (startEntry env entry) :=
  always_works fun start => (WorkedSince.kept env start).keeps_startEntry entry

end Session

end ProxyChain
