import ProxyChain.Proofs.Session.Lifetime

/-!
# Handing over ports

Starting goes through the entries of the index of helpers in order and has each of their ports served, by
the instance attached to it or else by its helper. Nothing is skipped, so that the events by which ports
are served tell which entry each of them is for: the first is for the first entry, and so on
(`servesInTurn_start`). A helper is started on the file that was written just before, with the
configuration that is kept for the port (`Served`).
-/

namespace ProxyChain

open SessionM

variable {ω : Type} {env : Environment ω} {r r' : Run ω} {events : List Event}

/-- The events that serve a port, each with everything that was done before it. -/
def servings (past : List Event) : List Event → List (List Event × Event)
  | [] => []
  | e :: events =>
    if e.isServing then (past, e) :: servings (past ++ [e]) events else servings (past ++ [e]) events

/-- What serves a port later on is told with all that was done before. -/
lemma servings_append (past events events' : List Event) :
    servings past (events ++ events') = servings past events ++ servings (past ++ events) events' := by
  induction events generalizing past with
  | nil => rw [List.append_nil]; rfl
  | cons e events ih =>
    rw [List.cons_append, servings, servings, ih, List.append_assoc, List.singleton_append]
    split <;> rfl

/-- They are the events that serve a port. -/
lemma map_snd_servings (past events : List Event) :
    (servings past events).map Prod.snd = events.filter Event.isServing := by
  induction events generalizing past with
  | nil => rfl
  | cons e events ih =>
    rw [servings, List.filter_cons]
    split
    · rw [List.map_cons, ih]
    · exact ih _

/-- What was done before an event that serves a port, and what was done after it. -/
lemma append_of_mem_servings {past events before : List Event} {e : Event}
    (mem : (before, e) ∈ servings past events) :
    ∃ between after, events = between ++ e :: after ∧ before = past ++ between := by
  induction events generalizing past with
  | nil => cases mem
  | cons e' events ih =>
    have later (mem : (before, e) ∈ servings (past ++ [e']) events) :
        ∃ between after, e' :: events = between ++ e :: after ∧ before = past ++ between := by
      obtain ⟨between, after, rfl, rfl⟩ := ih mem
      exact ⟨e' :: between, after, rfl, List.append_assoc _ _ _⟩
    rw [servings] at mem
    split at mem
    · obtain same | mem := List.mem_cons.1 mem
      · cases same
        exact ⟨[], events, rfl, (List.append_nil _).symm⟩
      · exact later mem
    · exact later mem

/-- Events that serve no port are no servings. -/
lemma servings_eq_nil {past events : List Event} (idle : ∀ e ∈ events, e.isServing = false) :
    servings past events = [] := by
  apply List.map_eq_nil_iff.1
  rw [map_snd_servings past events, List.filter_eq_nil_iff]
  intro e mem
  rw [idle e mem]
  exact Bool.false_ne_true

namespace Session

/-- The index of helpers of a session: the ports to be served and the records behind them. -/
def entries (s : Session) : List (UInt16 × Record) :=
  (s.compiled.map fun compiled => compiled.external.flatMap ExternalChain.entries).getD []

/-- What serves the port of an entry, and what was done right before, whether or not it succeeds. -/
inductive Served (s : Session) (entry : UInt16 × Record) : List Event × Event → Prop where
  /-- The instance that is attached to the port is launched. -/
  | external {past : List Event} {external : External} {outcome : Except String Unit}
      (attached : s.external? entry.1 = some external) :
      Served s entry (past, ⟨.launchExternal external, outcome⟩)
  /-- Without one the helper is started on a file with the configuration that is kept for the port. -/
  | helper {past : List Event} {helper : Helper} {program path : Path} {config : String}
      {command : Helper.Command} {outcome : Except String Unit}
      (free : s.external? entry.1 = none) (which : Helper.of? entry.2.profile = some helper)
      (found : s.programs.get? helper = some program)
      (kept : s.helperConfigs.get? entry.1 = some config)
      (built : Helper.command entry.2.profile program path s.settings = some command) :
      Served s entry (past ++ [⟨.writeFile path config, .ok ()⟩], ⟨.startHelper command, outcome⟩)

/-- How a port is served does not depend on the files. -/
lemma FilesAdded.served {s s' : Session} (h : FilesAdded s s') {entry : UInt16 × Record}
    {serving : List Event × Event} (served : Served s' entry serving) : Served s entry serving := by
  rw [h] at served
  cases served with
  | external attached => exact .external attached
  | helper free which found kept built => exact .helper free which found kept built

/-- Entries are served in turn, whether or not it succeeds: what serves a port serves that of the entry at
the same place. -/
structure ServesInTurn (s : Session) (entries : List (UInt16 × Record)) (past : List Event)
    (result : Except SessionError Unit) (events : List Event) : Prop where
  served : ∀ x ∈ entries.zip (servings past events), Served s x.1 x.2
  bounded : (servings past events).length ≤ entries.length
  complete : result = .ok () → (servings past events).length = entries.length

namespace ServesInTurn

variable {s s' : Session} {entry : UInt16 × Record} {entries : List (UInt16 × Record)}
  {past : List Event} {result : Except SessionError Unit}

/-- Before the first port is served it may fail. -/
lemma idle {e : SessionError} (idle : ∀ e ∈ events, e.isServing = false) :
    ServesInTurn s entries past (.error e) events := by
  have none : servings past events = [] := servings_eq_nil idle
  refine ⟨?_, ?_, nofun⟩
  · rw [none, List.zip_nil_right]
    exact List.forall_mem_nil _
  · rw [none]
    exact Nat.zero_le _

/-- The last thing that is done for an entry is to have its port served. -/
lemma last {e : Event} (idle : ∀ e ∈ events, e.isServing = false) (serves : e.isServing = true)
    (served : Served s entry (past ++ events, e)) :
    ServesInTurn s [entry] past result (events ++ [e]) := by
  have one : servings past (events ++ [e]) = [(past ++ events, e)] := by
    rw [servings_append, servings_eq_nil idle, servings, serves, if_pos rfl]
    rfl
  refine ⟨?_, ?_, fun _ => ?_⟩
  · rw [one]
    simpa using served
  · rw [one]
    exact Nat.le_refl 1
  · rw [one]
    rfl

/-- What follows an entry that could not be served is not tried. -/
lemma stop {e : SessionError} (failed : ServesInTurn s [entry] past (.error e) events)
    (others : List (UInt16 × Record)) : ServesInTurn s (entry :: others) past (.error e) events := by
  -- At most one port was tried, so that the entries behind the first have nothing to be paired with.
  obtain ⟨served, bounded, -⟩ := failed
  refine ⟨fun x mem => served x ?_, Nat.le_trans bounded (Nat.le_add_left 1 _), nofun⟩
  generalize servings past events = tried at bounded mem
  match tried, bounded with
  | [], _ => cases mem
  | [serving], _ =>
    rw [List.zip_cons_cons, List.zip_nil_right] at mem
    exact mem

/-- If it succeeds those that follow it are served next. -/
lemma cons {events' : List Event} (first : ServesInTurn s [entry] past (.ok ()) events)
    (files : FilesAdded s s') (rest : ServesInTurn s' entries (past ++ events) result events') :
    ServesInTurn s (entry :: entries) past result (events ++ events') := by
  obtain ⟨serving, one⟩ := List.length_eq_one_iff.1 (first.complete rfl)
  have both : servings past (events ++ events') = serving :: servings (past ++ events) events' := by
    rw [servings_append, one, List.singleton_append]
  have served := first.served
  rw [one] at served
  refine ⟨?_, ?_, fun ok => ?_⟩
  · rw [both, List.zip_cons_cons, List.forall_mem_cons]
    exact ⟨served _ List.mem_cons_self, fun x mem => files.served (rest.served x mem)⟩
  · rw [both]
    exact Nat.succ_le_succ rest.bounded
  · rw [both, List.length_cons, rest.complete ok, List.length_cons]

/-- What else is done before and after does not matter. -/
lemma among {before after : List Event} {result' : Except SessionError Unit}
    (h : ServesInTurn s entries (past ++ before) result events)
    (idle : ∀ e ∈ before ++ after, e.isServing = false) (ends : result' = .ok () → result = .ok ()) :
    ServesInTurn s entries past result' (before ++ (events ++ after)) := by
  obtain ⟨idleBefore, idleAfter⟩ := List.forall_mem_append.1 idle
  have same : servings past (before ++ (events ++ after)) = servings (past ++ before) events := by
    rw [servings_append, servings_append, servings_eq_nil idleBefore, servings_eq_nil idleAfter,
      List.nil_append, List.append_nil]
  refine ⟨?_, ?_, fun ok => ?_⟩
  · rw [same]
    exact h.served
  · rw [same]
    exact h.bounded
  · rw [same]
    exact h.complete (ends ok)

end ServesInTurn

/-- A helper is started on the file that is written just before. -/
lemma servesInTurn_startHelper {helper : Helper} {port : UInt16} {record : Record}
    (free : r.session.external? port = none) (which : Helper.of? record.profile = some helper) :
    Does (startHelper env helper port record.profile) r fun result events r' =>
      FilesAdded r.session r'.session ∧
        ServesInTurn r.session [(port, record)] r.trace result events := by
  have nothing : ∀ e ∈ ([] : List Event), e.isServing = false := List.forall_mem_nil _
  refine .bind (.session ?_)
  refine .bind (.require (fun program found => ?_) fun _ => ⟨.refl _, .idle nothing⟩)
  refine .bind (.require (fun config kept => ?_) fun _ => ⟨.refl _, .idle nothing⟩)
  refine .bind (.freshName fun name world => ?_)
  have silent (outcome : Except String Unit) :
      ∀ e ∈ [(⟨.writeFile (r.session.configPath record.profile name) config, outcome⟩ : Event)],
        e.isServing = false :=
    List.forall_mem_singleton.2 rfl
  refine .bind (.bind (.update (.call (fun _ world' => ?_) fun fault world' => ?notWritten)))
  case notWritten => exact ⟨rfl, .idle (silent (.error fault))⟩
  obtain ⟨command, built⟩ := Helper.exists_command which program
    (r.session.configPath record.profile name) r.session.settings
  simp only [built]
  refine .call (fun reply world'' => ?_) fun fault world'' => ?_
  all_goals exact ⟨rfl, .last (silent (.ok ())) rfl (.helper free which found kept built)⟩

/-- An entry that needs a helper has its port served in turn. -/
lemma servesInTurn_startEntry {entry : UInt16 × Record} (needs : entry.2.profile.needsHelper = true)
    (r : Run ω) : Does (startEntry env entry) r fun result events r' =>
      FilesAdded r.session r'.session ∧ ServesInTurn r.session [entry] r.trace result events := by
  obtain ⟨port, record⟩ := entry
  refine .bind (.session ?_)
  cases attached : r.session.external? port with
  | some external =>
    simp only [attached]
    have nothing : ∀ e ∈ ([] : List Event), e.isServing = false := List.forall_mem_nil _
    refine .call (fun reply world => ?_) fun fault world => ?_
    all_goals exact ⟨.refl _, .last nothing rfl (.external attached)⟩
  | none =>
    obtain ⟨helper, which⟩ := Helper.exists_of? needs
    simp only [attached, needs, if_true, which]
    exact servesInTurn_startHelper attached which

/-- Entries that need helpers have their ports served in turn. -/
theorem servesInTurn_startEntries {entries : List (UInt16 × Record)}
    (needs : ∀ entry ∈ entries, entry.2.profile.needsHelper = true) (r : Run ω) :
    Does (entries.forM (startEntry env)) r fun result events r' =>
      FilesAdded r.session r'.session ∧ ServesInTurn r.session entries r.trace result events := by
  induction entries generalizing r with
  | nil => exact .pure ⟨.refl _, List.forall_mem_nil _, Nat.le_refl 0, fun _ => rfl⟩
  | cons entry entries ih =>
    have first : Does (startEntry env entry) r _ :=
      servesInTurn_startEntry (needs entry List.mem_cons_self) r
    refine .bind (first.traced.mono fun result events r' ⟨trace, files, first⟩ => ?_)
    cases result with
    | error e => exact ⟨files, first.stop entries⟩
    | ok _ =>
      have others := ih (fun entry' mem => needs entry' (List.mem_cons_of_mem entry mem)) r'
      refine others.mono fun result' events' r'' ⟨files', rest⟩ => ?_
      rw [trace] at rest
      exact ⟨files.trans files', first.cons files rest⟩

/-- Starting has the ports of the index of helpers served in turn. The configurations of the helpers stay
as they are. -/
theorem servesInTurn_start
    (needs : ∀ entry ∈ r.session.entries, entry.2.profile.needsHelper = true) :
    Does (start env) r fun result events r' =>
      r'.session.helperConfigs = r.session.helperConfigs ∧
        ServesInTurn r.session r.session.entries r.trace result events := by
  have nothing : ∀ e ∈ ([] : List Event), e.isServing = false := List.forall_mem_nil _
  refine .bind (.enter (fun _ => ?_) fun _ => ⟨rfl, .idle nothing⟩)
  refine .bind (.session ?_)
  refine .bind (.require (fun compiled found => ?_) fun _ => ⟨rfl, .idle nothing⟩)
  have index : r.session.entries = compiled.external.flatMap ExternalChain.entries := by
    rw [Session.entries, found]
    rfl
  refine .bind (.call (fun reply world => ?_) fun fault world => ?noDirectory)
  case noDirectory => exact ⟨rfl, .idle (by simp [Event.isServing])⟩
  rw [forM_entries, ← index]
  have served : Does (r.session.entries.forM (startEntry env)) _ _ := servesInTurn_startEntries needs
    { r with world, trace := r.trace ++ [⟨.createDirectory r.session.configDirectory, .ok reply⟩] }
  refine .bind (served.mono fun result events r' ⟨files, serves⟩ => ?_)
  have configs : r'.session.helperConfigs = r.session.helperConfigs := by rw [files]
  -- The directory is made before, and the core started after all ports are served.
  have around {result' : Except SessionError Unit} {after : List Event}
      (idle : ∀ e ∈ after, e.isServing = false) (ends : result' = .ok () → result = .ok ()) :
      ServesInTurn r.session r.session.entries r.trace result'
        ([⟨.createDirectory r.session.configDirectory, .ok reply⟩] ++ (events ++ after)) := by
    exact serves.among (List.forall_mem_cons.2 ⟨rfl, idle⟩) ends
  cases result with
  | error e =>
    have alone := around nothing id
    rw [List.append_nil] at alone
    exact ⟨configs, alone⟩
  | ok _ =>
    have starts (outcome : Except String Unit) :
        ∀ e ∈ [(⟨.startCore, outcome⟩ : Event)], e.isServing = false :=
      List.forall_mem_singleton.2 rfl
    refine .bind (.require (fun _ _ => ?_) fun _ => ⟨configs, around nothing nofun⟩)
    refine .bind (.call (fun reply' world' => .update ?_) fun fault world' => ?_)
    · exact ⟨configs, around (starts (.ok reply')) fun _ => rfl⟩
    · exact ⟨configs, around (starts (.error fault)) nofun⟩

end Session

end ProxyChain
