import ProxyChain.Proofs.Session.Handover
import ProxyChain.Proofs.Session.Lookup

/-!
# What helpers are furnished with

Preparing an entry of the index of helpers renders a configuration for its ports, writes the files that
this names, and only then keeps the configuration for the port (`Furnished`). It leaves the
configurations of other ports alone, so that a preparation that succeeds furnishes every entry, all in
the same way, if their ports are distinct (`furnishes_prepare`).
-/

namespace ProxyChain

open SessionM

variable {ω : Type} {env : Environment ω} {r r' : Run ω} {events : List Event}

namespace Session

variable {s : Session}

/-- The entries are those of the one index of helpers. -/
lemma entries_eq {compiled : Compiled} {helpers : ExternalChain} (found : s.compiled = some compiled)
    (one : compiled.external = [helpers]) : s.entries = helpers.entries := by
  rw [entries, found, Option.map_some, Option.getD_some, one, List.flatMap_singleton]

/-- Every entry of the index needs a helper. -/
lemma IndexesChain.needsHelper_of_mem (indexes : s.IndexesChain) :
    ∀ entry ∈ s.entries, entry.2.profile.needsHelper = true := by
  intro entry mem
  cases found : s.compiled with
  | none =>
    rw [entries, found] at mem
    cases mem
  | some compiled =>
    rw [entries, found, Option.map_some, Option.getD_some] at mem
    exact indexes.needsHelper compiled found entry mem

/-- The ports of a session's helpers are distinct. -/
def PortsDistinct (s : Session) : Prop :=
  ∀ compiled, s.compiled = some compiled → compiled.ports.Nodup

/-- Ports are distinct if those that a session was compiled to are. -/
lemma PortsDistinct.of_map_ports {ports : List UInt16} (compiled : s.compiled.map Compiled.ports = some ports)
    (distinct : ports.Nodup) : s.PortsDistinct := by
  intro compiled' found
  rw [found, Option.map_some] at compiled
  rw [Option.some.inj compiled]
  exact distinct

/-- No two entries have the same port. -/
lemma PortsDistinct.nodup (distinct : s.PortsDistinct) (indexes : s.IndexesChain) :
    (s.entries.map Prod.fst).Nodup := by
  cases found : s.compiled with
  | none =>
    rw [entries, found]
    exact .nil
  | some compiled =>
    obtain ⟨helpers, one, -⟩ := indexes compiled found
    have ports := distinct compiled found
    rw [Compiled.ports, one, List.flatMap_singleton] at ports
    rw [entries_eq found one]
    exact ports.of_append_left

/-- What is kept for the port of an entry was rendered for it, and the files that it names were written,
each completely. -/
def Furnished (underTunnel : Bool) (helpers : ExternalChain) (entry : UInt16 × Record) (r : Run ω) :
    Prop :=
  ∃ name rendered,
    Helper.render entry.2.profile (helpers.ports entry.1) underTunnel r.session.settings name
      = some rendered ∧
    r.session.helperConfigs.get? entry.1 = some rendered.config ∧
    ∀ file ∈ rendered.files, ⟨.writeFile file.path file.contents, .ok ()⟩ ∈ r.trace

/-- An entry stays furnished as long as what is kept for its port is left alone. -/
lemma Furnished.later {underTunnel : Bool} {helpers : ExternalChain} {entry : UInt16 × Record}
    (h : Furnished underTunnel helpers entry r) (trace : r'.trace = r.trace ++ events)
    (settings : r'.session.settings = r.session.settings)
    (kept : r'.session.helperConfigs.get? entry.1 = r.session.helperConfigs.get? entry.1) :
    Furnished underTunnel helpers entry r' := by
  obtain ⟨name, rendered, renders, config, written⟩ := h
  refine ⟨name, rendered, ?_, kept.trans config, fun file mem => ?_⟩
  · rw [settings]
    exact renders
  · rw [trace]
    exact List.mem_append_left _ (written file mem)

/-- No port is served and no configuration is touched. -/
structure Readies (r : Run ω) (events : List Event) (r' : Run ω) : Prop where
  settings : r'.session.settings = r.session.settings
  configs : r'.session.helperConfigs = r.session.helperConfigs
  idle : ∀ e ∈ events, e.isServing = false

instance : Composes (Readies (ω := ω)) where
  idle _ _ := ⟨rfl, rfl, List.forall_mem_nil _⟩
  trans h h' := ⟨h'.settings.trans h.settings, h'.configs.trans h.configs,
    List.forall_mem_append.2 ⟨h.idle, h'.idle⟩⟩

/-- A call readies if it serves no port. -/
lemma readies_call {c : Call} (idle : ∀ outcome, Event.isServing ⟨c, outcome⟩ = false) :
    Always Readies (call env c) :=
  .call fun _ outcome _ => ⟨rfl, rfl, List.forall_mem_singleton.2 (idle outcome)⟩

/-- A change to the session readies if it is about neither the settings nor the configurations. -/
lemma readies_update {g : Session → Session} (settings : ∀ s, (g s).settings = s.settings)
    (configs : ∀ s, (g s).helperConfigs = s.helperConfigs) : Always (Readies (ω := ω)) (update g) :=
  .update fun r => ⟨settings r.session, configs r.session, List.forall_mem_nil _⟩

/-- Looking up a program readies. -/
lemma readies_resolveHelper (helper : Helper) : Always Readies (resolveHelper env helper) := by
  refine .bind .session fun s => ?_
  split
  · exact .bind (readies_call fun _ => rfl) fun path => readies_update (fun _ => rfl) fun _ => rfl
  · exact .pure ()

/-- A file is written completely, or writing it fails. -/
lemma does_writeAuxFile (file : Helper.AuxFile) (r : Run ω) :
    Does (writeAuxFile env file) r fun result events r' =>
      Readies r events r' ∧
        (result = .ok () → ⟨.writeFile file.path file.contents, .ok ()⟩ ∈ events) := by
  have writes (r : Run ω) : Does (writeFile env file.path file.contents) r fun result events r' =>
      Readies r events r' ∧
        (result = .ok () → ⟨.writeFile file.path file.contents, .ok ()⟩ ∈ events) := by
    refine .bind (.update (.call (fun _ _ => ?_) fun _ _ => ?_))
    · exact ⟨⟨rfl, rfl, List.forall_mem_singleton.2 rfl⟩, fun _ => List.mem_singleton_self _⟩
    · exact ⟨⟨rfl, rfl, List.forall_mem_singleton.2 rfl⟩, nofun⟩
  unfold writeAuxFile
  cases Path.parent? file.path with
  | none => exact writes r
  | some dir =>
    refine .bind ((readies_call (fun _ => rfl) r).mono fun result events r' made => ?_)
    cases result with
    | error e => exact ⟨made, nofun⟩
    | ok _ =>
      refine (writes r').mono fun result' events' r'' ⟨readies, written⟩ => ?_
      exact ⟨Composes.trans made readies, fun ok => List.mem_append_right _ (written ok)⟩

/-- The files are written one after the other, each completely if all is well. -/
lemma does_writeAuxFiles (files : List Helper.AuxFile) (r : Run ω) :
    Does (files.forM (writeAuxFile env)) r fun result events r' =>
      Readies r events r' ∧ (result = .ok () →
        ∀ file ∈ files, ⟨.writeFile file.path file.contents, .ok ()⟩ ∈ events) := by
  induction files generalizing r with
  | nil => exact .pure ⟨Composes.idle r r.world, fun _ => List.forall_mem_nil _⟩
  | cons file files ih =>
    refine .bind ((does_writeAuxFile file r).mono fun result events r' ⟨readies, written⟩ => ?_)
    cases result with
    | error e => exact ⟨readies, nofun⟩
    | ok _ =>
      refine (ih r').mono fun result' events' r'' ⟨readies', others⟩ => ?_
      refine ⟨Composes.trans readies readies', fun ok => List.forall_mem_cons.2 ⟨?_, ?_⟩⟩
      · exact List.mem_append_left _ (written rfl)
      · exact fun file mem => List.mem_append_right _ (others ok file mem)

/-- What preparing an entry amounts to: no port is served, other configurations are left alone, and
unless it fails the entry is furnished. -/
structure Furnishes (underTunnel : Bool) (helpers : ExternalChain) (entry : UInt16 × Record) (r : Run ω)
    (result : Except SessionError Unit) (events : List Event) (r' : Run ω) : Prop where
  settings : r'.session.settings = r.session.settings
  others : ∀ port ≠ entry.1, r'.session.helperConfigs.get? port = r.session.helperConfigs.get? port
  idle : ∀ e ∈ events, e.isServing = false
  furnished : result = .ok () → Furnished underTunnel helpers entry r'

/-- Nothing is furnished when it fails. -/
lemma Furnishes.failed {underTunnel : Bool} {helpers : ExternalChain} {entry : UInt16 × Record}
    {e : SessionError} (readies : Readies r events r') :
    Furnishes underTunnel helpers entry r (.error e) events r' :=
  ⟨readies.settings, fun _ _ => by rw [readies.configs], readies.idle, nofun⟩

/-- Rendering a configuration furnishes the entry. -/
lemma furnishes_renderHelper (underTunnel : Bool) (helpers : ExternalChain) {entry : UInt16 × Record}
    {helper : Helper} (which : Helper.of? entry.2.profile = some helper) (r : Run ω) :
    Does (renderHelper env underTunnel entry.2.profile (helpers.ports entry.1)) r
      (Furnishes underTunnel helpers entry r) := by
  refine .bind (.freshName fun name world => .bind (.session ?_))
  obtain ⟨rendered, renders⟩ :=
    Helper.exists_render which (helpers.ports entry.1) underTunnel r.session.settings name
  simp only [renders]
  -- The files are written first; only then is the configuration kept, for this port and no other.
  refine .bind ((does_writeAuxFiles rendered.files _).traced.mono
    fun result events r' ⟨trace, readies, written⟩ => ?_)
  cases result with
  | error e => exact .failed ⟨readies.settings, readies.configs, readies.idle⟩
  | ok _ =>
    refine .update ⟨readies.settings, fun port other => ?_, ?_, fun _ => ?_⟩
    · have elsewhere : ¬(port == (helpers.ports entry.1).listen) = true :=
        fun same => other (beq_iff_eq.1 same)
      refine (Table.get?_set _ _ _ _).trans ?_
      rw [if_neg elsewhere, readies.configs]
    · simpa using readies.idle
    · refine ⟨name, rendered, ?_, ?_, fun file mem => ?_⟩
      · rw [← renders]
        exact congrArg (Helper.render _ _ _ · _) readies.settings
      · refine (Table.get?_set _ _ _ _).trans ?_
        exact if_pos (beq_self_eq_true _)
      · rw [trace]
        exact List.mem_append_right _ (written rfl file mem)

/-- Preparing an entry furnishes it. -/
lemma furnishes_prepareEntry (underTunnel : Bool) (helpers : ExternalChain) {entry : UInt16 × Record}
    (needs : entry.2.profile.needsHelper = true) (r : Run ω) :
    Does (prepareEntry env underTunnel helpers entry) r (Furnishes underTunnel helpers entry r) := by
  obtain ⟨helper, which⟩ := Helper.exists_of? needs
  simp only [prepareEntry, needs, if_true, which]
  refine .bind ((readies_resolveHelper helper r).mono fun result events r' resolved => ?_)
  cases result with
  | error e => exact .failed resolved
  | ok _ =>
    refine (furnishes_renderHelper underTunnel helpers which r').mono
      fun result' events' r'' rendered => ?_
    refine ⟨rendered.settings.trans resolved.settings, fun port other => ?_, ?_, rendered.furnished⟩
    · rw [rendered.others port other, resolved.configs]
    · exact List.forall_mem_append.2 ⟨resolved.idle, rendered.idle⟩

/-- Preparing entries with distinct ports furnishes all of them. -/
lemma furnishes_prepareEntries (underTunnel : Bool) (helpers : ExternalChain)
    {entries : List (UInt16 × Record)}
    (needs : ∀ entry ∈ entries, entry.2.profile.needsHelper = true)
    (distinct : (entries.map Prod.fst).Nodup) (r : Run ω) :
    Does (entries.forM (prepareEntry env underTunnel helpers)) r fun result events r' =>
      r'.session.settings = r.session.settings ∧
      (∀ port ∉ entries.map Prod.fst,
        r'.session.helperConfigs.get? port = r.session.helperConfigs.get? port) ∧
      (∀ e ∈ events, e.isServing = false) ∧
      (result = .ok () → ∀ entry ∈ entries, Furnished underTunnel helpers entry r') := by
  induction entries generalizing r with
  | nil =>
    exact .pure ⟨rfl, fun _ _ => rfl, List.forall_mem_nil _, fun _ => List.forall_mem_nil _⟩
  | cons entry entries ih =>
    obtain ⟨apart, distinct⟩ := List.nodup_cons.1 distinct
    have first : Does (prepareEntry env underTunnel helpers entry) r _ :=
      furnishes_prepareEntry underTunnel helpers (needs entry List.mem_cons_self) r
    refine .bind (first.mono fun result events r' first => ?_)
    have others (port : UInt16) (free : port ∉ (entry :: entries).map Prod.fst) :
        port ≠ entry.1 ∧ port ∉ entries.map Prod.fst :=
      ⟨fun same => free (same ▸ List.mem_cons_self), fun mem => free (List.mem_cons_of_mem _ mem)⟩
    cases result with
    | error e =>
      exact ⟨first.settings, fun port free => first.others port (others port free).1, first.idle, nofun⟩
    | ok _ =>
      have needs' : ∀ entry' ∈ entries, entry'.2.profile.needsHelper = true :=
        fun entry' mem => needs entry' (List.mem_cons_of_mem entry mem)
      refine (ih needs' distinct r').traced.mono fun result' events' r'' ⟨trace, rest⟩ => ?_
      obtain ⟨settings, kept, idle, furnished⟩ := rest
      refine ⟨settings.trans first.settings, fun port free => ?_,
        List.forall_mem_append.2 ⟨first.idle, idle⟩, fun ok => List.forall_mem_cons.2 ⟨?_, furnished ok⟩⟩
      · rw [kept port (others port free).2, first.others port (others port free).1]
      -- What is prepared later has other ports.
      · exact (first.furnished rfl).later trace settings (kept entry.1 apart)

/-- A preparation serves no port, and if it succeeds it furnishes every entry of the index of helpers, if
their ports are distinct. -/
theorem furnishes_prepare (underTunnel : Bool) (indexes : r.session.IndexesChain)
    (distinct : r.session.PortsDistinct) :
    Does (prepare env underTunnel) r fun result events r' =>
      (∀ e ∈ events, e.isServing = false) ∧
      (result = .ok () → ∃ compiled, r.session.compiled = some compiled ∧
        ∀ helpers ∈ compiled.external, ∀ entry ∈ helpers.entries,
          Furnished underTunnel helpers entry r') := by
  have nothing : ∀ e ∈ ([] : List Event), e.isServing = false := List.forall_mem_nil _
  refine .bind (.enter (fun _ => ?_) fun _ => ⟨nothing, nofun⟩)
  refine .bind (.session (.bind (.require (fun compiled found => ?_) fun _ => ⟨nothing, nofun⟩)))
  obtain ⟨helpers, one, -⟩ := indexes compiled found
  have apart := distinct.nodup indexes
  have needs := indexes.needsHelper_of_mem
  rw [entries_eq found one] at apart needs
  dsimp only
  rw [one]
  refine .bind (.bind ((furnishes_prepareEntries underTunnel helpers needs apart r).mono
    fun result events r' ⟨_, _, idle, furnished⟩ => ?_))
  cases result with
  | error e => exact ⟨idle, nofun⟩
  | ok _ =>
    have loads (outcome : Except String Unit) (mode : CaptureMode) :
        ∀ e ∈ (events ++ []) ++ [(⟨.loadCore compiled.text mode, outcome⟩ : Event)],
          e.isServing = false := by
      rw [List.append_nil]
      exact List.forall_mem_append.2 ⟨idle, List.forall_mem_singleton.2 rfl⟩
    refine .pure (.bind (.session (.bind (.call (fun reply world => .update ?_) fun fault world => ?_))))
    · refine ⟨loads (.ok reply) _, fun _ => ⟨compiled, found, ?_⟩⟩
      rw [one]
      refine List.forall_mem_singleton.2 fun entry mem => ?_
      exact (furnished rfl entry mem).later rfl rfl rfl
    · exact ⟨loads (.error fault) _, nofun⟩

end Session

end ProxyChain
