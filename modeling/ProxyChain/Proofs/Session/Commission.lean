import ProxyChain.Proofs.Helper.Certificates
import ProxyChain.Proofs.Helper.Generation
import ProxyChain.Proofs.Session.History

/-!
# What helpers are started on

A session is prepared successfully once at most, and from then on what it keeps for the port of each
helper is what that preparation has rendered for it (`Prepared`). So whenever a helper is started, however
often preparing and starting had to be tried, the file that it is started on holds the configuration that
was rendered for its hop and its ports, and the certificates that go with it were written as well
(`Commission`).

But words and configurations are texts, and paths need not be. A helper is told of files by what is shown
of their paths, and that leads it to them exactly if the path of the cache directory is a text
(`History.commissions`).
-/

namespace ProxyChain

open SessionM Session

variable {ω : Type} {env : Environment ω} {r r' : Run ω} {past past' : List (Moment ω)}
  {events : List Event} {path : Path} {text : String}

/-- The words of a command have a helper read its configuration from the file that `config` names. -/
inductive Helper.ConfiguredBy : (words : List String) → (config : String) → Prop where
  | first (program config level : String) : ConfiguredBy
      [program, "--no-check", "--config", config, "--log-level", level, "client"] config
  | second (program config level : String) : ConfiguredBy
      [program, "client", "--config", config, "--log-level", level] config
  | privileged (program config level : String) : ConfiguredBy
      ["su", "-c", program, "client", "--config", config, "--log-level", level] config
  | naive (program config : String) : ConfiguredBy [program, config] config

/-- The words of a command name one file. -/
lemma Helper.ConfiguredBy.unique {words : List String} {config config' : String}
    (h : ConfiguredBy words config) (h' : ConfiguredBy words config') : config = config' := by
  -- How many words there are tells what they are for.
  generalize same : words = words' at h'
  cases h <;> cases h' <;> simp_all

/-- A command names the file that it is built for as its path is shown. -/
lemma Helper.configuredBy_command {p : Profile} {program config : Path} {s : Settings} {command : Command}
    (built : Helper.command p program config s = some command) :
    ConfiguredBy command.words config.display := by
  cases variant : p.variant with
  | hysteria h =>
    simp only [Helper.command, variant, Option.some.injEq] at built
    subst built
    dsimp only [hysteriaWords]
    by_cases first : h.isFirstGeneration = true
    · rw [if_neg (Hysteria.not_privileged first), if_pos first]
      exact .first _ _ _
    · rw [if_neg first]
      split
      · exact .privileged _ _ _
      · exact .second _ _ _
  | naive n =>
    simp only [Helper.command, variant, Option.some.injEq] at built
    subst built
    exact .naive _ _
  | trojan _ | direct | config _ => simp [Helper.command, variant] at built

/-- A file holds a text: the last thing that was done about it was to write it completely. -/
def Stands (events : List Event) (path : Path) (text : String) : Prop :=
  ∃ before after, events = before ++ ⟨.writeFile path text, .ok ()⟩ :: after ∧
    ∀ e ∈ after, e.call.written? ≠ some path ∧ e.call ≠ .deleteFile path

/-- It was written then. -/
lemma Stands.mem_written (stands : Stands events path text) : path ∈ written events := by
  obtain ⟨before, after, rfl, -⟩ := stands
  rw [written_append]
  exact List.mem_append_right _ List.mem_cons_self

/-- If no two files that were written share a path and none was deleted, a file holds what was written. -/
lemma Stands.of_mem (mem : ⟨.writeFile path text, .ok ()⟩ ∈ events) (apart : (written events).Nodup)
    (undeleted : ∀ e ∈ events, ∀ path, e.call ≠ .deleteFile path) : Stands events path text := by
  obtain ⟨before, after, rfl⟩ := List.append_of_mem mem
  refine ⟨before, after, rfl, fun e later => ⟨fun again => ?_, ?_⟩⟩
  · rw [written_append] at apart
    refine (List.nodup_cons.1 (apart.of_append_right : (path :: written after).Nodup)).1 ?_
    exact List.mem_filterMap.2 ⟨e, later, again⟩
  · exact undeleted e (List.mem_append_right _ (List.mem_cons_of_mem _ later)) path

/-- A preparation that succeeds is noted down behind those before. -/
lemma preparedWith_concat (env : Environment ω) (past : List (Moment ω)) (m : Moment ω) :
    preparedWith env (past ++ [m]) = preparedWith env past ++ (m.prepared? env).toList := by
  rw [preparedWith, List.filterMap_append]
  cases prepared : m.prepared? env <;> simp [preparedWith, prepared]

/-- How a session was prepared, as far as it has come. -/
structure Prepared (env : Environment ω) (past : List (Moment ω)) (r : Run ω) : Prop where
  unprepared : r.session.stage = .unconfigured ∨ r.session.stage = .configured →
    preparedWith env past = []
  once : (preparedWith env past).length ≤ 1
  /-- What is kept for the ports of the helpers was rendered by the one preparation that succeeded. -/
  furnished : r.session.stage = .loaded ∨ r.session.stage = .running →
    ∃ underTunnel compiled, preparedWith env past = [underTunnel] ∧
      r.session.compiled = some compiled ∧ ∀ helpers ∈ compiled.external,
        ∀ entry ∈ helpers.entries, Furnished underTunnel helpers entry r

namespace Prepared

/-- A session that was not prepared is as far as it has come before it is loaded. -/
lemma of_nil (nothing : preparedWith env past = [])
    (early : ¬(r.session.stage = .loaded ∨ r.session.stage = .running)) : Prepared env past r := by
  refine ⟨fun _ => nothing, ?_, fun ready => absurd ready early⟩
  rw [nothing]
  exact Nat.zero_le 1

/-- It stays so as long as nothing new is kept for the helpers. -/
lemma later (h : Prepared env past r)
    (ready : r'.session.stage = .loaded ∨ r'.session.stage = .running →
      r.session.stage = .loaded ∨ r.session.stage = .running)
    (early : r'.session.stage = .unconfigured ∨ r'.session.stage = .configured →
      r.session.stage = .unconfigured ∨ r.session.stage = .configured)
    (same : preparedWith env past' = preparedWith env past)
    (continues : Continues r.session r'.session) (trace : r'.trace = r.trace ++ events)
    (configs : r'.session.helperConfigs = r.session.helperConfigs) : Prepared env past' r' := by
  refine ⟨fun stage => ?_, ?_, fun stage => ?_⟩
  · rw [same]
    exact h.unprepared (early stage)
  · rw [same]
    exact h.once
  · obtain ⟨underTunnel, compiled, prepared, found, furnished⟩ := h.furnished (ready stage)
    refine ⟨underTunnel, compiled, same.trans prepared, continues.compiled compiled found, ?_⟩
    intro helpers memHelpers entry mem
    have kept := congrArg (Table.get? · entry.1) configs
    exact (furnished helpers memHelpers entry mem).later trace continues.settings kept

end Prepared

/-- An operation that prepares nothing is not noted down. -/
lemma preparedWith_of_none {m : Moment ω} (none : m.prepared? env = none) :
    preparedWith env (past ++ [m]) = preparedWith env past := by
  rw [preparedWith_concat, none, Option.toList_none, List.append_nil]

/-- Only a preparation that succeeds is noted down. -/
lemma Moment.prepared?_of_failed {op : Operation} {e : SessionError}
    (fails : op.outcome env r = .error e) : Moment.prepared? env ⟨r, op⟩ = none := by
  cases op with
  | prepare underTunnel =>
    rw [Moment.prepared?, Moment.succeeds, fails]
    rfl
  | _ => rfl

namespace Prepared

/-- A phase that is not open to the stage is refused, and nothing changes. -/
lemma refused (h : Prepared env past r) {op : Operation} {phase : Phase} (is : op.phase? = some phase)
    (other : r.session.stage ≠ phase.before) :
    Prepared env (past ++ [⟨r, op⟩]) (op.perform env r) := by
  obtain ⟨fails, same⟩ := @Operation.perform_of_ne _ env op phase is r other
  rw [same]
  exact h.later id id (preparedWith_of_none (Moment.prepared?_of_failed fails)) (.of_eq rfl rfl)
    (List.append_nil _).symm rfl

/-- A preparation furnishes every helper anew, and is the only one that succeeds. -/
lemma prepare (h : Prepared env past r) (lived : Lived env r) (distinct : r.session.PortsDistinct)
    (underTunnel : Bool) : Prepared env (past ++ [⟨r, .prepare underTunnel⟩])
      ((Operation.prepare underTunnel).perform env r) := by
  by_cases stage : r.session.stage = Phase.prepare.before
  case neg => exact h.refused rfl stage
  have before : preparedWith env past = [] := h.unprepared (.inr stage)
  have furnishes : Does (Session.prepare env underTunnel) r _ :=
    furnishes_prepare underTunnel lived.remembers.indexes distinct
  obtain ⟨events, trace, -, furnished⟩ := furnishes
  have inOrder := (Operation.prepare underTunnel).inOrder env r
  cases ends : (Operation.prepare underTunnel).outcome env r with
  | error e =>
    -- Some helpers may have been furnished, but the next attempt furnishes them again.
    refine .of_nil ((preparedWith_of_none (Moment.prepared?_of_failed ends)).trans before) ?_
    rw [inOrder.stays e ends, stage]
    simp [Phase.before]
  | ok _ =>
    obtain ⟨-, loaded, -⟩ := inOrder.advances .prepare rfl ends
    have now : preparedWith env (past ++ [⟨r, .prepare underTunnel⟩]) = [underTunnel] := by
      rw [preparedWith_concat, before, Moment.prepared?, Moment.succeeds, ends]
      rfl
    refine ⟨fun early => ?_, ?_, fun _ => ?_⟩
    · rw [loaded] at early
      simp [Phase.after] at early
    · rw [now]
      exact Nat.le_refl 1
    · obtain ⟨compiled, found, each⟩ := furnished ends
      have continues := lived.continues (.perform (.prepare underTunnel))
      exact ⟨underTunnel, compiled, now, continues.compiled compiled found, each⟩

/-- A start leaves what was prepared as it is. -/
lemma start (h : Prepared env past r) (lived : Lived env r) :
    Prepared env (past ++ [⟨r, .start⟩]) (Operation.start.perform env r) := by
  by_cases stage : r.session.stage = Phase.start.before
  case neg => exact h.refused rfl stage
  refine h.later (fun _ => .inl stage) (fun early => ?_) (preparedWith_of_none rfl)
    (lived.continues (.perform .start)) (Operation.trace_perform env .start r)
    (servesInTurn_events lived).1
  obtain ⟨_, -, passed⟩ := Operation.start.passes rfl env r
  rw [passed.stage, stage] at early
  split at early <;> simp [Phase.before, Phase.after] at early

/-- Whatever is asked of a session, it is prepared as far as it has come. -/
lemma perform (h : Prepared env past r) (lived : Lived env r) (distinct : r.session.PortsDistinct)
    (op : Operation) : Prepared env (past ++ [⟨r, op⟩]) (op.perform env r) := by
  cases op with
  | build =>
    have same : preparedWith env (past ++ [⟨r, .build⟩]) = preparedWith env past :=
      preparedWith_of_none rfl
    rw [Operation.perform, leaves]
    obtain ⟨e, failed⟩ | ⟨compiled, stage, -, built⟩ := build_cases env r
    · rw [failed]
      exact h.later id id same (.of_eq rfl rfl) (List.append_nil _).symm rfl
    · rw [built]
      exact .of_nil (same.trans (h.unprepared (.inl stage))) (by simp [Phase.after])
  | prepare underTunnel => exact h.prepare lived distinct underTunnel
  | start => exact h.start lived
  | close =>
    have closed := Operation.stage_close env r
    have same : preparedWith env (past ++ [⟨r, .close⟩]) = preparedWith env past :=
      preparedWith_of_none rfl
    refine ⟨fun early => ?_, same ▸ h.once, fun ready => ?_⟩
    · rw [closed] at early
      simp at early
    · rw [closed] at ready
      simp at ready
  | attach external =>
    exact h.later id id (preparedWith_of_none rfl) (.of_eq rfl rfl) (List.append_nil _).symm rfl

end Prepared

namespace History

/-- With distinct ports every session is prepared as far as it has come. -/
theorem prepared (history : History env past r) (distinct : r.session.PortsDistinct) :
    Prepared env past r := by
  induction history with
  | fresh => exact .of_nil rfl (by simp [Run.fresh])
  | @perform op _ r history ih =>
    have before := (history.lived.continues (.perform op)).portsDistinct distinct
    exact (ih before).perform history.lived before op
  | meanwhile history happens ih =>
    have continues := history.lived.continues happens.happens
    obtain ⟨stage, configs, _, trace, -⟩ := happens.idle
    refine (ih (continues.portsDistinct distinct)).later ?_ ?_ rfl continues trace configs
    · exact fun ready => stage ▸ ready
    · exact fun early => stage ▸ early

end History

/-- What a helper is started on when a port is handed over to it: a file of its own. -/
structure Commission (s : Settings) (underTunnel : Bool) (helpers : ExternalChain) (h : Handover)
    (command : Helper.Command) (path : Path) (name : String) (rendered : Helper.Rendered) (doc : Json) :
    Prop where
  entry : h.entry ∈ helpers.entries
  /-- It is started by the command of its hop for that file, which names it as its path is shown. -/
  built : ∃ program, Helper.command h.entry.2.profile program path s = some command
  named : Helper.ConfiguredBy command.words path.display
  /-- The file holds what was rendered for the hop, the port that is handed over and its relay. -/
  renders : Helper.render h.entry.2.profile (helpers.ports h.entry.1) underTunnel s name
    = some rendered
  printed : rendered.config = doc.pretty
  config : Stands h.past path rendered.config
  /-- The file of certificates that this names, as its path is shown, was completely written with those of
  the hop, and if no two files share a path it still holds them. -/
  certificates : ∀ shown, doc.NamesCertificates shown → ∃ hysteria file,
    h.entry.2.profile.variant = .hysteria hysteria ∧ file.display = shown ∧
      ⟨.writeFile file hysteria.certificates, .ok ()⟩ ∈ h.past ∧
      ((written h.past).Nodup → Stands h.past file hysteria.certificates)
  /-- Neither of them was deleted, and no other file was. -/
  undeleted : ∀ e ∈ h.past, ∀ file, e.call ≠ .deleteFile file

/-- A helper finds its files by their names: in the file that its words name is what was rendered for it,
and the file of certificates that this names was written with those of the hop. -/
structure Handover.Finds (h : Handover) (command : Helper.Command) (rendered : Helper.Rendered)
    (doc : Json) : Prop where
  config : ∃ word, Helper.ConfiguredBy command.words word ∧
    Stands h.past (.ofText word) rendered.config
  certificates : ∀ shown, doc.NamesCertificates shown → ∃ hysteria,
    h.entry.2.profile.variant = .hysteria hysteria ∧
      ⟨.writeFile (.ofText shown) hysteria.certificates, .ok ()⟩ ∈ h.past ∧
      ((written h.past).Nodup → Stands h.past (.ofText shown) hysteria.certificates)

/-- A helper finds its files exactly if the cache directory is a text, as all files are made in it. -/
lemma Commission.finds_iff {s : Settings} {underTunnel : Bool} {helpers : ExternalChain} {h : Handover}
    {command : Helper.Command} {name : String} {rendered : Helper.Rendered} {doc : Json}
    (commission : Commission s underTunnel helpers h command path name rendered doc)
    (made : ∀ path ∈ written h.past, ∃ name, MadeFrom s name path) :
    h.Finds command rendered doc ↔ s.cacheDir.IsText := by
  constructor
  · intro finds
    obtain ⟨word, -, stands⟩ := finds.config
    obtain ⟨name, made⟩ := made _ stands.mem_written
    exact made.isText_iff.1 ⟨word, rfl⟩
  · intro isText
    have shown {file : Path} (mem : file ∈ written h.past) : Path.ofText file.display = file := by
      obtain ⟨name, made⟩ := made file mem
      exact Path.isText_iff.1 (made.isText_iff.2 isText)
    refine ⟨⟨path.display, commission.named, ?_⟩, fun named names => ?_⟩
    · rw [shown commission.config.mem_written]
      exact commission.config
    · obtain ⟨hysteria, file, variant, rfl, wrote, stands⟩ := commission.certificates named names
      have mem : file ∈ written h.past := List.mem_filterMap.2 ⟨_, wrote, rfl⟩
      rw [shown mem]
      exact ⟨hysteria, variant, wrote, stands⟩

/-- A helper that is furnished is started on what it is furnished with. -/
lemma Session.Furnished.commission {underTunnel : Bool} {helpers : ExternalChain} {h : Handover}
    {command : Helper.Command} {between : List Event}
    (furnished : Furnished underTunnel helpers h.entry r) (listed : h.entry ∈ helpers.entries)
    (served : Served r.session h.entry (h.past, h.event)) (asked : h.command? = some command)
    (earlier : h.past = r.trace ++ between)
    (undeleted : ∀ e ∈ h.past, ∀ file, e.call ≠ .deleteFile file) : ∃ path name rendered doc,
      Commission r.session.settings underTunnel helpers h command path name rendered doc := by
  obtain ⟨name, rendered, renders, kept, wrote⟩ := furnished
  obtain ⟨entry, past, e⟩ := h
  dsimp only at *
  cases served with
  | external attached => cases asked
  | @helper before _ program path config _ _ free which known kept' built =>
    cases asked
    -- The text that is written for the start is the one that is kept for the port.
    obtain rfl : rendered.config = config := Option.some.inj (kept.symm.trans kept')
    obtain ⟨doc, printed, names⟩ := Helper.render_certificates renders
    refine ⟨path, name, rendered, doc, listed, ⟨program, built⟩, Helper.configuredBy_command built,
      renders, printed, ⟨before, [], rfl, List.forall_mem_nil _⟩, fun shown named => ?_, undeleted⟩
    obtain ⟨hysteria, file, variant, given, displayed⟩ := (names shown).1 named
    have written : ⟨.writeFile file hysteria.certificates, .ok ()⟩ ∈
        before ++ [⟨.writeFile path rendered.config, .ok ()⟩] := by
      rw [earlier]
      exact List.mem_append_left _ (wrote _ given)
    exact ⟨hysteria, file, variant, displayed, written, fun apart => .of_mem written apart undeleted⟩

/-- A handover to a helper is one to the right helper, on what was rendered for it by the preparation that
succeeded. The helper finds this by name exactly if the cache directory is a text. -/
def Commissioned (env : Environment ω) (past : List (Moment ω)) (r : Run ω) (h : Handover) : Prop :=
  ∀ command, h.command? = some command → ∃ underTunnel compiled helpers path name rendered doc,
    preparedWith env past = [underTunnel] ∧ r.session.compiled = some compiled ∧
    compiled.external = [helpers] ∧
    Commission r.session.settings underTunnel helpers h command path name rendered doc ∧
    (h.Finds command rendered doc ↔ r.session.settings.cacheDir.IsText)

/-- What was handed over stays so later on, as there is no second preparation. -/
lemma Commissioned.later {h : Handover} (commissioned : Commissioned env past r h)
    (continues : Continues r.session r'.session) (grows : preparedWith env past <+: preparedWith env past')
    (once : (preparedWith env past').length ≤ 1) : Commissioned env past' r' h := by
  intro command asked
  obtain ⟨underTunnel, compiled, helpers, path, name, rendered, doc, prepared, found, one, commission⟩ :=
    commissioned command asked
  refine ⟨underTunnel, compiled, helpers, path, name, rendered, doc, ?_,
    continues.compiled compiled found, one, ?_⟩
  · rw [prepared] at grows
    exact (grows.eq_of_length_le once).symm
  · rw [continues.settings]
    exact commission

namespace Moment

/-- What a start hands over. -/
lemma served_of_mem_handovers (lived : Lived env r) {op : Operation} {h : Handover}
    (mem : h ∈ (⟨r, op⟩ : Moment ω).handovers env) :
    op = .start ∧ h.entry ∈ r.session.entries ∧ Served r.session h.entry (h.past, h.event) ∧
      ∃ between after, h.past = r.trace ++ between ∧
        (Operation.start.perform env r).trace = h.past ++ h.event :: after := by
  cases op with
  | start =>
    obtain ⟨⟨entry, before, e⟩, zipped, rfl⟩ := List.mem_map.1 mem
    obtain ⟨-, serves⟩ := servesInTurn_events lived
    obtain ⟨between, after, events, same⟩ := append_of_mem_servings (List.of_mem_zip zipped).2
    refine ⟨rfl, (List.of_mem_zip zipped).1, serves.served _ zipped, between, after, same, ?_⟩
    rw [Operation.trace_perform, events]
    dsimp only
    rw [same, List.append_assoc]
  | _ => cases mem

/-- Ports are handed over only by sessions that are loaded. -/
lemma stage_of_mem_handovers (lived : Lived env r) {h : Handover}
    (mem : h ∈ (⟨r, .start⟩ : Moment ω).handovers env) : r.session.stage = .loaded := by
  -- At any other stage a start does nothing.
  by_contra other
  obtain ⟨-, -, -, between, after, past, trace⟩ := served_of_mem_handovers lived mem
  have same := (@Operation.perform_of_ne _ env .start .start rfl r other).2
  rw [same, past, List.append_assoc] at trace
  have nothing := List.append_cancel_left ((List.append_nil _).trans trace)
  simp at nothing

/-- Nothing was taken down before a port is handed over. -/
lemma pending_of_mem_handovers (lived : Lived env r) {op : Operation} {h : Handover}
    (mem : h ∈ (⟨r, op⟩ : Moment ω).handovers env) : ∀ e ∈ h.past, e.call.isTeardown = false := by
  obtain ⟨rfl, -, -, -, after, -, trace⟩ := served_of_mem_handovers lived mem
  have opened : (Operation.start.perform env r).session.stage ≠ .closed := by
    refine @Operation.stage_ne_closed _ env r .start .start rfl ?_
    rw [stage_of_mem_handovers lived mem]
    decide
  have pending := ((lived.step (.perform .start)).inHand.pending opened).calls
  rw [trace, List.forall_mem_append] at pending
  exact pending.1

end Moment

namespace History

/-- Whatever a session hands over to a helper is what was rendered for that. -/
lemma commissioned (history : History env past r) (distinct : r.session.PortsDistinct) {op : Operation}
    {h : Handover} (mem : h ∈ (⟨r, op⟩ : Moment ω).handovers env) : Commissioned env past r h := by
  intro command asked
  obtain ⟨rfl, listed, served, between, after, earlier, trace⟩ :=
    Moment.served_of_mem_handovers history.lived mem
  have loaded := Moment.stage_of_mem_handovers history.lived mem
  obtain ⟨underTunnel, compiled, prepared, found, furnished⟩ :=
    (history.prepared distinct).furnished (.inl loaded)
  obtain ⟨helpers, one, -⟩ := history.lived.remembers.indexes compiled found
  rw [entries_eq found one] at listed
  have undeleted : ∀ e ∈ h.past, ∀ file, e.call ≠ .deleteFile file := by
    intro e before file deletes
    have pending := Moment.pending_of_mem_handovers history.lived mem e before
    rw [deletes] at pending
    cases pending
  have ready := furnished helpers (by rw [one]; exact List.mem_singleton_self _) h.entry listed
  obtain ⟨path, name, rendered, doc, commission⟩ :=
    ready.commission listed served asked earlier undeleted
  have made : ∀ path ∈ written h.past, ∃ name, MadeFrom r.session.settings name path := by
    have later := (history.lived.step (.perform .start)).made
    rw [trace, written_append, (history.lived.continues (.perform .start)).settings] at later
    exact (List.forall_mem_append.1 later).1
  exact ⟨underTunnel, compiled, helpers, path, name, rendered, doc, prepared, found, one, commission,
    commission.finds_iff made⟩

/-- Whatever is asked of a session, however often and whatever fails: the ports that it has served are
those that it has handed over, and whenever it handed one over to a helper, the helper was started on the
configuration that the one successful preparation had rendered for its hop. It finds this, and the
certificates that go with it, by the names that it is told exactly if the cache directory is a text. -/
theorem commissions (history : History env past r) (distinct : r.session.PortsDistinct) :
    (handovers env past).map Handover.event = r.trace.filter Event.isServing ∧
      ∀ h ∈ handovers env past, h.past ++ [h.event] <+: r.trace ∧ Commissioned env past r h := by
  refine ⟨history.map_event_handovers distinct, ?_⟩
  induction history with
  | fresh => exact List.forall_mem_nil _
  | @perform op past r history ih =>
    have continues := history.lived.continues (.perform op)
    have before := continues.portsDistinct distinct
    -- What was handed over before was done so after the same preparation, as there is only one.
    have later {h : Handover} (commissioned : Commissioned env past r h) :
        Commissioned env (past ++ [⟨r, op⟩]) (op.perform env r) h := by
      refine commissioned.later continues ?_ ((history.perform op).prepared distinct).once
      rw [preparedWith_concat]
      exact List.prefix_append _ _
    rw [handovers_concat, List.forall_mem_append]
    constructor
    · intro h mem
      obtain ⟨part, commissioned⟩ := ih before h mem
      refine ⟨part.trans ?_, later commissioned⟩
      rw [Operation.trace_perform]
      exact List.prefix_append _ _
    · intro h mem
      obtain ⟨rfl, -, -, -, after, -, trace⟩ := Moment.served_of_mem_handovers history.lived mem
      refine ⟨⟨after, ?_⟩, later (history.commissioned before mem)⟩
      rw [trace, List.append_assoc]
      rfl
  | meanwhile history happens ih =>
    have continues := history.lived.continues happens.happens
    have before := continues.portsDistinct distinct
    intro h mem
    obtain ⟨part, commissioned⟩ := ih before h mem
    obtain ⟨-, -, _, trace, -⟩ := happens.idle
    refine ⟨part.trans ⟨_, trace.symm⟩, ?_⟩
    exact commissioned.later continues (List.prefix_rfl) (history.prepared before).once

/-- Surroundings in which the core does only every second time what is asked of it. -/
def faltering : Environment (Bool × Nat) where
  perform c world :=
    match c with
    | .loadCore .. | .startCore => (if world.1 then .ok () else .error "not yet", !world.1, world.2)
    | c => ((Reachable.willing.perform c ()).1, world)
  systemPorts _ _ := .error ""
  freshName world := (String.ofList (List.replicate world.2 'a'), world.1, world.2 + 1)
  helperCount _ := 0
  wait _ world := world
  now _ := 0

/-- What was asked of a session over a helper with certificates that had to be prepared and started
twice, and where that has led to. -/
def retried : List (Moment (Bool × Nat)) × Run (Bool × Nat) :=
  Operation.performAll faltering [.build, .prepare true, .prepare false, .start, .start]
    (.certified (false, 0))

/-- It starts the helper both times on what the second preparation has rendered, and the helper finds it. -/
theorem commissions_retried :
    History faltering retried.1 retried.2 ∧ retried.2.session.PortsDistinct ∧
      retried.1.map (Moment.succeeds faltering) = [true, false, true, false, true] ∧
      (handovers faltering retried.1).map Handover.started = [true, true] ∧
      preparedWith faltering retried.1 = [false] ∧ ∀ h ∈ handovers faltering retried.1,
        h.past ++ [h.event] <+: retried.2.trace ∧ Commissioned faltering retried.1 retried.2 h ∧
        ∀ command, h.command? = some command → ∃ rendered doc, h.Finds command rendered doc := by
  have history : History faltering retried.1 retried.2 := .of_fresh
  have ports : retried.2.session.compiled.map Compiled.ports = some [41000] := by decide +kernel
  have distinct : retried.2.session.PortsDistinct := .of_map_ports ports (List.nodup_singleton _)
  have directory : retried.2.session.settings.cacheDir = .ofText "" := by decide +kernel
  refine ⟨history, distinct, by decide +kernel, by decide +kernel, by decide +kernel, fun h mem => ?_⟩
  obtain ⟨part, commissioned⟩ := (history.commissions distinct).2 h mem
  refine ⟨part, commissioned, fun command asked => ?_⟩
  obtain ⟨_, _, _, _, _, rendered, doc, -, -, -, -, finds_iff⟩ := commissioned command asked
  exact ⟨rendered, doc, finds_iff.2 ⟨"", directory⟩⟩

/-- What was asked of a session over a helper with certificates whose cache directory is no text, and
where that has led to. -/
def mislaid : List (Moment Unit) × Run Unit :=
  Operation.performAll Reachable.willing [.build, .prepare false, .start]
    (.fresh (Run.certified ()).session.chain
      { cacheDir := ⟨[0x2F, 0x63, 0xFF]⟩, helperPortBase := 41000 } {} false ())

/-- All goes well, but the file that the words of its helper name was never written. -/
theorem not_finds_mislaid :
    History Reachable.willing mislaid.1 mislaid.2 ∧ mislaid.2.session.PortsDistinct ∧
      mislaid.1.map (Moment.succeeds Reachable.willing) = [true, true, true] ∧
      (handovers Reachable.willing mislaid.1).map (fun h => h.command?.map Helper.Command.words)
        = [some ["su", "-c", "hysteria2-plugin", "client", "--config",
            "/c\uFFFD/tmpcfg/hysteria_.json", "--log-level", "error"]] ∧
      (written mislaid.2.trace).map Path.bytes
        = [[0x2F, 0x63, 0xFF] ++ Wire.utf8 "/hysteria_.ca",
           [0x2F, 0x63, 0xFF] ++ Wire.utf8 "/tmpcfg/hysteria_.json"] ∧
      ∀ h ∈ handovers Reachable.willing mislaid.1, ∀ command, h.command? = some command →
        ∀ rendered doc, ¬ h.Finds command rendered doc := by
  have ports : mislaid.2.session.compiled.map Compiled.ports = some [41000] := by decide +kernel
  have words : ∀ h ∈ handovers Reachable.willing mislaid.1, h.command?.map Helper.Command.words
      = some ["su", "-c", "hysteria2-plugin", "client", "--config", "/c\uFFFD/tmpcfg/hysteria_.json",
          "--log-level", "error"] := by decide +kernel
  have elsewhere : ∀ h ∈ handovers Reachable.willing mislaid.1,
      .ofText "/c\uFFFD/tmpcfg/hysteria_.json" ∉ written h.past := by decide +kernel
  refine ⟨.of_fresh, .of_map_ports ports (List.nodup_singleton _), by decide +kernel,
    by decide +kernel, by decide +kernel, fun h mem command asked rendered doc finds => ?_⟩
  obtain ⟨word, configured, stands⟩ := finds.config
  have named := words h mem
  rw [asked, Option.map_some, Option.some.injEq] at named
  rw [named] at configured
  obtain rfl := configured.unique (.privileged _ _ _)
  exact elsewhere h mem stands.mem_written

end History

end ProxyChain
