import ProxyChain.Proofs.Session.Lifetime
import ProxyChain.Proofs.Session.Lookup

/-!
# Finding the programs of helpers

As long as it lives a session remembers which programs were found, whatever became of the preparation
that has found them (`Run.Remembers`). So it asks for the programs of its chain's helpers alone, for none
that was found before, and again for one that was not wherever a preparation gets to a hop that needs it
(`Session.Reaches`), each time in the order of the chain (`Lived.findsPrograms`).
-/

namespace ProxyChain

open SessionM

variable {ω : Type} {env : Environment ω} {r r' : Run ω} {events events' : List Event}

/-- Helpers go by their names. -/
lemma Helper.name_injective {helper helper' : Helper} (same : helper.name = helper'.name) :
    helper = helper' := by
  cases helper <;> cases helper' <;> first | rfl | exact absurd same (by decide)

/-- A helper is resolved if it was asked for with success. -/
lemma mem_resolved {e : Event} {helper : Helper} (mem : e ∈ events) (ok : e.succeeded = true)
    (asks : e.asks? = some helper) : helper ∈ resolved events :=
  List.mem_filterMap.2 ⟨e, List.mem_filter.2 ⟨mem, ok⟩, asks⟩

/-- A helper is asked for by an event that asks for it. -/
lemma mem_asked {e : Event} {helper : Helper} (mem : e ∈ events) (asks : e.asks? = some helper) :
    helper ∈ asked events :=
  List.mem_filterMap.2 ⟨e, mem, asks⟩

/-- A list without its repetitions has none. -/
lemma nodup_eraseDups {α : Type} [BEq α] [LawfulBEq α] (xs : List α) : xs.eraseDups.Nodup := by
  induction hn : xs.length using Nat.strongRecOn generalizing xs with
  | _ n ih =>
    cases xs with
    | nil => exact List.nodup_nil
    | cons x xs =>
      rw [List.eraseDups_cons, List.nodup_cons]
      refine ⟨fun mem => ?_, ih _ ?_ _ rfl⟩
      · have other := (List.mem_filter.1 (List.mem_eraseDups.1 mem)).2
        rw [beq_self_eq_true] at other
        cases other
      · rw [← hn]
        exact Nat.lt_succ_of_le (List.length_filter_le _ xs)

/-- An event after which another does not ask for a program that was found in it. -/
def Event.Settles (e e' : Event) : Prop :=
  ∀ helper, e.asks? = some helper → e.succeeded = true → e'.asks? ≠ some helper

/-- What a session remembers of its calls. -/
structure Run.Remembers (r : Run ω) : Prop where
  indexes : r.session.IndexesChain
  knows : ∀ helper, r.session.knows helper = true ↔ helper ∈ resolved r.trace
  needed : asked r.trace ⊆ neededHelpers r.session.chain
  settled : r.trace.Pairwise Event.Settles

namespace Session

namespace LooksUp

variable {needed : List Helper}

/-- What is looked up is needed and was not known. -/
lemma unknown (h : LooksUp needed r events r') {helper : Helper} (asks : helper ∈ asked events) :
    helper ∈ needed ∧ r.session.knows helper = false := by
  obtain ⟨mem, unknown⟩ := List.mem_filter.1 (List.mem_eraseDups.1 (h.inOrder.subset asks))
  rw [Bool.not_eq_true'] at unknown
  exact ⟨mem, unknown⟩

/-- No program that was found is asked for again. -/
lemma settles (h : LooksUp needed r events r') : events.Pairwise Event.Settles := by
  have nodup : (asked events).Nodup := (nodup_eraseDups _).sublist h.inOrder.sublist
  refine (List.pairwise_filterMap.1 nodup).imp ?_
  intro e e' different helper asks _ asks'
  exact different helper asks helper asks' rfl

/-- Programs are known if and only if they were found. -/
lemma knows_iff (h : LooksUp needed r events r') (trace : r'.trace = r.trace ++ events)
    (knows : ∀ helper, r.session.knows helper = true ↔ helper ∈ resolved r.trace) (helper : Helper) :
    r'.session.knows helper = true ↔ helper ∈ resolved r'.trace := by
  rw [h.knows, knows, trace, resolved_append, List.mem_append]

end LooksUp

/-- A preparation reaches what stands behind the first hops of the chain: in some run all helpers that
these need are prepared. -/
structure Reaches (env : Environment ω) (underTunnel : Bool) (r : Run ω) (front : List Record)
    (r' : Run ω) : Prop where
  stage : r.session.stage = Phase.prepare.before
  prepared : ∃ compiled, ∃ helpers : ExternalChain, r.session.compiled = some compiled ∧
    compiled.external = [helpers] ∧
      let before := helpers.entries.take (front.countP fun record => record.profile.needsHelper)
      result (before.forM (prepareEntry env underTunnel helpers)) r = .ok () ∧
        leaves (before.forM (prepareEntry env underTunnel helpers)) r = r'

/-- A preparation that reaches a hop has looked up programs on the way. -/
lemma Reaches.looksUp {underTunnel : Bool} {front : List Record}
    (reaches : Reaches env underTunnel r front r') (indexes : r.session.IndexesChain) :
    ∃ needed events, r'.trace = r.trace ++ events ∧ LooksUp needed r events r' := by
  obtain ⟨compiled, helpers, found, one, -, rfl⟩ := reaches.prepared
  have needs (entry : UInt16 × Record)
      (mem : entry ∈ helpers.entries.take (front.countP fun record => record.profile.needsHelper)) :
      entry.2.profile.needsHelper = true := by
    refine indexes.needsHelper compiled found entry ?_
    rw [one, List.flatMap_singleton]
    exact List.mem_of_mem_take mem
  exact ⟨_, looksUp_prepareEntries underTunnel helpers needs r⟩

/-- Events lead to a run, from which on the program of a helper is asked for first. -/
def AsksAfter (r r' : Run ω) (helper : Helper) (events : List Event) : Prop :=
  ∃ later, r.trace ++ events = r'.trace ++ later ∧ (asked later).head? = some helper

/-- What is asked for first stays first. -/
lemma head?_asked_append {helper : Helper} (own : (asked events).head? = some helper) :
    (asked (events ++ events')).head? = some helper := by
  rw [asked_append, List.head?_append, own]
  rfl

/-- What follows does not change what is asked for first. -/
lemma AsksAfter.append {helper : Helper} (events events' : List Event)
    (h : AsksAfter r r' helper events) : AsksAfter r r' helper (events ++ events') := by
  obtain ⟨later, trace, own⟩ := h
  refine ⟨later ++ events', ?_, head?_asked_append own⟩
  rw [← List.append_assoc, trace, List.append_assoc]

/-- What is known of the first calls is not affected by what follows. -/
lemma does_bind_of_first {α β : Type} {x : SessionM ω α} {f : α → SessionM ω β}
    {post : List Event → Prop} (first : Does x r fun _ events _ => post events)
    (others : ∀ a, Always Prepares (f a))
    (stays : ∀ events events', post events → post (events ++ events')) :
    Does (x >>= f) r fun _ events _ => post events := by
  refine .bind (first.mono fun result events r' holds => ?_)
  cases result with
  | error e => exact holds
  | ok a => exact (others a r').mono fun _ events' _ _ => stays events events' holds

/-- Of entries that were prepared up to one whose helper is unknown, the program of this helper is asked
for next. -/
lemma does_prepareEntries_of_reached (underTunnel : Bool) (helpers : ExternalChain)
    {before : List (UInt16 × Record)} {entry : UInt16 × Record} {helper : Helper}
    (after : List (UInt16 × Record)) (needs : entry.2.profile.needsHelper = true)
    (which : Helper.of? entry.2.profile = some helper)
    (prepared : result (before.forM (prepareEntry env underTunnel helpers)) r = .ok ())
    (reached : leaves (before.forM (prepareEntry env underTunnel helpers)) r = r')
    (unknown : r'.session.knows helper = false) :
    Does ((before ++ entry :: after).forM (prepareEntry env underTunnel helpers)) r fun _ events _ =>
      AsksAfter r r' helper events := by
  have work (entries : List (UInt16 × Record)) :
      Always Prepares (entries.forM (prepareEntry env underTunnel helpers)) :=
    .forM fun entry _ => (works_prepareEntry underTunnel helpers entry).mono fun _ _ _ => Works.prepares
  have next : Does ((entry :: after).forM (prepareEntry env underTunnel helpers)) r'
      fun _ events _ => (asked events).head? = some helper := by
    refine does_bind_of_first ((does_prepareEntry underTunnel helpers needs which r').mono ?_)
      (fun _ => work after) fun _ _ => head?_asked_append
    rintro _ events _ ⟨asks, -⟩
    rw [asks.calls, unknown]
    rfl
  obtain ⟨events, trace, -⟩ := work before r
  have split : (before ++ entry :: after).forM (prepareEntry env underTunnel helpers)
      = before.forM (prepareEntry env underTunnel helpers) >>= fun _ =>
        (entry :: after).forM (prepareEntry env underTunnel helpers) := List.forM_append
  rw [split]
  refine .bind ⟨events, trace, ?_⟩
  rw [prepared]
  rw [reached] at trace ⊢
  refine next.mono fun _ later _ own => ⟨later, ?_, own⟩
  rw [trace, List.append_assoc]

/-- A preparation that reaches a hop whose helper is unknown asks for its program next. -/
theorem asks_of_reaches {underTunnel : Bool} {front back : List Record} {record : Record}
    {helper : Helper} (indexes : r.session.IndexesChain)
    (hop : r.session.chain = front ++ record :: back) (needs : record.profile.needsHelper = true)
    (which : Helper.of? record.profile = some helper) (reaches : Reaches env underTunnel r front r')
    (unknown : r'.session.knows helper = false) :
    ∃ events, (leaves (prepare env underTunnel) r).trace = r'.trace ++ events ∧
      (asked events).head? = some helper := by
  obtain ⟨compiled, helpers, found, one, prepared, reached⟩ := reaches.prepared
  obtain ⟨before, entry, after, entries, fronts, rfl⟩ := indexes.exists_entry found one hop needs
  have taken : helpers.entries.take (front.countP fun record => record.profile.needsHelper)
      = before := by
    rw [entries, List.countP_eq_length_filter, ← fronts, List.length_map, List.take_left]
  rw [taken] at prepared reached
  have whole : Does (prepare env underTunnel) r fun _ events _ => AsksAfter r r' helper events := by
    refine .bind (.enter (fun _ => ?_) fun closed => absurd reaches.stage closed)
    refine .bind (.session (.bind (.require (fun compiled' found' => ?_) fun missing => ?_)))
    · obtain rfl : compiled' = compiled := Option.some.inj (found'.symm.trans found)
      dsimp only
      rw [one]
      have each := does_prepareEntries_of_reached underTunnel helpers after needs which
        prepared reached unknown
      rw [← entries] at each
      refine does_bind_of_first (does_bind_of_first each (fun _ => .pure _) AsksAfter.append)
        (fun _ => ?_) AsksAfter.append
      exact .bind .session fun s => .bind (prepares_call nofun) fun _ =>
        prepares_update fun _ => ⟨rfl, rfl, rfl, rfl, rfl⟩
    · rw [found] at missing
      cases missing
  obtain ⟨events, trace, later, same, own⟩ := whole
  exact ⟨later, trace.trans same, own⟩

end Session

/-- A step in which no more than programs that the chain needs are looked up. -/
structure Run.Consults (r r' : Run ω) : Prop where
  chain : r'.session.chain = r.session.chain
  indexes : r'.session.IndexesChain
  looked : ∃ events, r'.trace = r.trace ++ events ∧
    Session.LooksUp (neededHelpers r.session.chain) r events r'

/-- A session remembers its programs through a step that looks up no more than the chain needs. -/
lemma Run.Remembers.consults (h : r.Remembers) (consults : r.Consults r') : r'.Remembers := by
  obtain ⟨chain, indexes, events, trace, looks⟩ := consults
  refine ⟨indexes, looks.knows_iff trace h.knows, ?_, ?_⟩
  · rw [trace, asked_append, chain]
    exact List.append_subset.2 ⟨h.needed, fun helper mem => (looks.unknown mem).1⟩
  · rw [trace, List.pairwise_append]
    refine ⟨h.settled, looks.settles, fun e mem e' mem' helper asks ok asks' => ?_⟩
    -- What was found before is known, so that it is not looked up.
    have found := (h.knows helper).2 (mem_resolved mem ok asks)
    rw [(looks.unknown (mem_asked mem' asks')).2] at found
    cases found

/-- A step that asks for no program and compiles nothing. -/
lemma Session.KeepsPrograms.consults (keeps : Session.KeepsPrograms r events r')
    (trace : r'.trace = r.trace ++ events) (indexes : r.session.IndexesChain)
    (compiled : r'.session.compiled = r.session.compiled)
    (chain : r'.session.chain = r.session.chain) : r.Consults r' :=
  ⟨chain, indexes.of_same compiled chain, events, trace, keeps.looksUp _⟩

/-- Whatever happens to a session, no more than programs that its chain needs are looked up. -/
lemma Happens.consults (happens : Happens env r r') (indexes : r.session.IndexesChain) :
    r.Consults r' := by
  have nothing : r.trace = r.trace ++ [] := (List.append_nil _).symm
  have silent {r' : Run ω} (trace : r'.trace = r.trace)
      (programs : r'.session.programs = r.session.programs)
      (compiled : r'.session.compiled = r.session.compiled)
      (chain : r'.session.chain = r.session.chain) : r.Consults r' :=
    Session.KeepsPrograms.consults ⟨programs, rfl⟩ (trace.trans nothing) indexes compiled chain
  cases happens with
  | perform op =>
    cases op with
    | build =>
      rw [Operation.perform, leaves]
      obtain ⟨e, failed⟩ | ⟨compiled, -, compiles, built⟩ := Session.build_cases env r
      · rw [failed]
        exact silent rfl rfl rfl rfl
      · rw [built]
        refine ⟨rfl, fun compiled' found => ?_, [], nothing, Session.KeepsPrograms.looksUp ?_ _⟩
        · obtain rfl := Option.some.inj found
          exact Session.exists_index compiles
        · exact ⟨rfl, rfl⟩
    | prepare underTunnel =>
      have kept : Always Session.Prepares (Session.prepare env underTunnel) :=
        Session.prepares_prepare underTunnel
      obtain ⟨-, -, same, -⟩ := kept r
      exact ⟨same.chain, indexes.of_same same.compiled same.chain,
        Session.looksUp_prepare underTunnel indexes⟩
    | start =>
      obtain ⟨-, -, same, -⟩ := @Session.does_start _ env r indexes.needsHelper
      obtain ⟨events, trace, kept⟩ := @Session.keepsPrograms_start _ env r
      exact kept.consults trace indexes same.compiled same.chain
    | close =>
      obtain ⟨events, trace, kept⟩ := Session.keepsPrograms_close env r
      obtain ⟨-, -, -, same | closed⟩ := Session.quiet_close env r
      · exact kept.consults trace indexes (congrArg _ same) (congrArg _ same)
      · exact kept.consults trace indexes (by rw [closed]; rfl) (by rw [closed]; rfl)
    | attach => exact silent rfl rfl rfl rfl
  | @ask c measures =>
    have kept : Session.KeepsPrograms r [⟨c, (r.perform env c).1⟩] (r.perform env c).2 := by
      refine ⟨rfl, ?_⟩
      cases c <;> first | rfl | cases measures
    exact kept.consults rfl indexes rfl rfl
  | asTest | govern | drift => exact silent rfl rfl rfl rfl

/-- How the programs of helpers are found. -/
structure FindsPrograms (env : Environment ω) (r : Run ω) : Prop where
  /-- Only programs are asked for that a hop of the chain needs. -/
  needed : ∀ e ∈ r.trace, ∀ helper, e.asks? = some helper → ∃ record ∈ r.session.chain,
    record.profile.needsHelper = true ∧ Helper.of? record.profile = some helper
  /-- What was found is never asked for again. -/
  once : r.trace.Pairwise fun e e' => ∀ helper helper', e.asks? = some helper →
    e.succeeded = true → e'.asks? = some helper' → helper'.name ≠ helper.name
  /-- A preparation asks for those that were not found yet, in the order of their first occurrences in
  the chain, as far as it gets. -/
  inOrder : ∀ underTunnel, ∃ events,
    (leaves (Session.prepare env underTunnel) r).trace = r.trace ++ events ∧
      asked events <+: ((neededHelpers r.session.chain).filter fun helper =>
        decide (helper ∉ resolved r.trace)).eraseDups
  /-- Where it reaches a hop whose helper was not found, it asks for this one next. -/
  again : ∀ (underTunnel : Bool) (front back : List Record) (record : Record) (helper : Helper)
    (r' : Run ω), r.session.chain = front ++ record :: back → record.profile.needsHelper = true →
      Helper.of? record.profile = some helper → Session.Reaches env underTunnel r front r' →
        helper ∉ resolved r'.trace → ∃ events,
          (leaves (Session.prepare env underTunnel) r).trace = r'.trace ++ events ∧
            (asked events).head? = some helper

namespace Lived

/-- Every session remembers its programs. -/
lemma remembers (lived : Lived env r) : r.Remembers := by
  induction lived with
  | fresh => exact ⟨nofun, fun _ => ⟨nofun, nofun⟩, List.nil_subset _, .nil⟩
  | step _ happens ih => exact ih.consults (happens.consults ih.indexes)

/-- Whatever a session lives through, it asks only for programs that its chain needs, never for one that
was found before, and whenever it gets to one that was not. -/
theorem findsPrograms (lived : Lived env r) : FindsPrograms env r := by
  obtain ⟨indexes, knows, needed, settled⟩ := lived.remembers
  refine ⟨?needed, ?once, ?inOrder, ?again⟩
  case needed =>
    intro e mem helper asks
    obtain ⟨record, among, which⟩ := List.mem_filterMap.1 (needed (mem_asked mem asks))
    obtain ⟨hop, needs⟩ := List.mem_filter.1 among
    exact ⟨record, hop, needs, which⟩
  case once =>
    refine settled.imp ?_
    intro e e' settles helper helper' asks ok asks' same
    rw [Helper.name_injective same] at asks'
    exact settles helper asks ok asks'
  case inOrder =>
    intro underTunnel
    obtain ⟨events, trace, looks⟩ := @Session.looksUp_prepare _ env underTunnel r indexes
    refine ⟨events, trace, ?_⟩
    have missing (helper : Helper) :
        (!r.session.knows helper) = decide (helper ∉ resolved r.trace) := by
      rw [Bool.eq_iff_iff, Bool.not_eq_true', ← Bool.not_eq_true, knows, decide_eq_true_eq]
    simp only [← missing]
    exact looks.inOrder
  case again =>
    intro underTunnel front back record helper r' hop needs which reaches missing
    obtain ⟨_, events, trace, looks⟩ := reaches.looksUp indexes
    refine Session.asks_of_reaches indexes hop needs which reaches ?_
    rwa [← Bool.not_eq_true, looks.knows_iff trace knows]

/-- Surroundings that find no program at first. -/
def forgetful : Environment Nat where
  perform c asked :=
    (match c, asked with
      | .resolveHelper _, 0 => .error "not found"
      | c, _ => (Reachable.willing.perform c ()).1, asked + 1)
  systemPorts _ _ := .error ""
  freshName asked := ("", asked)
  helperCount _ := 0
  wait _ asked := asked
  now _ := 0

/-- A session over two helpers with the same program and one with another, which is prepared again after
that has failed once. -/
def retriedRun : Run Nat :=
  (Operation.prepare false).perform forgetful <| (Operation.prepare false).perform forgetful <|
    Operation.build.perform forgetful <|
      .fresh
        [{ uuid := "", profile := ⟨{}, .naive {}⟩ }, { uuid := "", profile := ⟨{}, .naive {}⟩ },
         { uuid := "", profile := ⟨{}, .hysteria { transport := .fakeTcp }⟩ }]
        { cacheDir := "", helperPortBase := 41000 } {} false 0

/-- It asks twice for the program that was not found at first, and then for the other one. -/
theorem findsPrograms_retriedRun :
    Lived forgetful retriedRun ∧ FindsPrograms forgetful retriedRun ∧
      asked retriedRun.trace = [.naive, .naive, .hysteria2] ∧
        resolved retriedRun.trace = [.naive, .hysteria2] := by
  have lived : Lived forgetful retriedRun :=
    .step (.step (.step (.fresh _ _ _ _ _) (.perform .build)) (.perform (.prepare false)))
      (.perform (.prepare false))
  exact ⟨lived, lived.findsPrograms, by decide +kernel, by decide +kernel⟩

end Lived

end ProxyChain
