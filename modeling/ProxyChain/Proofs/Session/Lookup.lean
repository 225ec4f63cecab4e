import ProxyChain.Proofs.Session.Provision

/-!
# Looking up the programs of helpers

A preparation asks for the programs of the helpers that the chain needs and that the session does not
know yet, each once and in the order in which they are needed first, as far as it gets
(`Session.LooksUp`). Nothing else that is done for helpers asks for a program
(`Session.KeepsPrograms`).
-/

namespace ProxyChain

open SessionM

variable {ω : Type} {env : Environment ω} {r r' : Run ω} {events events' : List Event}

/-- The helper whose program an event asks for. -/
def Event.asks? (e : Event) : Option Helper :=
  match e.call with
  | .resolveHelper helper => some helper
  | _ => none

/-- The helpers whose programs events ask for, in order. -/
def asked (events : List Event) : List Helper := events.filterMap Event.asks?

/-- The helpers whose programs were found. -/
def resolved (events : List Event) : List Helper := asked (events.filter Event.succeeded)

/-- The helpers that the hops of a chain need, in order. -/
def neededHelpers (chain : List Record) : List Helper :=
  (chain.filter fun r => r.profile.needsHelper).filterMap fun r => Helper.of? r.profile

/-- Helpers are asked for in turn. -/
lemma asked_append (events events' : List Event) :
    asked (events ++ events') = asked events ++ asked events' := List.filterMap_append

/-- Programs are found in turn. -/
lemma resolved_append (events events' : List Event) :
    resolved (events ++ events') = resolved events ++ resolved events' := by
  rw [resolved, List.filter_append, asked_append]
  rfl

/-- Only what was asked for is found. -/
lemma resolved_subset (events : List Event) : resolved events ⊆ asked events :=
  (List.filter_sublist.filterMap _).subset

/-- Nothing is found if nothing was asked for. -/
lemma resolved_eq_nil (nothing : asked events = []) : resolved events = [] :=
  List.subset_nil.1 (nothing ▸ resolved_subset events)

namespace Session

/-- Whether the program of a helper was found. -/
def knows (s : Session) (helper : Helper) : Bool := (s.programs.get? helper).isSome

/-- No program is asked for and none is forgotten. -/
structure KeepsPrograms (r : Run ω) (events : List Event) (r' : Run ω) : Prop where
  programs : r'.session.programs = r.session.programs
  silent : asked events = []

instance : Composes (KeepsPrograms (ω := ω)) where
  idle _ _ := ⟨rfl, rfl⟩
  trans h h' := ⟨h'.programs.trans h.programs, by rw [asked_append, h.silent, h'.silent]; rfl⟩

section

/-- A call that asks for no program leaves them as they are. -/
lemma keepsPrograms_call {c : Call} (other : ∀ helper, c ≠ .resolveHelper helper) :
    Always KeepsPrograms (call env c) := by
  refine .call fun r outcome world => ⟨rfl, ?_⟩
  cases c with
  | resolveHelper helper => exact absurd rfl (other helper)
  | _ => rfl

/-- A change to the session leaves the programs as they are if it is not about them. -/
lemma keepsPrograms_update {g : Session → Session} (same : ∀ s, (g s).programs = s.programs) :
    Always (KeepsPrograms (ω := ω)) (update g) :=
  .update fun r => ⟨same r.session, rfl⟩

/-- Drawing a name leaves the programs as they are. -/
lemma keepsPrograms_freshName : Always KeepsPrograms (freshName env) :=
  fun _ => .freshName fun _ _ => ⟨rfl, rfl⟩

/-- Writing a file leaves the programs as they are. -/
lemma keepsPrograms_writeFile (path : Path) (contents : String) :
    Always KeepsPrograms (writeFile env path contents) :=
  .bind (keepsPrograms_update fun _ => rfl) fun _ => keepsPrograms_call nofun

/-- Writing a file that helpers need leaves the programs as they are. -/
lemma keepsPrograms_writeAuxFile (file : Helper.AuxFile) :
    Always KeepsPrograms (writeAuxFile env file) := by
  unfold writeAuxFile
  cases Path.parent? file.path with
  | none => exact keepsPrograms_writeFile _ _
  | some dir => exact .bind (keepsPrograms_call nofun) fun _ => keepsPrograms_writeFile _ _

/-- Rendering leaves the programs as they are. -/
lemma keepsPrograms_renderHelper (underTunnel : Bool) (p : Profile) (ports : Helper.Ports) :
    Always KeepsPrograms (renderHelper env underTunnel p ports) := by
  refine .bind keepsPrograms_freshName fun name => ?_
  refine .bind .session fun s => ?_
  split
  · refine .bind (.forM fun file _ => keepsPrograms_writeAuxFile file) fun _ => ?_
    exact keepsPrograms_update fun _ => rfl
  · exact .pure _

/-- Having a hop served leaves the programs as they are. -/
lemma keepsPrograms_startEntry (entry : UInt16 × Record) :
    Always KeepsPrograms (startEntry env entry) := by
  refine .bind .session fun s => ?_
  split
  · exact keepsPrograms_call nofun
  · split
    · split
      · refine .bind .session fun s => ?_
        refine .bind (.require _ _) fun program => ?_
        refine .bind (.require _ _) fun config => ?_
        refine .bind keepsPrograms_freshName fun name => ?_
        refine .bind (keepsPrograms_writeFile _ _) fun _ => ?_
        split
        · exact keepsPrograms_call nofun
        · exact .pure _
      · exact .pure _
    · exact .pure _

/-- Starting leaves the programs as they are. -/
lemma keepsPrograms_start : Always KeepsPrograms (start env) := by
  refine .bind (.enter .start) fun _ => ?_
  refine .bind .session fun s => ?_
  refine .bind (.require _ _) fun compiled => ?_
  refine .bind (keepsPrograms_call nofun) fun _ => ?_
  refine .bind (.forM fun helpers _ => .forM fun entry _ => keepsPrograms_startEntry entry) fun _ => ?_
  refine .bind (.require _ _) fun _ => ?_
  exact .bind (keepsPrograms_call nofun) fun _ => keepsPrograms_update fun _ => rfl

end

/-- Closing leaves the programs as they are. -/
lemma keepsPrograms_close (env : Environment ω) (r : Run ω) :
    ∃ events, (close env r).2.trace = r.trace ++ events ∧ KeepsPrograms r events (close env r).2 := by
  by_cases closed : r.session.stage = .closed
  · rw [close_of_closed env closed]
    exact ⟨[], (List.append_nil _).symm, Composes.idle r r.world⟩
  · obtain ⟨⟨events, done⟩, session⟩ := carriedOut_close env closed
    refine ⟨events, done.trace, by rw [session]; rfl, ?_⟩
    rw [asked, List.filterMap_eq_nil_iff]
    intro e mem
    obtain ⟨task, -, same⟩ := done.exists_task mem
    rw [Event.asks?, ← same]
    cases task <;> rfl

/-- The program of a helper is asked for once if it was unknown, and not otherwise; what is found is known
from then on. -/
structure Asks (helper : Helper) (r : Run ω) (events : List Event) (r' : Run ω) : Prop where
  calls : asked events = if r.session.knows helper then [] else [helper]
  knows : ∀ other, r'.session.knows other = true
    ↔ r.session.knows other = true ∨ other ∈ resolved events

/-- The programs of helpers that are needed in turn are asked for as far as it gets: each that was
unknown is asked for once, in the order of their first occurrences, and whatever is found is known from
then on. -/
structure LooksUp (needed : List Helper) (r : Run ω) (events : List Event) (r' : Run ω) : Prop where
  inOrder : asked events <+: (needed.filter fun helper => !r.session.knows helper).eraseDups
  knows : ∀ helper, r'.session.knows helper = true
    ↔ r.session.knows helper = true ∨ helper ∈ resolved events

section

variable {r'' : Run ω} {helper : Helper} {needed : List Helper}

/-- The same programs are known as before. -/
lemma KeepsPrograms.knows (keeps : KeepsPrograms r events r') (helper : Helper) :
    r'.session.knows helper = r.session.knows helper := by
  rw [Session.knows, keeps.programs]
  rfl

/-- What asks for no program may be needed for anything. -/
lemma KeepsPrograms.looksUp (keeps : KeepsPrograms r events r') (needed : List Helper) :
    LooksUp needed r events r' := by
  refine ⟨?_, fun helper => ?_⟩
  · rw [keeps.silent]
    exact List.nil_prefix
  · rw [resolved_eq_nil keeps.silent, keeps.knows]
    exact (or_iff_left List.not_mem_nil).symm

/-- What is done afterwards without asking for a program does not matter. -/
lemma LooksUp.keeps (h : LooksUp needed r events r') (keeps : KeepsPrograms r' events' r'') :
    LooksUp needed r (events ++ events') r'' := by
  refine ⟨?_, fun helper => ?_⟩
  · rw [asked_append, keeps.silent, List.append_nil]
    exact h.inOrder
  · rw [resolved_append, resolved_eq_nil keeps.silent, List.append_nil, keeps.knows]
    exact h.knows helper

namespace Asks

/-- What is done after a program was asked for does not matter if it asks for none. -/
lemma keeps (h : Asks helper r events r') (keeps : KeepsPrograms r' events' r'') :
    Asks helper r (events ++ events') r'' := by
  refine ⟨?_, fun other => ?_⟩
  · rw [asked_append, keeps.silent, List.append_nil]
    exact h.calls
  · rw [resolved_append, resolved_eq_nil keeps.silent, List.append_nil, keeps.knows]
    exact h.knows other

/-- If it fails nothing else is looked up. -/
lemma stop (h : Asks helper r events r') : LooksUp (helper :: needed) r events r' := by
  refine ⟨?_, h.knows⟩
  rw [h.calls]
  cases known : r.session.knows helper with
  | true => exact List.nil_prefix
  | false =>
    rw [List.filter_cons_of_pos (by simp [known]), List.eraseDups_cons]
    exact List.prefix_append [helper] _

/-- Of the others those are unknown afterwards that were unknown before, except for the one that was
looked up. -/
lemma unknown (h : Asks helper r events r') (found : r'.session.knows helper = true)
    (other : Helper) :
    (!r'.session.knows other) = (!(other == helper) && !r.session.knows other) := by
  by_cases same : other = helper
  · rw [same, found, beq_self_eq_true]
    rfl
  · have unasked : other ∉ resolved events := fun among => by
      have own := resolved_subset events among
      rw [h.calls] at own
      split at own
      · cases own
      · exact same (List.mem_singleton.1 own)
    have kept : r'.session.knows other = r.session.knows other :=
      Bool.eq_iff_iff.2 ((h.knows other).trans (or_iff_left unasked))
    rw [kept, beq_eq_false_iff_ne.2 same]
    rfl

/-- The others are looked up once it is known. -/
lemma cons (h : Asks helper r events r') (found : r'.session.knows helper = true)
    (rest : LooksUp needed r' events' r'') : LooksUp (helper :: needed) r (events ++ events') r'' := by
  refine ⟨?_, fun other => ?_⟩
  · have others := rest.inOrder
    simp only [h.unknown found] at others
    rw [asked_append, h.calls]
    cases known : r.session.knows helper with
    | true =>
      -- Being known before, it is passed over by the others as well.
      have passed (other : Helper) :
          (!(other == helper) && !r.session.knows other) = !r.session.knows other := by
        by_cases same : other = helper
        · rw [same, known]
          exact Bool.and_false _
        · rw [beq_eq_false_iff_ne.2 same]
          rfl
      simp only [passed] at others
      rw [List.filter_cons_of_neg (by simp [known]), if_pos rfl, List.nil_append]
      exact others
    | false =>
      rw [List.filter_cons_of_pos (by simp [known]), List.eraseDups_cons, List.filter_filter,
        if_neg Bool.false_ne_true, List.singleton_append, List.prefix_cons_inj]
      exact others
  · rw [rest.knows, h.knows, resolved_append, List.mem_append, or_assoc]

end Asks

end

/-- The program of a helper is looked up, and known in the end unless that fails. -/
lemma does_resolveHelper (helper : Helper) (r : Run ω) :
    Does (resolveHelper env helper) r fun result events r' =>
      Asks helper r events r' ∧ (result = .ok () → r'.session.knows helper = true) := by
  refine .bind (.session ?_)
  dsimp only
  cases known : r.session.knows helper with
  | true =>
    have there : (r.session.programs.get? helper).isNone = false := by
      rw [← Option.not_isSome, Bool.not_eq_false']
      exact known
    rw [there, if_neg Bool.false_ne_true]
    refine .pure ⟨⟨?_, fun other => ?_⟩, fun _ => known⟩
    · rw [known]
      rfl
    · exact (or_iff_left List.not_mem_nil).symm
  | false =>
    have missing : (r.session.programs.get? helper).isNone = true := by
      rw [← Option.not_isSome, Bool.not_eq_true']
      exact known
    have calls (outcome : Except String Path) : asked [⟨.resolveHelper helper, outcome⟩]
        = if r.session.knows helper then [] else [helper] := by
      rw [known]
      rfl
    rw [if_pos missing]
    refine .bind (.call (fun path world => .update ⟨⟨calls _, fun other => ?_⟩, fun _ => ?_⟩)
      fun fault world => ⟨⟨calls _, fun other => ?_⟩, nofun⟩)
    · change ((r.session.programs.set helper path).get? other).isSome = true
        ↔ (r.session.programs.get? other).isSome = true ∨ other ∈ [helper]
      rw [Table.get?_set, List.mem_singleton]
      by_cases same : other = helper
      · rw [if_pos (beq_iff_eq.2 same)]
        exact iff_of_true rfl (.inr same)
      · rw [if_neg (mt beq_iff_eq.1 same)]
        exact (or_iff_left same).symm
    · exact Grows.isSome_set_self _ helper path
    · exact (or_iff_left List.not_mem_nil).symm

/-- So does preparing a hop that needs the helper. -/
lemma does_prepareEntry (underTunnel : Bool) (helpers : ExternalChain) {entry : UInt16 × Record}
    {helper : Helper} (needs : entry.2.profile.needsHelper = true)
    (which : Helper.of? entry.2.profile = some helper) (r : Run ω) :
    Does (prepareEntry env underTunnel helpers entry) r fun result events r' =>
      Asks helper r events r' ∧ (result = .ok () → r'.session.knows helper = true) := by
  simp only [prepareEntry, needs, if_true, which]
  refine .bind ((does_resolveHelper helper r).mono fun result events r' resolves => ?_)
  obtain ⟨first, found⟩ := resolves
  cases result with
  | error e => exact ⟨first, fun ok => by cases ok⟩
  | ok _ =>
    refine (keepsPrograms_renderHelper underTunnel _ _ r').mono fun _ events' r'' keeps => ?_
    refine ⟨first.keeps keeps, fun _ => ?_⟩
    rw [keeps.knows]
    exact found rfl

/-- Preparing hops looks up the programs of their helpers, as far as it gets. -/
theorem looksUp_prepareEntries (underTunnel : Bool) (helpers : ExternalChain)
    {entries : List (UInt16 × Record)}
    (needs : ∀ entry ∈ entries, entry.2.profile.needsHelper = true) (r : Run ω) :
    Does (entries.forM (prepareEntry env underTunnel helpers)) r fun _ events r' =>
      LooksUp (entries.filterMap fun entry => Helper.of? entry.2.profile) r events r' := by
  induction entries generalizing r with
  | nil =>
    have nothing : KeepsPrograms r [] r := Composes.idle r r.world
    exact .pure (nothing.looksUp _)
  | cons entry entries ih =>
    obtain ⟨helper, which⟩ := Helper.exists_of? (needs entry List.mem_cons_self)
    rw [List.filterMap_cons_some (f := fun entry : UInt16 × Record => Helper.of? entry.2.profile) which]
    refine .bind ((does_prepareEntry underTunnel helpers (needs entry List.mem_cons_self) which r).mono
      fun result events r' prepares => ?_)
    obtain ⟨first, found⟩ := prepares
    cases result with
    | error e => exact first.stop
    | ok _ =>
      refine (ih (fun entry' mem => needs entry' (List.mem_cons_of_mem entry mem)) r').mono
        fun _ events' r'' rest => ?_
      exact first.cons (found rfl) rest

/-- What was compiled has one index of helpers, for the hops of the chain that need one, in order. -/
def IndexesChain (s : Session) : Prop :=
  ∀ compiled, s.compiled = some compiled → ∃ helpers : ExternalChain, compiled.external = [helpers] ∧
    helpers.entries.map Prod.snd = s.chain.filter fun record => record.profile.needsHelper

namespace IndexesChain

variable {s s' : Session}

/-- An index stays one of the chain as long as both stay the same. -/
lemma of_same (h : s.IndexesChain) (compiled : s'.compiled = s.compiled)
    (chain : s'.chain = s.chain) : s'.IndexesChain := by
  unfold IndexesChain
  rw [compiled, chain]
  exact h

/-- Every entry of an index of the chain needs a helper. -/
lemma needsHelper (h : s.IndexesChain) (compiled : Compiled) (found : s.compiled = some compiled)
    (entry : UInt16 × Record) (mem : entry ∈ compiled.external.flatMap ExternalChain.entries) :
    entry.2.profile.needsHelper = true := by
  obtain ⟨helpers, one, records⟩ := h compiled found
  rw [one, List.flatMap_singleton] at mem
  have among : entry.2 ∈ s.chain.filter fun record => record.profile.needsHelper :=
    records ▸ List.mem_map_of_mem mem
  exact (List.mem_filter.1 among).2

/-- The entry of a hop stands right behind those of the hops before it. -/
lemma exists_entry (h : s.IndexesChain) {compiled : Compiled} (found : s.compiled = some compiled)
    {helpers : ExternalChain} (one : compiled.external = [helpers]) {front back : List Record}
    {record : Record} (hop : s.chain = front ++ record :: back)
    (needs : record.profile.needsHelper = true) :
    ∃ before entry after, helpers.entries = before ++ entry :: after ∧
      before.map Prod.snd = front.filter (fun record => record.profile.needsHelper) ∧
        entry.2 = record := by
  obtain ⟨helpers', one', records⟩ := h compiled found
  obtain rfl : helpers' = helpers := List.head_eq_of_cons_eq (one'.symm.trans one)
  rw [hop, List.filter_append,
    List.filter_cons_of_pos (p := fun record : Record => record.profile.needsHelper) needs,
    List.map_eq_append_iff] at records
  obtain ⟨before, others, entries, fronts, rest⟩ := records
  obtain ⟨entry, after, rfl, own, -⟩ := List.map_eq_cons_iff.1 rest
  exact ⟨before, entry, after, entries, fronts, own⟩

end IndexesChain

/-- There is one index of helpers to whatever a chain compiles. -/
lemma exists_index {system : SystemPorts} {chain : List Record} {s : Settings} {forTest : Bool}
    {compiled : Compiled} (compiles : compile system chain s forTest = .ok compiled) :
    ∃ helpers : ExternalChain, compiled.external = [helpers] ∧
      helpers.entries.map Prod.snd = chain.filter fun record => record.profile.needsHelper := by
  have records := compile_entries compiles
  obtain ⟨helpers, one⟩ : ∃ helpers : ExternalChain, compiled.external = [helpers] := by
    obtain ⟨_, _, -, -, rfl⟩ | ⟨_, -, -, rfl⟩ := compile_cases compiles
    · exact ⟨_, rfl⟩
    · exact ⟨_, rfl⟩
  rw [one, List.flatMap_singleton] at records
  exact ⟨helpers, one, records⟩

/-- Preparing looks up the programs of the helpers that the chain needs, as far as it gets. -/
theorem looksUp_prepare (underTunnel : Bool) {r : Run ω} (indexes : r.session.IndexesChain) :
    Does (prepare env underTunnel) r fun _ events r' =>
      LooksUp (neededHelpers r.session.chain) r events r' := by
  have idle : KeepsPrograms r [] r := Composes.idle r r.world
  have nothing := idle.looksUp (neededHelpers r.session.chain)
  refine .bind (.enter (fun _ => ?_) fun _ => nothing)
  refine .bind (.session (.bind (.require (fun compiled found => ?_) fun _ => nothing)))
  obtain ⟨helpers, one, records⟩ := indexes compiled found
  have needs (entry : UInt16 × Record) (mem : entry ∈ helpers.entries) :
      entry.2.profile.needsHelper = true := by
    refine indexes.needsHelper compiled found entry ?_
    rwa [one, List.flatMap_singleton]
  have needed : neededHelpers r.session.chain
      = helpers.entries.filterMap fun entry => Helper.of? entry.2.profile := by
    rw [neededHelpers, ← records, List.filterMap_map]
    rfl
  dsimp only
  rw [one, needed]
  refine .bind (.bind ((looksUp_prepareEntries underTunnel helpers needs r).mono
    fun result events r' looks => ?_))
  cases result with
  | error e => exact looks
  | ok _ =>
    have loads : Always KeepsPrograms (session >>= fun s => call env
        (.loadCore compiled.text (s.captureMode underTunnel)) >>= fun _ =>
          update fun s => { s with coreLoaded := true, stage := Phase.prepare.after }) := by
      refine .bind .session fun s => ?_
      exact .bind (keepsPrograms_call nofun) fun _ => keepsPrograms_update fun _ => rfl
    refine .pure ((loads r').mono fun _ events' r'' keeps => ?_)
    rw [List.append_nil]
    exact looks.keeps keeps

end Session

end ProxyChain
