import ProxyChain.Proofs.Session.Furnish
import ProxyChain.Proofs.Session.Resolution

/-!
# The history of a session

Every run that a session lives to see has a history: the operations that were asked of it, each with the
run that it found (`lived_iff_exists_history`). From its history can be told how a session was prepared
(`preparedWith`) and which ports it handed over (`handovers`): those that its starts served, each to
whatever it was served by, and no others (`History.map_event_handovers`).
-/

namespace ProxyChain

open SessionM

variable {ω : Type} {env : Environment ω} {r r' : Run ω}

/-- An operation that was asked for, and the run that it found. -/
structure Moment (ω : Type) where
  run : Run ω
  operation : Operation

/-- What may happen to a session between operations. -/
inductive Meanwhile (env : Environment ω) (r : Run ω) : Run ω → Prop where
  | ask {c : Call} (measures : c.measures = true) (running : r.session.stage = .running) :
      Meanwhile env r (r.perform env c).2
  | asTest : Meanwhile env r r.asTest
  | govern (policy : ShutdownPolicy) : Meanwhile env r (r.govern policy)
  | drift (world : ω) : Meanwhile env r { r with world }

/-- The runs of new sessions, with the operations that were asked of them. -/
inductive History (env : Environment ω) : List (Moment ω) → Run ω → Prop where
  | fresh (chain : List Record) (settings : Settings) (policy : ShutdownPolicy) (forTest : Bool)
      (world : ω) : History env [] (.fresh chain settings policy forTest world)
  | perform (op : Operation) {past : List (Moment ω)} {r : Run ω} (history : History env past r) :
      History env (past ++ [⟨r, op⟩]) (op.perform env r)
  | meanwhile {past : List (Moment ω)} {r r' : Run ω} (history : History env past r)
      (happens : Meanwhile env r r') : History env past r'

/-- What happens between operations is something that may happen. -/
lemma Meanwhile.happens (meanwhile : Meanwhile env r r') : Happens env r r' := by
  cases meanwhile with
  | ask measures running => exact .ask measures running
  | asTest => exact .asTest
  | govern policy => exact .govern policy
  | drift world => exact .drift world

/-- A session lives through its history. -/
lemma History.lived {past : List (Moment ω)} (history : History env past r) : Lived env r := by
  induction history with
  | fresh => exact .fresh _ _ _ _ _
  | perform op _ ih => exact ih.step (.perform op)
  | meanwhile _ happens ih => exact ih.step happens.happens

/-- Every run that a session lives to see has a history. -/
theorem lived_iff_exists_history : Lived env r ↔ ∃ past, History env past r := by
  refine ⟨fun lived => ?_, fun ⟨_, history⟩ => history.lived⟩
  induction lived with
  | fresh => exact ⟨[], .fresh _ _ _ _ _⟩
  | step _ happens ih =>
    obtain ⟨past, history⟩ := ih
    cases happens with
    | perform op => exact ⟨_, history.perform op⟩
    | ask measures running => exact ⟨past, history.meanwhile (.ask measures running)⟩
    | asTest => exact ⟨past, history.meanwhile .asTest⟩
    | govern policy => exact ⟨past, history.meanwhile (.govern policy)⟩
    | drift world => exact ⟨past, history.meanwhile (.drift world)⟩

/-- A port that is handed over, with its entry in the index of helpers. -/
structure Handover where
  entry : UInt16 × Record
  /-- Everything that was done before. -/
  past : List Event
  /-- What it is handed over by. -/
  event : Event

namespace Handover

/-- Whether a helper was asked to serve the port, and by which command. -/
def command? (h : Handover) : Option Helper.Command :=
  match h.event.call with
  | .startHelper command => some command
  | _ => none

/-- Whether a helper has been started on the port. -/
def started (h : Handover) : Bool := h.command?.isSome && h.event.succeeded

end Handover

namespace Moment

/-- Whether the operation succeeds. -/
def succeeds (env : Environment ω) (m : Moment ω) : Bool := (m.operation.outcome env m.run).isOk

/-- What the operation does. -/
def events (env : Environment ω) (m : Moment ω) : List Event :=
  (m.operation.perform env m.run).trace.drop m.run.trace.length

/-- Whether a preparation that succeeds is one for a tunnel. -/
def prepared? (env : Environment ω) (m : Moment ω) : Option Bool :=
  match m.operation with
  | .prepare underTunnel => if m.succeeds env then some underTunnel else none
  | _ => none

/-- The ports that a start hands over, in order: the first to be served is that of the first entry. -/
def handovers (env : Environment ω) (m : Moment ω) : List Handover :=
  match m.operation with
  | .start => (m.run.session.entries.zip (servings m.run.trace (m.events env))).map fun x =>
      ⟨x.1, x.2.1, x.2.2⟩
  | _ => []

end Moment

/-- How a session was prepared, if it was. -/
def preparedWith (env : Environment ω) (past : List (Moment ω)) : List Bool :=
  past.filterMap (Moment.prepared? env)

/-- The ports that a session has handed over, in order. -/
def handovers (env : Environment ω) (past : List (Moment ω)) : List Handover :=
  past.flatMap (Moment.handovers env)

namespace Operation

/-- An operation adds its events to the trace. -/
lemma trace_perform (env : Environment ω) (op : Operation) (r : Run ω) :
    (op.perform env r).trace = r.trace ++ Moment.events env ⟨r, op⟩ := by
  have adds : ∃ events, (op.perform env r).trace = r.trace ++ events := by
    obtain ⟨phase, is⟩ | rfl | ⟨external, rfl⟩ := op.kinds
    · obtain ⟨events, trace, -⟩ := passes is env r
      exact ⟨events, trace⟩
    · obtain ⟨events, trace, -⟩ := Session.quiet_close env r
      exact ⟨events, trace⟩
    · exact ⟨[], (List.append_nil _).symm⟩
  obtain ⟨events, trace⟩ := adds
  rw [Moment.events, trace, List.drop_left]

/-- The events of an operation are those that it adds. -/
lemma events_of_trace {op : Operation} {events : List Event}
    (trace : (op.perform env r).trace = r.trace ++ events) : Moment.events env ⟨r, op⟩ = events :=
  List.append_cancel_left ((trace_perform env op r).symm.trans trace)

/-- Operations that are asked for one after the other, and the run that they lead to. -/
def performAll (env : Environment ω) : List Operation → Run ω → List (Moment ω) × Run ω
  | [], r => ([], r)
  | op :: ops, r =>
    let (moments, r') := performAll env ops (op.perform env r)
    (⟨r, op⟩ :: moments, r')

end Operation

/-- Operations that are asked for go on with a history. -/
lemma History.performAll {past : List (Moment ω)} (history : History env past r) (ops : List Operation) :
    History env (past ++ (Operation.performAll env ops r).1) (Operation.performAll env ops r).2 := by
  induction ops generalizing past r with
  | nil =>
    rw [Operation.performAll, List.append_nil]
    exact history
  | cons op ops ih =>
    have rest := ih (history.perform op)
    rw [List.append_assoc] at rest
    exact rest

/-- What is asked of a new session is its history. -/
lemma History.of_fresh {chain : List Record} {settings : Settings} {policy : ShutdownPolicy}
    {forTest : Bool} {world : ω} {ops : List Operation} :
    let asked := Operation.performAll env ops (.fresh chain settings policy forTest world)
    History env asked.1 asked.2 := by
  have new : History env [] (.fresh chain settings policy forTest world) := .fresh _ _ _ _ _
  have history := new.performAll ops
  rw [List.nil_append] at history
  exact history

namespace Session

/-- Taking a session down serves no port. -/
lemma CarriedOut.idle {tasks : List TeardownTask} {failures : List TeardownFailure}
    {events : List Event} (done : CarriedOut tasks r failures events r') :
    ∀ e ∈ events, e.isServing = false := by
  intro e mem
  obtain ⟨task, -, same⟩ := done.exists_task mem
  rw [Event.isServing, ← same]
  cases task <;> rfl

/-- What a start does about the ports of the index of helpers. -/
lemma servesInTurn_events (lived : Lived env r) :
    (Operation.start.perform env r).session.helperConfigs = r.session.helperConfigs ∧
      ServesInTurn r.session r.session.entries r.trace (Operation.start.outcome env r)
        (Moment.events env ⟨r, .start⟩) := by
  have starts : Does (start env) r _ :=
    servesInTurn_start lived.remembers.indexes.needsHelper_of_mem
  obtain ⟨events, trace, starts⟩ := starts
  have same : Moment.events env ⟨r, .start⟩ = events := Operation.events_of_trace trace
  rw [same]
  exact starts

/-- A session goes on as it was planned: its settings stay the same, and so does what it was compiled to
once it is. -/
structure Continues (s s' : Session) : Prop where
  settings : s'.settings = s.settings
  compiled : ∀ compiled, s.compiled = some compiled → s'.compiled = some compiled

/-- A session with the same settings and the same compiled chain goes on as it was planned. -/
lemma Continues.of_eq {s s' : Session} (settings : s'.settings = s.settings)
    (compiled : s'.compiled = s.compiled) : Continues s s' :=
  ⟨settings, fun _ found => compiled.trans found⟩

/-- What goes on twice goes on. -/
lemma Continues.trans {s s' s'' : Session} (h : Continues s s') (h' : Continues s' s'') :
    Continues s s'' :=
  ⟨h'.settings.trans h.settings, fun compiled found => h'.compiled compiled (h.compiled compiled found)⟩

/-- Ports that are distinct later were distinct before. -/
lemma Continues.portsDistinct {s s' : Session} (h : Continues s s') (distinct : s'.PortsDistinct) :
    s.PortsDistinct := fun compiled found => distinct compiled (h.compiled compiled found)

end Session

open Session

/-- Whatever happens to a session, it goes on as it was planned. -/
lemma Lived.continues (lived : Lived env r) (happens : Happens env r r') :
    Continues r.session r'.session := by
  have holds := lived.inHand.holds
  cases happens with
  | perform op =>
    cases op with
    | build =>
      rw [Operation.perform, leaves]
      obtain ⟨e, failed⟩ | ⟨compiled, stage, -, built⟩ := build_cases env r
      · rw [failed]
        exact .of_eq rfl rfl
      · rw [built]
        -- It was not compiled before.
        refine ⟨rfl, fun compiled' found => ?_⟩
        rw [holds.unbuilt stage] at found
        cases found
    | prepare underTunnel =>
      have kept : Always Prepares (prepare env underTunnel) := prepares_prepare underTunnel
      obtain ⟨-, -, same, -⟩ := kept r
      exact .of_eq same.settings same.compiled
    | start =>
      have starts : Does (start env) r _ := does_start holds.needed
      obtain ⟨-, -, same, -⟩ := starts
      exact .of_eq same.settings same.compiled
    | close =>
      obtain ⟨-, -, -, same | closed⟩ := quiet_close env r
      · exact .of_eq (congrArg settings same) (congrArg compiled same)
      · exact .of_eq (by rw [Operation.perform, closed]; rfl) (by rw [Operation.perform, closed]; rfl)
    | attach => exact .of_eq rfl rfl
  | ask | asTest | govern | drift => exact .of_eq rfl rfl

/-- Every file that a session has written, or tried to write, is made from a name. -/
theorem Lived.made (lived : Lived env r) :
    ∀ path ∈ written r.trace, ∃ name, MadeFrom r.session.settings name path := by
  induction lived with
  | fresh => exact List.forall_mem_nil _
  | @step r r' lived happens ih =>
    -- It is enough that what is written in this step is made from names.
    have after {events : List Event} (trace : r'.trace = r.trace ++ events)
        (made : ∀ path ∈ written events, ∃ name, MadeFrom r.session.settings name path) :
        ∀ path ∈ written r'.trace, ∃ name, MadeFrom r'.session.settings name path := by
      rw [(lived.continues happens).settings, trace, written_append]
      exact List.forall_mem_append.2 ⟨ih, made⟩
    have silent {events : List Event} (trace : r'.trace = r.trace ++ events)
        (nothing : written events = []) :
        ∀ path ∈ written r'.trace, ∃ name, MadeFrom r'.session.settings name path := by
      refine after trace ?_
      rw [nothing]
      exact List.forall_mem_nil _
    cases happens with
    | perform op =>
      obtain ⟨phase, is⟩ | rfl | ⟨external, rfl⟩ := op.kinds
      · obtain ⟨events, trace, passed⟩ := op.passes is env r
        exact after trace passed.made
      · by_cases closed : r.session.stage = .closed
        · rw [Operation.perform, close_of_closed env closed]
          exact ih
        · obtain ⟨⟨events, done⟩, -⟩ := carriedOut_close env closed
          exact silent done.trace done.written_eq_nil
      · exact ih
    | @ask c measures =>
      refine silent rfl (List.filterMap_cons_none ?_)
      cases c <;> first | rfl | cases measures
    | asTest | govern | drift => exact ih

namespace Moment

/-- Every port that an operation has served is one that it has handed over. -/
lemma map_event_handovers (lived : Lived env r) (distinct : r.session.PortsDistinct) (op : Operation) :
    ((⟨r, op⟩ : Moment ω).handovers env).map Handover.event
      = (events env ⟨r, op⟩).filter Event.isServing := by
  -- Only starting serves ports.
  have none {events' : List Event} (trace : (op.perform env r).trace = r.trace ++ events')
      (idle : ∀ e ∈ events', e.isServing = false) :
      [] = (events env ⟨r, op⟩).filter Event.isServing := by
    rw [Operation.events_of_trace trace]
    exact (List.filter_eq_nil_iff.2 fun e mem => Bool.eq_false_iff.1 (idle e mem)).symm
  cases op with
  | start =>
    obtain ⟨-, serves⟩ := servesInTurn_events lived
    rw [← map_snd_servings r.trace, ← List.map_snd_zip serves.bounded, handovers, List.map_map,
      List.map_map]
    rfl
  | build =>
    obtain ⟨_, trace, rfl, -⟩ := does_build env r
    exact none trace (List.forall_mem_nil _)
  | prepare underTunnel =>
    have prepares : Does (prepare env underTunnel) r _ :=
      furnishes_prepare underTunnel lived.remembers.indexes distinct
    obtain ⟨_, trace, idle, -⟩ := prepares
    exact none trace idle
  | close =>
    by_cases closed : r.session.stage = .closed
    · have trace : (Operation.close.perform env r).trace = r.trace ++ [] := by
        rw [Operation.perform, close_of_closed env closed, List.append_nil]
      exact none trace (List.forall_mem_nil _)
    · obtain ⟨⟨_, done⟩, -⟩ := carriedOut_close env closed
      exact none done.trace done.idle
  | attach external => exact none (List.append_nil _).symm (List.forall_mem_nil _)

end Moment

/-- An operation hands over its ports after those before. -/
lemma handovers_concat (env : Environment ω) (past : List (Moment ω)) (m : Moment ω) :
    handovers env (past ++ [m]) = handovers env past ++ m.handovers env := by
  rw [handovers, List.flatMap_append, List.flatMap_singleton]
  rfl

/-- Between operations no port is served. -/
lemma Meanwhile.idle (meanwhile : Meanwhile env r r') :
    r'.session.stage = r.session.stage ∧ r'.session.helperConfigs = r.session.helperConfigs ∧
      ∃ events, r'.trace = r.trace ++ events ∧ ∀ e ∈ events, e.isServing = false := by
  cases meanwhile with
  | @ask c measures =>
    refine ⟨rfl, rfl, _, rfl, List.forall_mem_singleton.2 ?_⟩
    cases c <;> first | rfl | cases measures
  | asTest | govern | drift =>
    exact ⟨rfl, rfl, [], (List.append_nil _).symm, List.forall_mem_nil _⟩

namespace History

variable {past : List (Moment ω)}

/-- A session lived to see every run that something was asked of, and went on from there. -/
lemma lived_of_mem (history : History env past r) {m : Moment ω} (mem : m ∈ past) :
    Lived env m.run ∧ Continues m.run.session r.session := by
  induction history with
  | fresh => cases mem
  | @perform op past r history ih =>
    have continues := history.lived.continues (.perform op)
    obtain mem | mem := List.mem_append.1 mem
    · exact ⟨(ih mem).1, (ih mem).2.trans continues⟩
    · obtain rfl := List.mem_singleton.1 mem
      exact ⟨history.lived, continues⟩
  | meanwhile history happens ih =>
    have continues := history.lived.continues happens.happens
    exact ⟨(ih mem).1, (ih mem).2.trans continues⟩

/-- Every port that a session has served so far is one that it has handed over. -/
theorem map_event_handovers (history : History env past r) (distinct : r.session.PortsDistinct) :
    (handovers env past).map Handover.event = r.trace.filter Event.isServing := by
  induction history with
  | fresh => rfl
  | @perform op _ r history ih =>
    have before := (history.lived.continues (.perform op)).portsDistinct distinct
    rw [handovers_concat, List.map_append, ih before,
      Moment.map_event_handovers history.lived before op, Operation.trace_perform, List.filter_append]
  | meanwhile history happens ih =>
    have before := (history.lived.continues happens.happens).portsDistinct distinct
    obtain ⟨-, -, events, trace, idle⟩ := happens.idle
    have none : events.filter Event.isServing = [] :=
      List.filter_eq_nil_iff.2 fun e mem => Bool.eq_false_iff.1 (idle e mem)
    rw [ih before, trace, List.filter_append, none, List.append_nil]

end History

end ProxyChain
