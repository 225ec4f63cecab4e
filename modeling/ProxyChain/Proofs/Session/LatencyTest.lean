import ProxyChain.Proofs.Session.Release
import ProxyChain.Proofs.Session.Teardown

/-!
# Latency tests

Whatever state a session is in and whatever fails, a latency test leaves it closed, with everything given
back, and results in the latency or in the first failure of the measurement (`Owned.latencyTested`). The
core is asked to test the link after everything else (`Session.InTurn`), and whatever the test loads is
the chain compiled for a test, in direct mode.
-/

namespace ProxyChain

open SessionM

variable {ω : Type} {env : Environment ω} {r r' : Run ω} {link : String} {timeoutMs : Nat}
  {underTunnel : Bool} {preparing starting events : List Event}

namespace Session

/-- No link is tested. -/
def Untested (events : List Event) : Prop :=
  ∀ e ∈ events, ∀ link timeoutMs, e.call ≠ .testLink link timeoutMs

/-- Cores are loaded with certain texts and in certain modes only. -/
def LoadsOnly (allowed : String → CaptureMode → Prop) (events : List Event) : Prop :=
  ∀ e ∈ events, ∀ text mode, e.call = .loadCore text mode → allowed text mode

/-- If neither part tests anything, both together do not. -/
lemma Untested.append {events' : List Event} (h : Untested events) (h' : Untested events') :
    Untested (events ++ events') :=
  fun e mem => (List.mem_append.1 mem).elim (h e) (h' e)

/-- If each part loads only what is allowed, so do both together. -/
lemma LoadsOnly.append {allowed : String → CaptureMode → Prop} {events' : List Event}
    (h : LoadsOnly allowed events) (h' : LoadsOnly allowed events') :
    LoadsOnly allowed (events ++ events') :=
  fun e mem => (List.mem_append.1 mem).elim (h e) (h' e)

/-- The calls that a launch makes, first in preparing and then in starting. -/
structure Launches (env : Environment ω) (underTunnel : Bool) (r : Run ω)
    (preparing starting : List Event) : Prop where
  prepared : (r.prepared env underTunnel).trace = r.trace ++ preparing
  started : (r.started env underTunnel).trace = r.trace ++ (preparing ++ starting)
  prepares : ∀ e ∈ preparing,
    e.call.isWork = true ∨ LoadsCompiled underTunnel (r.built env).session e.call
  starts : ∀ e ∈ starting, e.call.isWork = true ∨ StartsCore e.call
  served : Operation.start.outcome env (r.prepared env underTunnel) = .ok () →
    ServedBeforeCore (r.prepared env underTunnel).session starting ∧
      ∃ serving, starting = serving ++ [⟨.startCore, .ok ()⟩] ∧ ∀ e ∈ serving, e.call.isWork = true

/-- Building does nothing that can be seen. -/
lemma trace_built (env : Environment ω) (r : Run ω) : (r.built env).trace = r.trace := by
  obtain ⟨events, trace, nothing, -⟩ := does_build env r
  rw [nothing, List.append_nil] at trace
  exact trace

/-- The phases of a measurement have their events. -/
lemma exists_launches (env : Environment ω) (underTunnel : Bool) (holds : r.session.Holds) :
    ∃ preparing starting, Launches env underTunnel r preparing starting := by
  obtain ⟨preparing, prepared, prepares⟩ := concludes_prepare env underTunnel (r.built env)
  obtain ⟨starting, started, starts⟩ := concludes_start env (r.prepared env underTunnel)
  have ordered : Does (start env) (r.prepared env underTunnel) _ :=
    does_start (holds.prepared env underTunnel).needed
  obtain ⟨starting', started', -, order⟩ := ordered
  obtain rfl : starting = starting' := List.append_cancel_left (started.symm.trans started')
  rw [trace_built] at prepared
  refine ⟨preparing, starting, prepared, ?_, prepares.calls, starts.calls, fun ok => ?_⟩
  · rw [← List.append_assoc, ← prepared]
    exact started
  · rw [show result (start env) (r.prepared env underTunnel) = .ok () from ok] at starts
    obtain ⟨serving, c, reply, rfl, rfl, work⟩ := starts.exists_last
    -- It ends in the core's start, so it cannot have left that out.
    refine ⟨order.resolve_left fun quiet => ?_, serving, rfl, work⟩
    exact quiet _ (List.mem_append_right _ List.mem_cons_self) rfl

namespace Launches

/-- Preparing loads what was compiled, and starting loads nothing. -/
lemma loads (launches : Launches env underTunnel r preparing starting) :
    LoadsOnly (fun text mode => LoadsCompiled underTunnel (r.built env).session (.loadCore text mode))
      (preparing ++ starting) := by
  refine LoadsOnly.append (fun e mem text mode same => ?_) fun e mem text mode same => ?_
  · have kind := launches.prepares e mem
    rw [same] at kind
    exact kind.resolve_left nofun
  · have kind := launches.starts e mem
    rw [same] at kind
    obtain work | starts := kind
    · cases work
    · cases starts

/-- Neither preparing nor starting tests anything. -/
lemma untested (launches : Launches env underTunnel r preparing starting) :
    Untested preparing ∧ Untested starting := by
  refine ⟨fun e mem link timeoutMs same => ?_, fun e mem link timeoutMs same => ?_⟩
  · have kind := launches.prepares e mem
    rw [same] at kind
    obtain work | ⟨compiled, -, load⟩ := kind
    · cases work
    · cases load
  · have kind := launches.starts e mem
    rw [same] at kind
    obtain work | starts := kind
    · cases work
    · cases starts

end Launches

/-- The core is asked to test a link once, after all of this: what serves the helpers of `s` was asked
for and did answer, the core was started, and the trust anchors were updated. -/
def InTurn (s : Session) (source : TrustSource) (link : String) (timeoutMs : Nat)
    (events : List Event) : Prop :=
  ∃ preparing serving outcome closing,
    events = preparing ++ (serving ++ [⟨.startCore, .ok ()⟩]) ++
      ([⟨.updateTrust source, .ok ()⟩, ⟨.testLink link timeoutMs, outcome⟩] ++ closing) ∧
    ServedBeforeCore s (serving ++ [⟨.startCore, .ok ()⟩]) ∧
    Untested (preparing ++ serving ++ closing)

/-- What a measurement asks for. -/
structure Requests (env : Environment ω) (link : String) (timeoutMs : Nat) (underTunnel : Bool)
    (r : Run ω) (events : List Event) : Prop where
  /-- It loads what it has compiled itself. -/
  loads : LoadsOnly (fun text mode => Operation.build.outcome env r = .ok () ∧
    LoadsCompiled underTunnel (r.built env).session (.loadCore text mode)) events
  order : Untested events ∨ InTurn (r.prepared env underTunnel).session
    r.session.settings.trustSource link timeoutMs events

/-- Taking the session down afterwards does not matter to this. -/
lemma Requests.append (h : Requests env link timeoutMs underTunnel r events) {closing : List Event}
    (teardown : ∀ e ∈ closing, e.call.isTeardown = true) :
    Requests env link timeoutMs underTunnel r (events ++ closing) := by
  have untested : Untested closing := by
    intro e mem link timeoutMs same
    have down := teardown e mem
    rw [same] at down
    cases down
  refine ⟨h.loads.append fun e mem text mode same => ?_, h.order.imp (·.append untested) ?_⟩
  · have down := teardown e mem
    rw [same] at down
    cases down
  · rintro ⟨preparing, serving, outcome, closing', rfl, served, none⟩
    refine ⟨preparing, serving, outcome, closing' ++ closing, ?_, served, ?_⟩
    · simp only [List.append_assoc]
    · rw [← List.append_assoc]
      exact none.append untested

/-- After the warm-up there is what preparing and starting have done. -/
lemma trace_warm (launches : Launches env underTunnel r preparing starting) :
    (r.warm env underTunnel).trace = r.trace ++ (preparing ++ starting) := by
  obtain ⟨-, world, waited⟩ := warmUp_eq env (r.started env underTunnel)
  rw [Run.warm, waited]
  exact launches.started

/-- A measurement that comes to the test of the link asks for it last. -/
lemma Launched.requests (launched : Launched env underTunnel r) (holds : r.session.Holds)
    (trusts : (r.trusted env underTunnel).1 = .ok ()) :
    ∃ events, (r.tested env link timeoutMs underTunnel).2.trace = r.trace ++ events ∧
      Requests env link timeoutMs underTunnel r events := by
  obtain ⟨preparing, starting, launches⟩ := exists_launches env underTunnel holds
  obtain ⟨untestedPreparing, untestedStarting⟩ := launches.untested
  obtain ⟨served, serving, rfl, -⟩ := launches.served launched.starts
  let trust : Event := ⟨.updateTrust r.session.settings.trustSource, .ok ()⟩
  let test : Event := ⟨.testLink link timeoutMs, (r.tested env link timeoutMs underTunnel).1⟩
  refine ⟨preparing ++ (serving ++ [⟨.startCore, .ok ()⟩]) ++ [trust, test], ?trace, ?loads, .inr ?order⟩
  case trace =>
    have both : (r.tested env link timeoutMs underTunnel).2.trace = (r.warm env underTunnel).trace ++
        [⟨trust.call, (r.trusted env underTunnel).1⟩] ++ [test] := rfl
    rw [both, trace_warm launches, trusts, List.append_assoc, List.append_assoc]
    rfl
  case loads =>
    refine LoadsOnly.append (fun e mem text mode same =>
      ⟨launched.builds, launches.loads e mem text mode same⟩) fun e mem text mode same => ?_
    obtain rfl | rfl := List.mem_pair.1 mem
    all_goals cases same
  case order =>
    refine ⟨preparing, serving, _, [], rfl, served, ?_⟩
    rw [List.append_nil]
    exact untestedPreparing.append fun e mem => untestedStarting e (List.mem_append_left _ mem)

/-- A measurement asks for that, however it ends. -/
lemma Measured.requests {outcome : Except SessionError Nat}
    (measured : Measured env link timeoutMs underTunnel r outcome r') (holds : r.session.Holds) :
    ∃ events, r'.trace = r.trace ++ events ∧ Requests env link timeoutMs underTunnel r events := by
  obtain ⟨preparing, starting, launches⟩ := exists_launches env underTunnel holds
  obtain ⟨untestedPreparing, untestedStarting⟩ := launches.untested
  have prepares (builds : Operation.build.outcome env r = .ok ()) :
      Requests env link timeoutMs underTunnel r preparing :=
    ⟨fun e mem text mode same => ⟨builds, launches.loads e (List.mem_append_left _ mem) text mode same⟩,
      .inl untestedPreparing⟩
  have starts (builds : Operation.build.outcome env r = .ok ()) :
      Requests env link timeoutMs underTunnel r (preparing ++ starting) :=
    ⟨fun e mem text mode same => ⟨builds, launches.loads e mem text mode same⟩,
      .inl (untestedPreparing.append untestedStarting)⟩
  cases measured with
  | unbuilt => exact ⟨[], by rw [trace_built, List.append_nil], nofun, .inl nofun⟩
  | unprepared builds => exact ⟨preparing, launches.prepared, prepares builds⟩
  | unstarted builds => exact ⟨preparing ++ starting, launches.started, starts builds⟩
  | untrusted launched =>
    let refused : Event := ⟨.updateTrust r.session.settings.trustSource, (r.trusted env underTunnel).1⟩
    obtain ⟨loads, order⟩ := starts launched.builds
    refine ⟨preparing ++ starting ++ [refused], ?_, loads.append ?_, .inl ?_⟩
    · have after : (r.trusted env underTunnel).2.trace =
          (r.warm env underTunnel).trace ++ [refused] := rfl
      rw [after, trace_warm launches, List.append_assoc]
    · intro e mem text mode same
      rw [List.mem_singleton.1 mem] at same
      cases same
    · refine (untestedPreparing.append untestedStarting).append fun e mem link timeoutMs same => ?_
      rw [List.mem_singleton.1 mem] at same
      cases same
  | untested launched trusts | tested launched trusts => exact launched.requests holds trusts

/-- A test is a measurement of the session as a test, which is then closed. -/
lemma latencyTest_eq (env : Environment ω) (link : String) (timeoutMs : Nat) (underTunnel : Bool)
    (r : Run ω) :
    latencyTest env link timeoutMs underTunnel r =
      (result (measure env link timeoutMs underTunnel) r.asTest,
        Operation.close.perform env (leaves (measure env link timeoutMs underTunnel) r.asTest)) := by
  unfold latencyTest result leaves Run.asTest
  cases measure env link timeoutMs underTunnel
    { r with session := { r.session with forTest := true } } <;> rfl

/-- What was built was compiled from the chain. -/
lemma built_of_builds (builds : Operation.build.outcome env r = .ok ()) :
    ∃ compiled, compile (env.systemPorts r.world) r.session.chain r.session.settings r.session.forTest
        = .ok compiled ∧
      (r.built env).session.compiled = some compiled ∧
      (r.built env).session.forTest = r.session.forTest := by
  rw [Operation.outcome, result] at builds
  rw [Run.built, Operation.perform, leaves]
  obtain ⟨e, failed⟩ | ⟨compiled, -, compiles, built⟩ := build_cases env r
  · rw [failed] at builds
    cases builds
  · rw [built]
    exact ⟨compiled, compiles, rfl, rfl⟩

/-- What a test loads is what the chain compiles to as a test, in direct mode. -/
lemma loads_asTest (builds : Operation.build.outcome env r.asTest = .ok ()) {text : String}
    {mode : CaptureMode}
    (loads : LoadsCompiled underTunnel (r.asTest.built env).session (.loadCore text mode)) :
    mode = .direct ∧ ∃ compiled, compile (env.systemPorts r.world) r.session.chain r.session.settings
      true = .ok compiled ∧ compiled.text = text := by
  obtain ⟨compiled, compiles, found, forTest⟩ := built_of_builds builds
  obtain ⟨compiled', found', same⟩ := loads
  obtain rfl := Option.some.inj (found.symm.trans found')
  obtain ⟨rfl, rfl⟩ := Call.loadCore.inj same
  refine ⟨?_, compiled, compiles, rfl⟩
  have test : (r.asTest.built env).session.forTest = true := forTest
  rw [captureMode, test, Bool.not_true, Bool.and_false]
  rfl

/-- A measurement leaves what was compiled as it is. -/
lemma Measured.compiled {outcome : Except SessionError Nat}
    (measured : Measured env link timeoutMs underTunnel r outcome r') (holds : r.session.Holds) :
    r'.session.compiled = (r.built env).session.compiled := by
  have started := (samePlan_started env underTunnel holds).compiled
  cases measured with
  | unbuilt => rfl
  | unprepared => exact (samePlan_prepared env underTunnel r).compiled
  | unstarted => exact started
  | untrusted | untested | tested =>
    exact (congrArg Session.compiled (session_warm env underTunnel r)).trans started

/-- Closing only takes down, and what was compiled is kept. -/
lemma close_spec (env : Environment ω) (r : Run ω) :
    ∃ closing, (Operation.close.perform env r).trace = r.trace ++ closing ∧
      (∀ e ∈ closing, e.call.isTeardown = true) ∧
        (Operation.close.perform env r).session.compiled = r.session.compiled := by
  rw [Operation.perform]
  by_cases closed : r.session.stage = .closed
  · rw [close_of_closed env closed]
    exact ⟨[], (List.append_nil _).symm, fun _ mem => absurd mem List.not_mem_nil, rfl⟩
  · obtain ⟨⟨closing, done⟩, session⟩ := carriedOut_close env closed
    refine ⟨closing, done.trace, fun e mem => ?_, by rw [session]; rfl⟩
    obtain ⟨task, -, same⟩ := done.exists_task mem
    rw [← same]
    cases task <;> rfl

/-- What a latency test of a session comes to. -/
structure LatencyTested (env : Environment ω) (document link : String) (timeoutMs : Nat)
    (underTunnel : Bool) (r : Run ω) (outcome : Except SessionError Nat) (final : Run ω) : Prop where
  /-- The result is that of the measurement, whatever comes of closing. -/
  measured : ∃ r', Measured env link timeoutMs underTunnel r.asTest outcome r' ∧
    final = Operation.close.perform env r'
  closed : final.session.stage = .closed
  released : ∃ work closing, final.Released work closing
  /-- In particular the helpers are closed if the test has compiled the chain. -/
  compiled : Operation.build.outcome env r.asTest = .ok () → final.session.compiled.isSome = true
  requests : ∃ events, final.trace = r.trace ++ events ∧
    LoadsOnly (fun text mode => text = document ∧ mode = .direct) events ∧
    (Untested events ∨ InTurn (r.asTest.prepared env underTunnel).session
      r.session.settings.trustSource link timeoutMs events)

end Session

/-- Whatever its owner asked of a session before and whatever fails, a latency test closes it and gives
everything back, results in the latency or the first failure of the measurement, and asks for the test
of the link after everything else. It loads one document at most, in direct mode, and the same one
under a tunnel. -/
theorem Owned.latencyTested (owned : Owned env r) :
    ∃ document, ∀ link timeoutMs underTunnel,
      Session.LatencyTested env document link timeoutMs underTunnel r
        (Session.latencyTest env link timeoutMs underTunnel r).1
        (Session.latencyTest env link timeoutMs underTunnel r).2 := by
  -- The chain is compiled before the tunnel is looked at.
  refine ⟨match compile (env.systemPorts r.world) r.session.chain r.session.settings true with
    | .ok compiled => compiled.text
    | .error _ => "", fun link timeoutMs underTunnel => ?_⟩
  have inHand := owned.asTest.inHand
  have measured := Session.measured env link timeoutMs underTunnel inHand.holds
  rw [Session.latencyTest_eq]
  generalize leaves (Session.measure env link timeoutMs underTunnel) r.asTest = r' at *
  generalize result (Session.measure env link timeoutMs underTunnel) r.asTest = outcome at *
  have final := Operation.close.inHand_perform env (measured.inHand inHand)
  have closed := Operation.stage_close env r'
  obtain ⟨closing, trace, teardown, kept⟩ := Session.close_spec env r'
  refine ⟨⟨r', measured, rfl⟩, closed, final.released closed, fun builds => ?compiled, ?requests⟩
  case compiled =>
    obtain ⟨compiled, -, found, -⟩ := Session.built_of_builds builds
    rw [kept, measured.compiled inHand.holds, found]
    rfl
  case requests =>
    obtain ⟨events, measuring, requests⟩ := measured.requests inHand.holds
    obtain ⟨loads, order⟩ := requests.append teardown
    refine ⟨events ++ closing, ?_, fun e mem text mode same => ?_, order⟩
    · rw [trace, measuring, List.append_assoc]
      rfl
    · obtain ⟨builds, load⟩ := loads e mem text mode same
      obtain ⟨direct, compiled, compiles, rfl⟩ := Session.loads_asTest builds load
      rw [compiles]
      exact ⟨rfl, direct⟩

/-- A session over a helper whose link is tested although nothing can be closed and no file deleted
afterwards: that is not told. -/
theorem Owned.latencyTested_certified :
    let r : Run Unit := .certified ()
    let tested := Session.latencyTest Follows.clinging "https://example.com" 3000 true r
    let closing := tested.2.trace.filter fun e => e.call.isTeardown
    Owned Follows.clinging r ∧ tested.1.toOption = some 0 ∧ closing.length = 4 ∧
      closing.all (fun e => !e.succeeded) ∧
        ∃ document, Session.LatencyTested Follows.clinging document "https://example.com" 3000 true r
          tested.1 tested.2 := by
  intro r tested closing
  have owned : Owned Follows.clinging r := .fresh _ _ _
  obtain ⟨document, conclusive⟩ := owned.latencyTested
  exact ⟨owned, by decide +kernel, by decide +kernel, by decide +kernel, document, conclusive _ _ _⟩

end ProxyChain
