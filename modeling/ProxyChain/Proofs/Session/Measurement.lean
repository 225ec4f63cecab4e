import ProxyChain.Proofs.Session.Holdings
import ProxyChain.Proofs.Session.Stage
import ProxyChain.Session.LatencyTest

/-!
# How a latency test comes to its result

A test builds, prepares and starts, has the trust anchors updated and the link tested. Its result is the
latency or the first failure among these five (`Session.measured`), and no more is asked for after it.
Of what a phase needs from earlier ones nothing is ever missing, here or in any other use of a session
(`Owned.nothing_missing`).
-/

namespace ProxyChain

open SessionM

variable {ω : Type} {env : Environment ω}

namespace Run

/-- The run after building. -/
def built (env : Environment ω) (r : Run ω) : Run ω := Operation.build.perform env r

/-- The run after building and preparing. -/
def prepared (env : Environment ω) (underTunnel : Bool) (r : Run ω) : Run ω :=
  (Operation.prepare underTunnel).perform env (r.built env)

/-- The run after building, preparing and starting. -/
def started (env : Environment ω) (underTunnel : Bool) (r : Run ω) : Run ω :=
  Operation.start.perform env (r.prepared env underTunnel)

/-- The run once the helpers that were started had time to come up. -/
def warm (env : Environment ω) (underTunnel : Bool) (r : Run ω) : Run ω :=
  leaves (Session.warmUp env) (r.started env underTunnel)

/-- What comes of updating the trust anchors then. -/
def trusted (env : Environment ω) (underTunnel : Bool) (r : Run ω) : Except String Unit × Run ω :=
  (r.warm env underTunnel).perform env (.updateTrust r.session.settings.trustSource)

/-- What comes of testing a link after that. -/
def tested (env : Environment ω) (link : String) (timeoutMs : Nat) (underTunnel : Bool) (r : Run ω) :
    Except String Nat × Run ω :=
  (r.trusted env underTunnel).2.perform env (.testLink link timeoutMs)

end Run

namespace Session

/-- The three phases succeed one after the other. -/
structure Launched (env : Environment ω) (underTunnel : Bool) (r : Run ω) : Prop where
  builds : Operation.build.outcome env r = .ok ()
  prepares : (Operation.prepare underTunnel).outcome env (r.built env) = .ok ()
  starts : Operation.start.outcome env (r.prepared env underTunnel) = .ok ()

/-- What a measurement results in and the run that it leaves: the first of five steps that fails is the
last one. -/
inductive Measured (env : Environment ω) (link : String) (timeoutMs : Nat) (underTunnel : Bool)
    (r : Run ω) : Except SessionError Nat → Run ω → Prop where
  | unbuilt {e : SessionError} (fails : Operation.build.outcome env r = .error e) :
      Measured env link timeoutMs underTunnel r (.error e) (r.built env)
  | unprepared {e : SessionError} (builds : Operation.build.outcome env r = .ok ())
      (fails : (Operation.prepare underTunnel).outcome env (r.built env) = .error e) :
      Measured env link timeoutMs underTunnel r (.error e) (r.prepared env underTunnel)
  | unstarted {e : SessionError} (builds : Operation.build.outcome env r = .ok ())
      (prepares : (Operation.prepare underTunnel).outcome env (r.built env) = .ok ())
      (fails : Operation.start.outcome env (r.prepared env underTunnel) = .error e) :
      Measured env link timeoutMs underTunnel r (.error e) (r.started env underTunnel)
  | untrusted {fault : String} (launched : Launched env underTunnel r)
      (fails : (r.trusted env underTunnel).1 = .error fault) :
      Measured env link timeoutMs underTunnel r
        (.error (.failed (.updateTrust r.session.settings.trustSource) fault))
        (r.trusted env underTunnel).2
  | untested {fault : String} (launched : Launched env underTunnel r)
      (trusts : (r.trusted env underTunnel).1 = .ok ())
      (fails : (r.tested env link timeoutMs underTunnel).1 = .error fault) :
      Measured env link timeoutMs underTunnel r (.error (.failed (.testLink link timeoutMs) fault))
        (r.tested env link timeoutMs underTunnel).2
  | tested {latency : Nat} (launched : Launched env underTunnel r)
      (trusts : (r.trusted env underTunnel).1 = .ok ())
      (answers : (r.tested env link timeoutMs underTunnel).1 = .ok latency) :
      Measured env link timeoutMs underTunnel r (.ok latency)
        (r.tested env link timeoutMs underTunnel).2

variable {link : String} {timeoutMs : Nat} {underTunnel : Bool} {r r' : Run ω}

/-- Waiting changes no session. -/
lemma warmUp_eq (env : Environment ω) (r : Run ω) :
    result (warmUp env) r = .ok () ∧ ∃ world, leaves (warmUp env) r = { r with world } := by
  unfold result leaves warmUp
  refine ⟨rfl, ?_⟩
  dsimp only
  split
  · exact ⟨_, rfl⟩
  · exact ⟨r.world, rfl⟩

/-- Building leaves the settings as they are. -/
lemma settings_built (env : Environment ω) (r : Run ω) :
    (r.built env).session.settings = r.session.settings := by
  rw [Run.built, Operation.perform, leaves]
  obtain ⟨e, failed⟩ | ⟨compiled, -, -, built⟩ := build_cases env r
  · rw [failed]
  · rw [built]

/-- A session that was built and prepared has its holdings in order. -/
lemma Holds.prepared (env : Environment ω) (underTunnel : Bool) (holds : r.session.Holds) :
    (r.prepared env underTunnel).session.Holds :=
  (Operation.prepare underTunnel).holds_perform env (Operation.build.holds_perform env holds)

/-- After building the plan stays as it is. -/
lemma samePlan_prepared (env : Environment ω) (underTunnel : Bool) (r : Run ω) :
    SamePlan (r.built env).session (r.prepared env underTunnel).session := by
  have prepares : Always Prepares (prepare env underTunnel) := prepares_prepare underTunnel
  obtain ⟨_, -, same, -⟩ := prepares (r.built env)
  exact same

/-- The plan is kept from building to starting. -/
lemma samePlan_started (env : Environment ω) (underTunnel : Bool) (holds : r.session.Holds) :
    SamePlan (r.built env).session (r.started env underTunnel).session := by
  have starts : Does (start env) (r.prepared env underTunnel) _ :=
    does_start (holds.prepared env underTunnel).needed
  obtain ⟨_, -, same, -⟩ := starts
  exact (samePlan_prepared env underTunnel r).trans same

/-- The warm-up leaves the session as it is. -/
lemma session_warm (env : Environment ω) (underTunnel : Bool) (r : Run ω) :
    (r.warm env underTunnel).session = (r.started env underTunnel).session := by
  obtain ⟨-, world, warm⟩ := warmUp_eq env (r.started env underTunnel)
  rw [Run.warm, warm]

/-- Once it is launched a session runs, under the settings that it had. -/
lemma Launched.running (launched : Launched env underTunnel r) (holds : r.session.Holds) :
    (r.warm env underTunnel).session.stage = .running ∧
      (r.warm env underTunnel).session.settings = r.session.settings ∧
        (r.warm env underTunnel).session.Holds := by
  obtain ⟨-, running, -⟩ := (Operation.start.inOrder env _).advances .start rfl launched.starts
  rw [session_warm]
  exact ⟨running, (samePlan_started env underTunnel holds).settings.trans (settings_built env r),
    Operation.start.holds_perform env (holds.prepared env underTunnel)⟩

/-- Building is the same when its result is not looked at. -/
lemma discard_build (env : Environment ω) (r : Run ω) :
    result (discard (build env)) r = Operation.build.outcome env r ∧
      leaves (discard (build env)) r = r.built env := by
  have mapped : (discard (build env)) r = EStateM.map (fun _ => ()) (build env) r := rfl
  rw [Operation.outcome, Run.built, Operation.perform]
  unfold result leaves
  rw [mapped, EStateM.map]
  cases build env r <;> exact ⟨rfl, rfl⟩

/-- How a measurement ends. -/
theorem measured (env : Environment ω) (link : String) (timeoutMs : Nat) (underTunnel : Bool)
    (holds : r.session.Holds) :
    Measured env link timeoutMs underTunnel r (result (measure env link timeoutMs underTunnel) r)
      (leaves (measure env link timeoutMs underTunnel) r) := by
  obtain ⟨outcome, built⟩ := discard_build env r
  unfold measure
  refine bind_cases _ (fun e fails => ?_) fun _ builds => ?_
  · rw [built]
    exact .unbuilt (outcome.symm.trans fails)
  rw [outcome] at builds
  rw [built]
  refine bind_cases _ (fun e fails => .unprepared builds fails) fun _ prepares => ?_
  refine bind_cases _ (fun e fails => .unstarted builds prepares fails) fun _ starts => ?_
  have launched : Launched env underTunnel r := ⟨builds, prepares, starts⟩
  obtain ⟨running, settings, warm⟩ := launched.running holds
  refine bind_cases _ (fun e fails => by cases fails) fun _ _ => ?_
  change Measured env link timeoutMs underTunnel r (result _ (r.warm env underTunnel))
    (leaves _ (r.warm env underTunnel))
  refine bind_cases _ (fun e fails => by cases fails) fun s found => ?_
  obtain rfl := Except.ok.inj found
  -- The core is there, since the session runs.
  rw [settings, warm.core.2 (.inr running)]
  refine call_bind_cases _ (fun fault fails => .untrusted launched fails) fun _ trusts => ?_
  refine bind_cases _ (fun e fails => by cases fails) fun _ _ => ?_
  exact call_cases _ (fun fault fails => .untested launched trusts fails)
    fun latency answers => .tested launched trusts answers

/-- A measurement misses nothing that a phase was to leave behind. -/
lemma Measured.ne_missing {outcome : Except SessionError Nat}
    (measured : Measured env link timeoutMs underTunnel r outcome r') (holds : r.session.Holds)
    (part : Missing) : outcome ≠ .error (.missing part) := by
  intro missing
  subst missing
  cases measured with
  | unbuilt fails => exact Operation.build.outcome_ne_missing env holds part fails
  | unprepared _ fails =>
    exact (Operation.prepare underTunnel).outcome_ne_missing env
      (Operation.build.holds_perform env holds) part fails
  | unstarted _ _ fails =>
    exact Operation.start.outcome_ne_missing env (holds.prepared env underTunnel) part fails

end Session

namespace Owned

variable {r : Run ω}

/-- Whatever its owner asked of a session and whatever failed: it holds what its stage calls for, and
neither an operation nor a measurement ever finds that a phase did not leave behind what it was to. -/
theorem nothing_missing (owned : Owned env r) :
    r.session.Holds ∧ (∀ (op : Operation) part, op.outcome env r ≠ .error (.missing part)) ∧
      ∀ link timeoutMs underTunnel part,
        result (Session.measure env link timeoutMs underTunnel) r.asTest ≠ .error (.missing part) := by
  have measured link timeoutMs underTunnel :=
    Session.measured env link timeoutMs underTunnel owned.asTest.holds
  exact ⟨owned.holds, fun op part => op.outcome_ne_missing env owned.holds part,
    fun link timeoutMs underTunnel part =>
      (measured link timeoutMs underTunnel).ne_missing owned.asTest.holds part⟩

/-- Surroundings that load a core only once the world has changed. -/
def reluctant : Environment Bool where
  perform c world :=
    (match c with
      | .loadCore .. => if world then .ok () else .error "not yet"
      | c => (Reachable.willing.perform c ()).1, world)
  systemPorts _ _ := .error ""
  freshName world := ("", world)
  helperCount _ := 0
  wait _ world := world
  now _ := 0

/-- A session over a helper that could not be prepared at first. -/
def unpreparedRun : Run Bool :=
  (Operation.prepare false).perform reluctant (Operation.build.perform reluctant (.certified false))

/-- It holds what it needs to start when it is prepared once more. -/
theorem nothing_missing_unpreparedRun :
    let r := (Operation.prepare false).perform reluctant { unpreparedRun with world := true }
    Owned reluctant r ∧ unpreparedRun.session.stage = .configured ∧ r.session.stage = .loaded ∧
      r.session.helperConfigs.length = 1 ∧ r.session.Holds ∧
        ∀ part, Operation.start.outcome reluctant r ≠ .error (.missing part) := by
  intro r
  have owned : Owned reluctant r :=
    .perform _ (.drift true (.perform _ (.perform _ (.fresh _ _ false))))
  obtain ⟨holds, complete, -⟩ := owned.nothing_missing
  exact ⟨owned, by decide +kernel, by decide +kernel, by decide +kernel, holds, complete .start⟩

end Owned

end ProxyChain
