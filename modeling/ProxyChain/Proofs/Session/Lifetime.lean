import ProxyChain.Proofs.Session.LatencyTest

/-!
# The life of a session

From its beginning on a session lives through steps: operations, what a measurement asks of a session
that runs, changes to its kind and its policy, and whatever happens to the world in between (`Happens`).
A latency test is made of such steps (`Lived.latencyTest`). In all of this the session keeps hold of what
it has brought about (`Lived.inHand`), and only closing closes a core or has the process end itself
(`Happens.spares`).
-/

namespace ProxyChain

open SessionM

variable {ω : Type} {env : Environment ω} {r r' : Run ω}

/-- Whether a call is one that a measurement makes besides those of the phases. -/
def Call.measures : Call → Bool
  | updateTrust _ | testLink .. => true
  | resolveHelper _ | createDirectory _ | writeFile .. | deleteFile _ | loadCore .. | startCore
  | closeCore | startHelper _ | closeHelpers | launchExternal _ | closeExternal _ => false

/-- What may happen to a session next. -/
inductive Happens (env : Environment ω) (r : Run ω) : Run ω → Prop where
  | perform (op : Operation) : Happens env r (op.perform env r)
  | ask {c : Call} (measures : c.measures = true) (running : r.session.stage = .running) :
      Happens env r (r.perform env c).2
  | asTest : Happens env r r.asTest
  | govern (policy : ShutdownPolicy) : Happens env r (r.govern policy)
  | drift (world : ω) : Happens env r { r with world }

/-- The runs that a session may live to see. -/
inductive Lived (env : Environment ω) : Run ω → Prop where
  | fresh (chain : List Record) (settings : Settings) (policy : ShutdownPolicy) (forTest : Bool)
      (world : ω) : Lived env (.fresh chain settings policy forTest world)
  | step {r r' : Run ω} (lived : Lived env r) (happens : Happens env r r') : Lived env r'

/-- A new session has nothing in its hands. -/
lemma Run.inHand_fresh (chain : List Record) (settings : Settings) (policy : ShutdownPolicy)
    (forTest : Bool) (world : ω) : (Run.fresh chain settings policy forTest world).InHand :=
  ⟨.idle (by simp [Run.fresh]) (fun _ => rfl) rfl nofun, fun _ => ⟨rfl, rfl, nofun⟩, nofun⟩

/-- Whatever happens to a session, it keeps hold of what it has brought about. -/
lemma Happens.inHand (happens : Happens env r r') (h : r.InHand) : r'.InHand := by
  cases happens with
  | perform op => exact op.inHand_perform env h
  | @ask c measures running =>
    refine Session.inHand_ask h running ?_ ?_ fun outcome => ?_
    all_goals cases c <;> first | rfl | cases measures
  | asTest | govern | drift => exact h.of_same rfl rfl rfl rfl rfl (.of_eq rfl rfl)

namespace Lived

/-- A session that lives keeps hold of what it has brought about. -/
theorem inHand (lived : Lived env r) : r.InHand := by
  induction lived with
  | fresh => exact Run.inHand_fresh _ _ _ _ _
  | step _ happens ih => exact happens.inHand ih

/-- A measurement goes through the three phases and asks two things of the session that runs then. -/
lemma measured (lived : Lived env r) {link : String} {timeoutMs : Nat} {underTunnel : Bool}
    {outcome : Except SessionError Nat}
    (measured : Session.Measured env link timeoutMs underTunnel r outcome r') : Lived env r' := by
  have built : Lived env (r.built env) := lived.step (.perform .build)
  have prepared : Lived env (r.prepared env underTunnel) := built.step (.perform (.prepare underTunnel))
  have started : Lived env (r.started env underTunnel) := prepared.step (.perform .start)
  have trusted (launched : Session.Launched env underTunnel r) :
      Lived env (r.trusted env underTunnel).2 ∧
        (r.trusted env underTunnel).2.session.stage = .running := by
    obtain ⟨running, -, -⟩ := launched.running lived.inHand.holds
    obtain ⟨-, world, waited⟩ := Session.warmUp_eq env (r.started env underTunnel)
    have warm : Lived env (r.warm env underTunnel) := by
      rw [Run.warm, waited]
      exact started.step (.drift world)
    exact ⟨warm.step (.ask rfl running), running⟩
  cases measured with
  | unbuilt => exact built
  | unprepared => exact prepared
  | unstarted => exact started
  | untrusted launched => exact (trusted launched).1
  | untested launched | tested launched =>
    obtain ⟨lived, running⟩ := trusted launched
    exact lived.step (.ask rfl running)

/-- A session lives through a latency test. -/
lemma latencyTest (lived : Lived env r) (link : String) (timeoutMs : Nat) (underTunnel : Bool) :
    Lived env (Session.latencyTest env link timeoutMs underTunnel r).2 := by
  have test := lived.step .asTest
  rw [Session.latencyTest_eq]
  exact (test.measured (Session.measured env link timeoutMs underTunnel test.inHand.holds)).step
    (.perform .close)

end Lived

namespace Session

/-- No core is closed and no end of the process is scheduled. -/
structure SparesCore (r : Run ω) (events : List Event) (r' : Run ω) : Prop where
  calls : ∀ e ∈ events, e.call ≠ .closeCore
  terminations : r'.terminations = r.terminations

/-- The core is spared where nothing happens. -/
lemma SparesCore.silent (terminations : r'.terminations = r.terminations) : SparesCore r [] r' :=
  ⟨nofun, terminations⟩

instance : Composes (SparesCore (ω := ω)) where
  idle _ _ := .silent rfl
  trans h h' := ⟨fun e mem => (List.mem_append.1 mem).elim (h.calls e) (h'.calls e),
    h'.terminations.trans h.terminations⟩

/-- The core is spared by every call but the one that closes it. -/
lemma sparesCore_call {c : Call} (other : c ≠ .closeCore) : Always SparesCore (call env c) := by
  refine .call fun r outcome world => ⟨fun e mem => ?_, rfl⟩
  rw [List.mem_singleton.1 mem]
  exact other

/-- The core is spared by changes to the session. -/
lemma sparesCore_update (g : Session → Session) : Always (SparesCore (ω := ω)) (update g) :=
  .update fun _ => .silent rfl

/-- Work on helpers schedules no end of the process. -/
lemma keptByWork_terminations (env : Environment ω) (terminations : List Nat) :
    KeptByWork env fun _ r => r.terminations = terminations where
  perform _ _ holds := holds
  helpers _ _ holds := holds
  draw holds := holds
  drop holds := holds
  write _ _ holds := holds

/-- So what is nothing but such work spares the core. -/
lemma sparesCore_of_works {α : Type} {x : SessionM ω α} (works : Always Works x)
    (keeps : ∀ terminations, Keeps (fun r => r.terminations = terminations) x) :
    Always SparesCore x := by
  intro r
  obtain ⟨events, trace, worked⟩ := works r
  refine ⟨events, trace, fun e mem closes => ?_, (keeps r.terminations).leaves rfl⟩
  have work := worked.calls e mem
  rw [closes] at work
  cases work

/-- Preparing a hop spares the core. -/
lemma sparesCore_prepareEntry (underTunnel : Bool) (helpers : ExternalChain)
    (entry : UInt16 × Record) : Always SparesCore (prepareEntry env underTunnel helpers entry) :=
  sparesCore_of_works (works_prepareEntry underTunnel helpers entry) fun terminations =>
    (keptByWork_terminations env terminations).keeps_prepareEntry underTunnel helpers entry

/-- Having a hop served spares the core. -/
lemma sparesCore_startEntry (entry : UInt16 × Record) : Always SparesCore (startEntry env entry) :=
  sparesCore_of_works (works_startEntry entry) fun terminations =>
    (keptByWork_terminations env terminations).keeps_startEntry entry

/-- Building spares the core. -/
lemma sparesCore_build : Always SparesCore (build env) := by
  intro r
  refine ⟨[], ?_⟩
  rw [result, leaves]
  obtain ⟨e, failed⟩ | ⟨compiled, -, -, built⟩ := build_cases env r
  · rw [failed]
    exact ⟨(List.append_nil _).symm, .silent rfl⟩
  · rw [built]
    exact ⟨(List.append_nil _).symm, .silent rfl⟩

/-- Preparing spares the core. -/
lemma sparesCore_prepare (underTunnel : Bool) : Always SparesCore (prepare env underTunnel) := by
  refine .bind (.enter .prepare) fun _ => ?_
  refine .bind .session fun s => ?_
  refine .bind (.require _ _) fun compiled => ?_
  refine .bind (.forM fun helpers _ => .forM fun entry _ =>
    sparesCore_prepareEntry underTunnel helpers entry) fun _ => ?_
  refine .bind .session fun s => ?_
  exact .bind (sparesCore_call nofun) fun _ => sparesCore_update _

/-- Starting spares the core. -/
lemma sparesCore_start : Always SparesCore (start env) := by
  refine .bind (.enter .start) fun _ => ?_
  refine .bind .session fun s => ?_
  refine .bind (.require _ _) fun compiled => ?_
  refine .bind (sparesCore_call nofun) fun _ => ?_
  refine .bind (.forM fun helpers _ => .forM fun entry _ => sparesCore_startEntry entry) fun _ => ?_
  refine .bind (.require _ _) fun _ => ?_
  exact .bind (sparesCore_call nofun) fun _ => sparesCore_update _

end Session

/-- Only closing closes a core or has the process end itself. -/
theorem Happens.spares (happens : Happens env r r') :
    (∃ events, r'.trace = r.trace ++ events ∧ Session.SparesCore r events r') ∨
      r' = (Session.close env r).2 := by
  have silent (trace : r'.trace = r.trace) (terminations : r'.terminations = r.terminations) :
      ∃ events, r'.trace = r.trace ++ events ∧ Session.SparesCore r events r' :=
    ⟨[], by rw [trace, List.append_nil], .silent terminations⟩
  cases happens with
  | perform op =>
    cases op with
    | build => exact .inl (Session.sparesCore_build r)
    | prepare underTunnel => exact .inl (Session.sparesCore_prepare underTunnel r)
    | start => exact .inl (Session.sparesCore_start r)
    | close => exact .inr rfl
    | attach => exact .inl (silent rfl rfl)
  | @ask c measures =>
    refine .inl ⟨_, rfl, fun e mem closes => ?_, rfl⟩
    rw [List.mem_singleton.1 mem] at closes
    subst closes
    cases measures
  | asTest | govern | drift => exact .inl (silent rfl rfl)

end ProxyChain
