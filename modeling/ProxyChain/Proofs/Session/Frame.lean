import ProxyChain.Proofs.Session.Close
import ProxyChain.Proofs.Session.Work

/-!
# What the phases leave alone

Once a chain is compiled, preparing and starting keep to what was planned: the chain, the settings and
what they were compiled to stay as they are, and so do the attached instances (`SamePlan`). Neither
building nor preparing nor closing asks for the core's start (`Quiet`).
-/

namespace ProxyChain

open SessionM

variable {ω : Type}

namespace Session

/-- Two sessions with the same plan: what is compiled, how, to what, and which instances are attached. -/
structure SamePlan (s s' : Session) : Prop where
  chain : s'.chain = s.chain
  settings : s'.settings = s.settings
  forTest : s'.forTest = s.forTest
  compiled : s'.compiled = s.compiled
  externals : s'.externals = s.externals

namespace SamePlan

/-- A session has its own plan. -/
lemma refl (s : Session) : SamePlan s s := ⟨rfl, rfl, rfl, rfl, rfl⟩

/-- A plan that is the same after each of two steps is the same after both. -/
lemma trans {s s' s'' : Session} (h : SamePlan s s') (h' : SamePlan s' s'') : SamePlan s s'' :=
  ⟨h'.chain.trans h.chain, h'.settings.trans h.settings, h'.forTest.trans h.forTest,
    h'.compiled.trans h.compiled, h'.externals.trans h.externals⟩

end SamePlan

end Session

/-- The core's start is not asked for. -/
def Quiet (events : List Event) : Prop := ∀ e ∈ events, e.call ≠ .startCore

namespace Quiet

/-- It is quiet when nothing happens. -/
lemma nil : Quiet [] := fun _ mem => by cases mem

/-- An event is quiet unless it is a start of the core. -/
lemma singleton {e : Event} (other : e.call ≠ .startCore) : Quiet [e] := by
  intro e' mem
  rw [List.mem_singleton.1 mem]
  exact other

/-- What is quiet before and afterwards is quiet together. -/
lemma append {events events' : List Event} (h : Quiet events) (h' : Quiet events') :
    Quiet (events ++ events') := by
  intro e mem
  exact (List.mem_append.1 mem).elim (h e) (h' e)

end Quiet

namespace Session

/-- The plan stays as it is and the core is not started. -/
def Prepares (r : Run ω) (events : List Event) (r' : Run ω) : Prop :=
  SamePlan r.session r'.session ∧ Quiet events

instance : Composes (Prepares (ω := ω)) where
  idle r _ := ⟨.refl r.session, .nil⟩
  trans h h' := ⟨h.1.trans h'.1, h.2.append h'.2⟩

variable {env : Environment ω}

/-- Any other call than the core's start may be made. -/
lemma prepares_call {c : Call} (other : c ≠ .startCore) : Always Prepares (call env c) :=
  .call fun r _ _ => ⟨.refl r.session, .singleton other⟩

/-- Anything outside of the plan may be changed. -/
lemma prepares_update {g : Session → Session} (same : ∀ s, SamePlan s (g s)) :
    Always (Prepares (ω := ω)) (update g) :=
  .update fun r => ⟨same r.session, .nil⟩

/-- Work on helpers keeps to the plan. -/
lemma Works.prepares {r r' : Run ω} {events : List Event} (h : Works r events r') :
    Prepares r events r' := by
  obtain ⟨programs, configs, session⟩ := h.session
  refine ⟨?_, fun e mem start => ?_⟩
  · rw [session]
    exact ⟨rfl, rfl, rfl, rfl, rfl⟩
  · have work := h.calls e mem
    rw [start] at work
    cases work

/-- Preparing keeps to the plan and does not start the core. -/
theorem prepares_prepare (underTunnel : Bool) : Always Prepares (prepare env underTunnel) := by
  refine .bind (.enter .prepare) fun _ => ?_
  refine .bind .session fun s => ?_
  refine .bind (.require _ _) fun compiled => ?_
  refine .bind (.forM fun helpers _ => .forM fun entry _ =>
    (works_prepareEntry underTunnel helpers entry).mono fun _ _ _ => Works.prepares) fun _ => ?_
  refine .bind .session fun s => ?_
  exact .bind (prepares_call (by simp))
    fun _ => prepares_update fun _ => ⟨rfl, rfl, rfl, rfl, rfl⟩

/-- Building makes no call. It fails and changes nothing, or the chain compiles. -/
theorem does_build (env : Environment ω) (r : Run ω) : Does (build env) r fun result events r' =>
    events = [] ∧
      match result with
      | .error _ => r' = r
      | .ok compiled =>
        r.session.stage = Phase.build.before ∧
          compile (env.systemPorts r.world) r.session.chain r.session.settings r.session.forTest
            = .ok compiled ∧
          r' = { r with session :=
            { r.session with compiled := some compiled, stage := Phase.build.after } } := by
  refine .bind (.enter (fun stage => ?opened) fun _ => ?closed)
  case closed => exact ⟨rfl, rfl⟩
  refine .bind (.get ?_)
  dsimp only
  cases compiles : compile (env.systemPorts r.world) r.session.chain r.session.settings
      r.session.forTest with
  | error e =>
    refine .throw ?_
    exact ⟨rfl, rfl⟩
  | ok compiled =>
    refine .bind (.update (.pure ?_))
    exact ⟨rfl, stage, rfl, rfl⟩

/-- How building may end. -/
lemma build_cases (env : Environment ω) (r : Run ω) :
    (∃ e, build env r = .error e r) ∨
      ∃ compiled, r.session.stage = Phase.build.before ∧
        compile (env.systemPorts r.world) r.session.chain r.session.settings r.session.forTest
          = .ok compiled ∧
        build env r = .ok compiled { r with session :=
          { r.session with compiled := some compiled, stage := Phase.build.after } } := by
  obtain ⟨events, -, -, built⟩ := does_build env r
  unfold result leaves at built
  cases ends : build env r with
  | error e r' =>
    rw [ends] at built
    exact .inl ⟨e, congrArg _ built⟩
  | ok compiled r' =>
    rw [ends] at built
    obtain ⟨stage, compiles, after⟩ := built
    exact .inr ⟨compiled, stage, compiles, congrArg _ after⟩

/-- Taking a session down does not start the core. -/
lemma CarriedOut.quiet {tasks : List TeardownTask} {r r' : Run ω} {failures : List TeardownFailure}
    {events : List Event} (done : CarriedOut tasks r failures events r') : Quiet events := by
  intro e mem start
  obtain ⟨task, -, same⟩ := done.exists_task mem
  rw [start] at same
  cases task <;> cases same

/-- It writes nothing either. -/
lemma CarriedOut.written_eq_nil {tasks : List TeardownTask} {r r' : Run ω}
    {failures : List TeardownFailure} {events : List Event}
    (done : CarriedOut tasks r failures events r') : written events = [] := by
  refine List.filterMap_eq_nil_iff.2 fun e mem => ?_
  obtain ⟨task, -, same⟩ := done.exists_task mem
  rw [← same]
  cases task <;> rfl

/-- Closing keeps to the plan, except that no instance stays attached, and does not start the core. -/
theorem quiet_close (env : Environment ω) (r : Run ω) :
    ∃ events, (close env r).2.trace = r.trace ++ events ∧ Quiet events ∧
      ((close env r).2.session = r.session ∨ (close env r).2.session = r.session.closed) := by
  by_cases closed : r.session.stage = .closed
  · rw [close_of_closed env closed]
    exact ⟨[], (List.append_nil _).symm, .nil, .inl rfl⟩
  · obtain ⟨⟨events, done⟩, session⟩ := carriedOut_close env closed
    exact ⟨events, done.trace, done.quiet, .inr session⟩

end Session

end ProxyChain
