import ProxyChain.Proofs.Session.Phase
import ProxyChain.Proofs.Session.Reachable

/-!
# Later runs

`Leads env drifts r r'` says that operations lead from `r` to `r'`, where between them the world may
change as `drifts` allows. What the run of a new session leads to is reachable
(`Reachable.of_fresh`). An operation passes through a phase, closes, or attaches an instance
(`Operation.kinds`); it never passes through a phase that is not open to the stage
(`Operation.perform_of_ne`), so that nothing happens any more once a session is closed
(`Leads.of_closed`).
-/

namespace ProxyChain

open SessionM

variable {ω : Type} {env : Environment ω} {drifts : ω → ω → Prop}

/-- The run of a session that nothing was asked of yet. -/
def Run.fresh (chain : List Record) (settings : Settings) (policy : ShutdownPolicy) (forTest : Bool)
    (world : ω) : Run ω :=
  { session := { chain, settings, policy, forTest }, world }

/-- A new session over a helper with certificates. -/
def Run.certified (world : ω) : Run ω :=
  .fresh [{ uuid := "", profile := ⟨{}, .hysteria { transport := .fakeTcp, certificates := "c" }⟩ }]
    { cacheDir := "", helperPortBase := 41000 } {} false world

/-- The runs that operations lead to from a run on. -/
inductive Leads (env : Environment ω) (drifts : ω → ω → Prop) (r : Run ω) : Run ω → Prop where
  | now : Leads env drifts r r
  | perform (op : Operation) {r' : Run ω} (leads : Leads env drifts r r') :
      Leads env drifts r (op.perform env r')
  | drift {world : ω} {r' : Run ω} (leads : Leads env drifts r r') (drifted : drifts r'.world world) :
      Leads env drifts r { r' with world }

/-- What a reachable run leads to is reachable. -/
lemma Reachable.of_leads {r r' : Run ω} (reachable : Reachable env r)
    (leads : Leads env drifts r r') : Reachable env r' := by
  induction leads with
  | now => exact reachable
  | perform op _ ih => exact ih.perform op
  | drift _ _ ih => exact ih.drift _

/-- What a new session leads to is reachable. -/
lemma Reachable.of_fresh {chain : List Record} {settings : Settings} {policy : ShutdownPolicy}
    {forTest : Bool} {world : ω} {r : Run ω}
    (leads : Leads env drifts (.fresh chain settings policy forTest world) r) : Reachable env r :=
  .of_leads (.fresh chain settings policy forTest world) leads

namespace Operation

/-- The phase that an operation passes through. -/
def phase? : Operation → Option Phase
  | build => some .build
  | prepare _ => some .prepare
  | start => some .start
  | close | attach _ => none

/-- How an operation ends. Closing and attaching do not fail. -/
def outcome (env : Environment ω) : Operation → Run ω → Except SessionError Unit
  | build, r => (result (Session.build env) r).map fun _ => ()
  | prepare underTunnel, r => result (Session.prepare env underTunnel) r
  | start, r => result (Session.start env) r
  | close, _ | attach _, _ => .ok ()

/-- An operation passes through a phase, closes, or attaches an instance. -/
lemma kinds (op : Operation) :
    (∃ phase, op.phase? = some phase) ∨ op = .close ∨ ∃ external, op = .attach external := by
  cases op with
  | build => exact .inl ⟨_, rfl⟩
  | prepare underTunnel => exact .inl ⟨_, rfl⟩
  | start => exact .inl ⟨_, rfl⟩
  | close => exact .inr (.inl rfl)
  | attach external => exact .inr (.inr ⟨external, rfl⟩)

variable {op : Operation} {phase : Phase}

/-- What an operation does that passes through a phase. -/
lemma passes (is : op.phase? = some phase) (env : Environment ω) (r : Run ω) :
    ∃ events, (op.perform env r).trace = r.trace ++ events ∧
      Session.Passes phase r (op.outcome env r) events (op.perform env r) := by
  cases op with
  | build =>
    cases is
    obtain ⟨events, trace, h⟩ := Session.passes_build env r
    refine ⟨events, trace, ?_⟩
    rw [outcome]
    cases ends : result (Session.build env) r with
    | ok compiled =>
      rw [ends] at h
      exact ⟨h.entered, h.stage, h.externals, h.files, h.core, h.made⟩
    | error e =>
      rw [ends] at h
      exact ⟨h.entered, h.stage, h.externals, h.files, h.core, h.made⟩
  | prepare underTunnel =>
    cases is
    exact Session.passes_prepare env underTunnel r
  | start =>
    cases is
    exact Session.passes_start env r
  | close => cases is
  | attach external => cases is

/-- A phase that is not open to the stage fails, and nothing is done. -/
lemma perform_of_ne (is : op.phase? = some phase) {r : Run ω} (other : r.session.stage ≠ phase.before) :
    op.outcome env r = .error (.wrongStage phase r.session.stage) ∧ op.perform env r = r := by
  cases op with
  | build =>
    cases is
    rw [outcome, perform, result, leaves, Session.build, enter_bind_of_ne other]
    exact ⟨rfl, rfl⟩
  | prepare underTunnel =>
    cases is
    rw [outcome, perform, result, leaves, Session.prepare, enter_bind_of_ne other]
    exact ⟨rfl, rfl⟩
  | start =>
    cases is
    rw [outcome, perform, result, leaves, Session.start, enter_bind_of_ne other]
    exact ⟨rfl, rfl⟩
  | close => cases is
  | attach external => cases is

/-- Closing leads to the last stage, from which nothing leads away. -/
lemma stage_close (env : Environment ω) (r : Run ω) :
    (Operation.close.perform env r).session.stage = .closed := by
  by_cases closed : r.session.stage = .closed
  · rw [perform, Session.close_of_closed env closed]
    exact closed
  · rw [perform, (Session.carriedOut_close env closed).2]
    rfl

/-- At the last stage no operation makes a call, and none changes more than the attached instances. -/
lemma perform_of_closed (env : Environment ω) (op : Operation) {r : Run ω}
    (closed : r.session.stage = .closed) :
    op.perform env r = r ∨ ∃ external, op.perform env r = r.attach external := by
  obtain ⟨phase, is⟩ | rfl | ⟨external, rfl⟩ := op.kinds
  · have other : r.session.stage ≠ phase.before := by
      rw [closed]
      cases phase <;> simp [Phase.before]
    exact .inl (perform_of_ne is other).2
  · rw [perform, Session.close_of_closed env closed]
    exact .inl rfl
  · exact .inr ⟨external, rfl⟩

end Operation

/-- Nothing happens any more once a session is closed. -/
lemma Leads.of_closed {r r' : Run ω} (leads : Leads env drifts r r')
    (closed : r.session.stage = .closed) :
    r'.trace = r.trace ∧ r'.session.stage = .closed ∧ r'.session.cacheFiles = r.session.cacheFiles := by
  induction leads with
  | now => exact ⟨rfl, closed, rfl⟩
  | perform op _ ih =>
    obtain unchanged | ⟨external, attached⟩ := op.perform_of_closed env ih.2.1
    · rw [unchanged]
      exact ih
    · rw [attached]
      exact ih
  | drift _ _ ih => exact ih

end ProxyChain
