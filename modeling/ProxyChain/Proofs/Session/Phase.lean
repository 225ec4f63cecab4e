import ProxyChain.Proofs.Session.Frame

/-!
# Passing through a phase

A phase goes from the stage that it is open to to the next one if it succeeds, and otherwise leaves the
stage as it was. Either way it records the files that it writes, keeps the attached instances and loads
a core if and only if the session then holds one (`Passes`).
-/

namespace ProxyChain

open SessionM

variable {ω α : Type} {env : Environment ω} {r r' : Run ω} {phase : Phase} {events : List Event}

/-- Whether a core was loaded. -/
def Event.loadsCore (e : Event) : Bool :=
  match e.call with
  | .loadCore .. => e.succeeded
  | _ => false

namespace Session

/-- What passing through a phase does to a session. -/
structure Passes (phase : Phase) (r : Run ω) (result : Except SessionError α) (events : List Event)
    (r' : Run ω) : Prop where
  entered : result.isOk = true → r.session.stage = phase.before
  stage : r'.session.stage = if result.isOk then phase.after else r.session.stage
  externals : r'.session.externals = r.session.externals
  files : r'.session.cacheFiles = r.session.cacheFiles ++ written events
  core : r'.session.coreLoaded = (r.session.coreLoaded || events.any Event.loadsCore)
  made : ∀ path ∈ written events, ∃ name, MadeFrom r.session.settings name path

/-- A phase that fails without having done anything. -/
lemma Passes.idle (phase : Phase) (r : Run ω) (e : SessionError) :
    Passes phase r (.error e : Except SessionError α) [] r :=
  ⟨nofun, rfl, rfl, (List.append_nil _).symm, (Bool.or_false _).symm, List.forall_mem_nil _⟩

namespace Works

/-- Work on helpers loads no core. -/
lemma any_loadsCore (h : Works r events r') : events.any Event.loadsCore = false := by
  rw [List.any_eq_false]
  intro e mem
  have work := h.calls e mem
  unfold Event.loadsCore
  cases call : e.call <;> simp [call, Call.isWork] at work ⊢

/-- A phase that fails has done no more than work on helpers. -/
lemma passes_error (h : Works r events r') (phase : Phase) (e : SessionError) :
    Passes phase r (.error e : Except SessionError α) events r' := by
  refine ⟨nofun, h.stage, h.externals, h.cacheFiles, ?_, h.made⟩
  rw [h.any_loadsCore, Bool.or_false]
  exact h.coreLoaded

/-- After its work on helpers a phase makes one more call, which writes no file. If that fails the phase
fails, and has done no more than the work. -/
lemma passes_failed (h : Works r events r') (phase : Phase) (e : SessionError) {c : Call}
    (silent : c.written? = none) (fault : String) (world : ω) (trace : List Event) :
    Passes phase r (.error e : Except SessionError α) (events ++ [⟨c, .error fault⟩])
      { r' with world, trace } := by
  have nothing : written [⟨c, .error fault⟩] = [] := List.filterMap_cons_none silent
  have none : ([⟨c, .error fault⟩] : List Event).any Event.loadsCore = false := by cases c <;> rfl
  refine ⟨nofun, h.stage, h.externals, ?_, ?_, ?_⟩
  · rw [written_append, nothing, List.append_nil]
    exact h.cacheFiles
  · rw [List.any_append, h.any_loadsCore, none, Bool.or_self, Bool.or_false]
    exact h.coreLoaded
  · rw [written_append, nothing, List.append_nil]
    exact h.made

/-- If that call answers, the phase is passed. -/
lemma passes_ok (h : Works r events r') (stage : r.session.stage = phase.before) (a : α) {e : Event}
    (silent : e.call.written? = none) (world : ω) (trace : List Event) :
    Passes phase r (.ok a) (events ++ [e])
      { r' with
        world, trace
        session := { r'.session with
          stage := phase.after, coreLoaded := r'.session.coreLoaded || e.loadsCore } } := by
  have nothing : written [e] = [] := List.filterMap_cons_none silent
  refine ⟨fun _ => stage, rfl, h.externals, ?_, ?_, ?_⟩
  · rw [written_append, nothing, List.append_nil]
    exact h.cacheFiles
  · rw [List.any_append, h.any_loadsCore, List.any_cons, List.any_nil, Bool.or_false, Bool.false_or,
      h.coreLoaded]
  · rw [written_append, nothing, List.append_nil]
    exact h.made

end Works

/-- Building passes through its phase. -/
lemma passes_build (env : Environment ω) (r : Run ω) : Does (build env) r (Passes .build r) := by
  refine ⟨[], ?_⟩
  rw [result, leaves]
  obtain ⟨e, failed⟩ | ⟨compiled, stage, -, built⟩ := build_cases env r
  · rw [failed]
    exact ⟨(List.append_nil _).symm, .idle _ r e⟩
  · rw [built]
    exact ⟨(List.append_nil _).symm, fun _ => stage, rfl, rfl, (List.append_nil _).symm,
      (Bool.or_false _).symm, List.forall_mem_nil _⟩

/-- How preparing and starting may end: in the midst of work on helpers, or with one more call behind it,
the last one of the phase, which fails or makes the phase succeed. -/
inductive Concludes (phase : Phase) (last : Call → Prop) (r : Run ω) :
    Except SessionError Unit → List Event → Run ω → Prop where
  | broken {e : SessionError} {events : List Event} {r' : Run ω} (works : Works r events r') :
      Concludes phase last r (.error e) events r'
  | failed {c : Call} {events : List Event} {r' : Run ω} (works : Works r events r') (is : last c)
      (fault : String) (world : ω) (trace : List Event) :
      Concludes phase last r (.error (.failed c fault)) (events ++ [⟨c, .error fault⟩])
        { r' with world, trace }
  | passed {c : Call} {events : List Event} {r' : Run ω} (opened : r.session.stage = phase.before)
      (works : Works r events r') (is : last c) (reply : c.Reply) (world : ω) (trace : List Event) :
      Concludes phase last r (.ok ()) (events ++ [⟨c, .ok reply⟩])
        { r' with
          world, trace
          session := { r'.session with
            stage := phase.after
            coreLoaded := r'.session.coreLoaded || Event.loadsCore ⟨c, .ok reply⟩ } }

/-- The last call of preparing: the core is loaded with what was compiled. -/
def LoadsCompiled (underTunnel : Bool) (s : Session) (c : Call) : Prop :=
  ∃ compiled, s.compiled = some compiled ∧ c = .loadCore compiled.text (s.captureMode underTunnel)

/-- The last call of starting: the core is started. -/
def StartsCore (c : Call) : Prop :=
  c = .startCore

/-- A phase whose last call writes no file is passed through. -/
lemma Concludes.passes {last : Call → Prop} {result : Except SessionError Unit}
    (h : Concludes phase last r result events r') (silent : ∀ c, last c → c.written? = none) :
    Passes phase r result events r' := by
  cases h with
  | broken works => exact works.passes_error phase _
  | failed works is fault world trace =>
    exact works.passes_failed phase _ (silent _ is) fault world trace
  | passed opened works is reply world trace =>
    exact works.passes_ok opened () (e := ⟨_, .ok reply⟩) (silent _ is) world trace

/-- It makes no other calls than that one and those of the work. -/
lemma Concludes.calls {last : Call → Prop} {result : Except SessionError Unit}
    (h : Concludes phase last r result events r') (e : Event) (mem : e ∈ events) :
    e.call.isWork = true ∨ last e.call := by
  cases h with
  | broken works => exact .inl (works.calls e mem)
  | failed works is =>
    refine (List.mem_append.1 mem).imp (works.calls e) fun own => ?_
    rw [List.mem_singleton.1 own]
    exact is
  | passed _ works is =>
    refine (List.mem_append.1 mem).imp (works.calls e) fun own => ?_
    rw [List.mem_singleton.1 own]
    exact is

/-- If the phase succeeds that call is the last one and has answered. -/
lemma Concludes.exists_last {last : Call → Prop} (h : Concludes phase last r (.ok ()) events r') :
    ∃ before c, ∃ reply : c.Reply, last c ∧ events = before ++ [⟨c, .ok reply⟩] ∧
      ∀ e ∈ before, e.call.isWork = true := by
  cases h with
  | passed _ works is reply => exact ⟨_, _, reply, is, rfl, works.calls⟩

/-- Work on helpers does not change how the core is to capture traffic. -/
lemma Works.captureMode_eq (h : Works r events r') (underTunnel : Bool) :
    r'.session.captureMode underTunnel = r.session.captureMode underTunnel := by
  obtain ⟨programs, configs, session⟩ := h.session
  rw [session]
  rfl

/-- Preparing is work on helpers and then the core being loaded. -/
lemma concludes_prepare (env : Environment ω) (underTunnel : Bool) (r : Run ω) :
    Does (prepare env underTunnel) r (Concludes .prepare (LoadsCompiled underTunnel r.session) r) := by
  have nothing : Works r [] r := Composes.idle r r.world
  refine .bind (.enter (fun stage => ?_) fun _ => .broken nothing)
  refine .bind (.session (.bind (.require (fun compiled found => ?_) fun _ => .broken nothing)))
  have work : Always Works (compiled.external.forM fun helpers =>
      helpers.entries.forM (prepareEntry env underTunnel helpers)) :=
    .forM fun helpers _ => .forM fun entry _ => works_prepareEntry underTunnel helpers entry
  refine .bind ((work r).mono fun result events r' h => ?_)
  cases result with
  | error e => exact .broken h
  | ok _ =>
    have is : LoadsCompiled underTunnel r.session
        (.loadCore compiled.text (r'.session.captureMode underTunnel)) :=
      ⟨compiled, found, by rw [h.captureMode_eq]⟩
    refine .bind (.session (.bind (.call (fun reply world => ?loaded) fun fault world => ?notLoaded)))
    case loaded =>
      have passed := Concludes.passed stage h is reply world
      rw [Event.loadsCore, Event.succeeded, Except.isOk, Except.toBool, Bool.or_true] at passed
      exact .update (passed _)
    case notLoaded => exact .failed h is fault world _

/-- Starting is work on helpers and then the core being started. -/
lemma concludes_start (env : Environment ω) (r : Run ω) :
    Does (start env) r (Concludes .start StartsCore r) := by
  have nothing : Works r [] r := Composes.idle r r.world
  refine .bind (.enter (fun stage => ?_) fun _ => .broken nothing)
  refine .bind (.session (.bind (.require (fun compiled found => ?_) fun _ => .broken nothing)))
  refine .bind ((works_call rfl rfl r).mono fun result events r' directory => ?_)
  cases result with
  | error e => exact .broken directory
  | ok _ =>
    have work : Always Works (compiled.external.forM fun helpers =>
        helpers.entries.forM (startEntry env)) :=
      .forM fun helpers _ => .forM fun entry _ => works_startEntry entry
    refine .bind ((work r').mono fun result events' r'' served => ?_)
    have h : Works r (events ++ events') r'' := Composes.trans directory served
    cases result with
    | error e => exact .broken h
    | ok _ =>
      refine .bind (.require (fun _ _ => ?_) fun _ => ?notThere)
      case notThere =>
        rw [List.append_nil]
        exact .broken h
      have is : StartsCore .startCore := rfl
      refine .bind (.call (fun reply world => ?started) fun fault world => ?notStarted)
      case started =>
        have passed := Concludes.passed stage h is reply world
        rw [Event.loadsCore, Bool.or_false, List.append_assoc] at passed
        exact .update (passed _)
      case notStarted =>
        change Concludes .start _ r _ (events ++ (events' ++ [⟨.startCore, .error fault⟩])) _
        rw [← List.append_assoc]
        exact .failed h is fault world _

/-- Preparing passes through its phase. -/
lemma passes_prepare (env : Environment ω) (underTunnel : Bool) (r : Run ω) :
    Does (prepare env underTunnel) r (Passes .prepare r) := by
  refine (concludes_prepare env underTunnel r).mono fun _ _ _ h => h.passes ?_
  rintro c ⟨compiled, -, rfl⟩
  rfl

/-- Starting passes through its phase. -/
lemma passes_start (env : Environment ω) (r : Run ω) :
    Does (start env) r (Passes .start r) := by
  refine (concludes_start env r).mono fun _ _ _ h => h.passes ?_
  rintro c rfl
  rfl

end Session

end ProxyChain
