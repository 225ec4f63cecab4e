import ProxyChain.Session.Run
import Mathlib.Tactic.Common

/-!
# What actions do

`Does x r post` says of an action and the run it starts from that the calls it makes are added to the
trace and that `post` holds of its result, of the events of these calls and of the run they leave. There
is one rule for each way of building an action, in each case what has to be shown of the parts.
`Always R x` is the special case of a relation between runs that holds whatever the result, such as
that some part of the session is left alone; where the relation composes, so do the actions.
`Keeps Inv x` is that of an invariant, which may speak of the world as well.
-/

namespace ProxyChain

variable {ω α β : Type}

namespace SessionM

/-- How an action ends. -/
def result (x : SessionM ω α) (r : Run ω) : Except SessionError α :=
  match x r with
  | .ok a _ => .ok a
  | .error e _ => .error e

/-- The run that an action leaves. -/
def leaves (x : SessionM ω α) (r : Run ω) : Run ω :=
  match x r with
  | .ok _ r' => r'
  | .error _ r' => r'

/-- What an action does from a run on. -/
def Does (x : SessionM ω α) (r : Run ω)
    (post : Except SessionError α → List Event → Run ω → Prop) : Prop :=
  ∃ events, (leaves x r).trace = r.trace ++ events ∧ post (result x r) events (leaves x r)

/-- A phase that is not open to the stage fails before anything that would follow. -/
lemma enter_bind_of_ne {phase : Phase} {r : Run ω} (other : r.session.stage ≠ phase.before)
    (next : Unit → SessionM ω α) :
    (enter phase >>= next) r = .error (.wrongStage phase r.session.stage) r := by
  have refused : enter phase r = .error (.wrongStage phase r.session.stage) r := by
    change (if r.session.stage ≠ phase.before then _ else _ : SessionM ω Unit) r = _
    rw [if_pos other]
    rfl
  change EStateM.bind _ _ r = _
  rw [EStateM.bind, refused]

section

variable {x : SessionM ω α} {r : Run ω}

/-- Of two actions one after the other a failure of the first is that of both, and what it answers goes
to the second. -/
lemma bind_cases {f : α → SessionM ω β} (post : Except SessionError β → Run ω → Prop)
    (failed : ∀ e, result x r = .error e → post (.error e) (leaves x r))
    (answered : ∀ a, result x r = .ok a → post (result (f a) (leaves x r)) (leaves (f a) (leaves x r))) :
    post (result (x >>= f) r) (leaves (x >>= f) r) := by
  have both : (x >>= f) r = EStateM.bind x f r := rfl
  unfold result leaves at *
  rw [both, EStateM.bind]
  cases step : x r with
  | error e r' =>
    rw [step] at failed
    exact failed e rfl
  | ok a r' =>
    rw [step] at answered
    exact answered a rfl

/-- A call ends as it does in its surroundings. -/
lemma call_cases {env : Environment ω} {c : Call} (post : Except SessionError c.Reply → Run ω → Prop)
    (failed : ∀ fault, (r.perform env c).1 = .error fault →
      post (.error (.failed c fault)) (r.perform env c).2)
    (answered : ∀ reply, (r.perform env c).1 = .ok reply → post (.ok reply) (r.perform env c).2) :
    post (result (call env c) r) (leaves (call env c) r) := by
  unfold result leaves call
  cases step : r.perform env c with
  | mk outcome r' =>
    rw [step] at failed answered
    cases outcome with
    | error fault => exact failed fault rfl
    | ok reply => exact answered reply rfl

/-- So does one that is followed by something else, which is skipped if the call fails. -/
lemma call_bind_cases {env : Environment ω} {c : Call} {f : c.Reply → SessionM ω β}
    (post : Except SessionError β → Run ω → Prop)
    (failed : ∀ fault, (r.perform env c).1 = .error fault →
      post (.error (.failed c fault)) (r.perform env c).2)
    (answered : ∀ reply, (r.perform env c).1 = .ok reply →
      post (result (f reply) (r.perform env c).2) (leaves (f reply) (r.perform env c).2)) :
    post (result (call env c >>= f) r) (leaves (call env c >>= f) r) := by
  refine bind_cases post ?_ ?_
  · refine call_cases (fun outcome r' => ∀ e, outcome = .error e → post (.error e) r') ?_ ?_
    · intro fault fails e same
      rw [← Except.error.inj same]
      exact failed fault fails
    · intro reply _ e same
      cases same
  · refine call_cases (fun outcome r' => ∀ a, outcome = .ok a →
      post (result (f a) r') (leaves (f a) r')) ?_ ?_
    · intro fault _ a same
      cases same
    · intro reply answers a same
      rw [← Except.ok.inj same]
      exact answered reply answers

end

namespace Does

variable {x : SessionM ω α} {f : α → SessionM ω β} {r : Run ω} {env : Environment ω}

/-- What is known of an action may be weakened. -/
lemma mono {post post' : Except SessionError α → List Event → Run ω → Prop} (d : Does x r post)
    (weaker : ∀ result events r', post result events r' → post' result events r') :
    Does x r post' := by
  obtain ⟨events, trace, holds⟩ := d
  exact ⟨events, trace, weaker _ _ _ holds⟩

/-- The events are what is added to the trace. -/
lemma traced {post : Except SessionError α → List Event → Run ω → Prop} (d : Does x r post) :
    Does x r fun result events r' => r'.trace = r.trace ++ events ∧ post result events r' := by
  obtain ⟨events, trace, holds⟩ := d
  exact ⟨events, trace, trace, holds⟩

/-- A value is returned, and nothing happens. -/
lemma pure {post : Except SessionError α → List Event → Run ω → Prop} {a : α}
    (holds : post (.ok a) [] r) : Does (Pure.pure a) r post :=
  ⟨[], (List.append_nil _).symm, holds⟩

/-- An error is raised, and nothing happens. -/
lemma throw {post : Except SessionError α → List Event → Run ω → Prop} {e : SessionError}
    (holds : post (.error e) [] r) : Does (MonadExcept.throw e) r post :=
  ⟨[], (List.append_nil _).symm, holds⟩

/-- Two actions one after the other; a failure of the first skips the second. -/
lemma bind {post : Except SessionError β → List Event → Run ω → Prop}
    (d : Does x r fun result events r' =>
      match result with
      | .ok a => Does (f a) r' fun result' events' r'' => post result' (events ++ events') r''
      | .error e => post (.error e) events r') : Does (x >>= f) r post := by
  obtain ⟨events, trace, holds⟩ := d
  -- Both parts add to the trace only if the first one answers.
  refine bind_cases (fun result r' => ∃ events, r'.trace = r.trace ++ events ∧ post result events r')
    (fun e failed => ?_) fun a answered => ?_
  · rw [failed] at holds
    exact ⟨events, trace, holds⟩
  · rw [answered] at holds
    obtain ⟨events', trace', holds'⟩ := holds
    rw [trace, List.append_assoc] at trace'
    exact ⟨events ++ events', trace', holds'⟩

/-- A call is one event, and its failure is that of the action. The environment leaves its world. -/
lemma call_step {c : Call} {post : Except SessionError c.Reply → List Event → Run ω → Prop}
    (answered : ∀ reply world, env.perform c r.world = (.ok reply, world) →
      post (.ok reply) [⟨c, .ok reply⟩] { r with world, trace := r.trace ++ [⟨c, .ok reply⟩] })
    (failed : ∀ fault world, env.perform c r.world = (.error fault, world) →
      post (.error (.failed c fault)) [⟨c, .error fault⟩]
        { r with world, trace := r.trace ++ [⟨c, .error fault⟩] }) :
    Does (SessionM.call env c) r post := by
  unfold Does result leaves SessionM.call Run.perform
  cases step : env.perform c r.world with
  | mk outcome world =>
    cases outcome with
    | ok reply => exact ⟨[⟨c, .ok reply⟩], rfl, answered reply world step⟩
    | error fault => exact ⟨[⟨c, .error fault⟩], rfl, failed fault world step⟩

/-- Whether it answers does not matter to an invariant. -/
lemma call_perform {c : Call} {Inv : Run ω → Prop} (holds : Inv (r.perform env c).2) :
    Does (SessionM.call env c) r fun _ _ r' => Inv r' := by
  refine call_step (fun reply world step => ?_) fun fault world step => ?_
  · rw [Run.perform, step] at holds
    exact holds
  · rw [Run.perform, step] at holds
    exact holds

/-- Where the environment does not matter, neither does the world. -/
lemma call {c : Call} {post : Except SessionError c.Reply → List Event → Run ω → Prop}
    (answered : ∀ reply world, post (.ok reply) [⟨c, .ok reply⟩]
      { r with world, trace := r.trace ++ [⟨c, .ok reply⟩] })
    (failed : ∀ fault world, post (.error (.failed c fault)) [⟨c, .error fault⟩]
      { r with world, trace := r.trace ++ [⟨c, .error fault⟩] }) :
    Does (SessionM.call env c) r post :=
  call_step (fun reply world _ => answered reply world) fun fault world _ => failed fault world

/-- The session is looked at. -/
lemma session {post : Except SessionError Session → List Event → Run ω → Prop}
    (holds : post (.ok r.session) [] r) : Does SessionM.session r post :=
  ⟨[], (List.append_nil _).symm, holds⟩

/-- The session is changed, and nothing else. -/
lemma update {g : Session → Session} {post : Except SessionError Unit → List Event → Run ω → Prop}
    (holds : post (.ok ()) [] { r with session := g r.session }) : Does (SessionM.update g) r post :=
  ⟨[], (List.append_nil _).symm, holds⟩

/-- The run is looked at. -/
lemma get {post : Except SessionError (Run ω) → List Event → Run ω → Prop}
    (holds : post (.ok r) [] r) : Does MonadState.get r post :=
  ⟨[], (List.append_nil _).symm, holds⟩

/-- The next name is drawn from the world. -/
lemma freshName_step {post : Except SessionError String → List Event → Run ω → Prop}
    (holds : post (.ok (env.freshName r.world).1) []
      { r with world := (env.freshName r.world).2 }) : Does (SessionM.freshName env) r post :=
  ⟨[], (List.append_nil _).symm, holds⟩

/-- Some name is drawn, and the world moves on. -/
lemma freshName {post : Except SessionError String → List Event → Run ω → Prop}
    (holds : ∀ name world, post (.ok name) [] { r with world }) :
    Does (SessionM.freshName env) r post :=
  freshName_step (holds _ _)

/-- What an earlier phase left behind is there, or the action fails. -/
lemma require {part : Missing} {found : Option α}
    {post : Except SessionError α → List Event → Run ω → Prop}
    (there : ∀ a, found = some a → post (.ok a) [] r)
    (missing : found = none → post (.error (.missing part)) [] r) :
    Does (SessionM.require part found) r post := by
  cases found with
  | some a => exact pure (there a rfl)
  | none => exact throw (missing rfl)

/-- The session is at the stage that a phase is open to, or the action fails. -/
lemma enter {phase : Phase} {post : Except SessionError Unit → List Event → Run ω → Prop}
    (opened : r.session.stage = phase.before → post (.ok ()) [] r)
    (closed : r.session.stage ≠ phase.before →
      post (.error (.wrongStage phase r.session.stage)) [] r) :
    Does (SessionM.enter phase) r post := by
  unfold SessionM.enter
  refine bind (session ?_)
  by_cases stage : r.session.stage = phase.before
  · simp only [stage, ne_eq, not_true_eq_false, if_false]
    exact pure (opened stage)
  · simp only [ne_eq, stage, not_false_eq_true, if_true]
    exact throw (closed stage)

/-- A file is recorded and then written, by one call. -/
lemma writeFile {path : Path} {contents : String}
    {post : Except SessionError Unit → List Event → Run ω → Prop}
    (holds : ∀ result outcome r', r'.session =
        { r.session with cacheFiles := r.session.cacheFiles ++ [path] } →
      post result [⟨.writeFile path contents, outcome⟩] r') :
    Does (SessionM.writeFile env path contents) r post :=
  .bind (update (call (fun reply _ => holds (.ok reply) (.ok reply) _ rfl)
    fun fault _ => holds (.error _) (.error fault) _ rfl))

end Does

/-- A relation between runs that composes and that does not look at the world. -/
class Composes (R : Run ω → List Event → Run ω → Prop) : Prop where
  /-- It holds of what makes no call and leaves the session alone. -/
  idle : ∀ (r : Run ω) (world : ω), R r [] { r with world }
  /-- It holds of two things one after the other. -/
  trans : ∀ {r r' r'' : Run ω} {events events' : List Event},
    R r events r' → R r' events' r'' → R r (events ++ events') r''

/-- The relation holds whatever the result. -/
def Always (R : Run ω → List Event → Run ω → Prop) (x : SessionM ω α) : Prop :=
  ∀ r, Does x r fun _ events r' => R r events r'

namespace Always

variable {R : Run ω → List Event → Run ω → Prop} {x : SessionM ω α} {f : α → SessionM ω β}
  {env : Environment ω}

/-- What always holds may be weakened. -/
lemma mono {R' : Run ω → List Event → Run ω → Prop} (always : Always R x)
    (weaker : ∀ r events r', R r events r' → R' r events r') : Always R' x :=
  fun r => (always r).mono fun _ events r' holds => weaker r events r' holds

/-- A relation that composes holds of a value, as nothing happens. -/
lemma pure [Composes R] (a : α) : Always R (Pure.pure a) :=
  fun r => .pure (Composes.idle r r.world)

/-- It holds of two steps if it holds of each. -/
lemma bind [Composes R] (first : Always R x) (second : ∀ a, Always R (f a)) :
    Always R (x >>= f) := by
  intro r
  refine .bind ((first r).mono fun result events r' holds => ?_)
  cases result with
  | ok a => exact (second a r').mono fun _ _ _ holds' => Composes.trans holds holds'
  | error e => exact holds

/-- It holds of a loop if it holds of each round. -/
lemma forM [Composes R] {g : α → SessionM ω PUnit} {xs : List α}
    (each : ∀ a ∈ xs, Always R (g a)) : Always R (xs.forM g) := by
  induction xs with
  | nil => exact pure PUnit.unit
  | cons a xs ih =>
    exact bind (each a List.mem_cons_self) fun _ => ih fun b mem => each b (List.mem_cons_of_mem a mem)

/-- It holds of a look at the session. -/
lemma session [Composes R] : Always R SessionM.session :=
  fun r => .session (Composes.idle r r.world)

/-- It holds of a demand, met or not. -/
lemma require [Composes R] (part : Missing) (found : Option α) :
    Always R (SessionM.require part found) :=
  fun r => .require (fun _ _ => Composes.idle r r.world) fun _ => Composes.idle r r.world

/-- It holds of entering a phase, open or not. -/
lemma enter [Composes R] (phase : Phase) : Always R (SessionM.enter phase) :=
  fun r => .enter (fun _ => Composes.idle r r.world) fun _ => Composes.idle r r.world

/-- It holds of a call if it does for every outcome. -/
lemma call {c : Call} (holds : ∀ (r : Run ω) (outcome : Except String c.Reply) (world : ω),
    R r [⟨c, outcome⟩] { r with world, trace := r.trace ++ [⟨c, outcome⟩] }) :
    Always R (SessionM.call env c) :=
  fun r => .call (fun reply world => holds r (.ok reply) world)
    fun fault world => holds r (.error fault) world

/-- It holds of a change to the session if it does for every session. -/
lemma update {g : Session → Session}
    (holds : ∀ r : Run ω, R r [] { r with session := g r.session }) : Always R (SessionM.update g) :=
  fun r => .update (holds r)

end Always

/-- What holds before an action holds after it, whatever the result. -/
def Keeps (Inv : Run ω → Prop) (x : SessionM ω α) : Prop :=
  ∀ r, Inv r → Does x r fun _ _ r' => Inv r'

namespace Keeps

variable {Inv : Run ω → Prop} {x : SessionM ω α} {f : α → SessionM ω β} {env : Environment ω}

/-- The run that is left. -/
lemma leaves (kept : Keeps Inv x) {r : Run ω} (holds : Inv r) : Inv (SessionM.leaves x r) := by
  obtain ⟨_, -, after⟩ := kept r holds
  exact after

/-- A value keeps what holds. -/
lemma pure (a : α) : Keeps Inv (Pure.pure a) := fun _ holds => .pure holds

/-- What two steps keep is kept by both in turn. -/
lemma bind (first : Keeps Inv x) (second : ∀ a, Keeps Inv (f a)) : Keeps Inv (x >>= f) := by
  intro r holds
  refine .bind ((first r holds).mono fun result events r' after => ?_)
  cases result with
  | ok a => exact second a r' after
  | error e => exact after

/-- What every round keeps is kept by a loop. -/
lemma forM {g : α → SessionM ω PUnit} {xs : List α} (each : ∀ a ∈ xs, Keeps Inv (g a)) :
    Keeps Inv (xs.forM g) := by
  induction xs with
  | nil => exact pure PUnit.unit
  | cons a xs ih =>
    exact bind (each a List.mem_cons_self) fun _ => ih fun b mem => each b (List.mem_cons_of_mem a mem)

/-- A call keeps what holds if it does however the call ends. -/
lemma call {c : Call} (holds : ∀ r, Inv r → Inv (r.perform env c).2) :
    Keeps Inv (SessionM.call env c) :=
  fun r before => .call_perform (holds r before)

/-- A look at the session keeps what holds. -/
lemma session : Keeps Inv SessionM.session := fun _ holds => .session holds

/-- A demand keeps what holds, met or not. -/
lemma require (part : Missing) (found : Option α) : Keeps Inv (SessionM.require part found) :=
  fun _ holds => .require (fun _ _ => holds) fun _ => holds

/-- Entering a phase keeps what holds, open or not. -/
lemma enter (phase : Phase) : Keeps Inv (SessionM.enter phase) :=
  fun _ holds => .enter (fun _ => holds) fun _ => holds

end Keeps

end SessionM

end ProxyChain
