import ProxyChain.Session.Basic

/-!
# Runs

A run is a session in its environment, with the calls made so far. An action changes it; when one fails
the run stays where the failure left it.
-/

namespace ProxyChain

/-- A session in its environment. -/
structure Run (ω : Type) where
  session : Session
  world : ω
  /-- The calls made so far, oldest first. -/
  trace : List Event := []
  /-- The times at which the process is to end itself. -/
  terminations : List Nat := []

/-- An action on a run. -/
abbrev SessionM (ω : Type) := EStateM SessionError (Run ω)

variable {ω : Type}

namespace Run

/-- Makes a call and notes it down. -/
def perform (env : Environment ω) (c : Call) (r : Run ω) : Except String c.Reply × Run ω :=
  let (outcome, world) := env.perform c r.world
  (outcome, { r with world, trace := r.trace ++ [⟨c, outcome⟩] })

/-- Attaches an instance. -/
def attach (e : External) (r : Run ω) : Run ω := { r with session := r.session.attach e }

end Run

namespace SessionM

/-- A call that has to answer. -/
def call (env : Environment ω) (c : Call) : SessionM ω c.Reply := fun r =>
  match r.perform env c with
  | (.ok reply, r) => .ok reply r
  | (.error fault, r) => .error (.failed c fault) r

/-- The session. -/
def session : SessionM ω Session := fun r => .ok r.session r

/-- Changes the session. -/
def update (f : Session → Session) : SessionM ω Unit := fun r =>
  .ok () { r with session := f r.session }

/-- Draws a name for a file. -/
def freshName (env : Environment ω) : SessionM ω String := fun r =>
  let (name, world) := env.freshName r.world
  .ok name { r with world }

/-- What an earlier phase has left behind. -/
def require {α : Type} (part : Missing) : Option α → SessionM ω α
  | some a => pure a
  | none => throw (.missing part)

/-- Fails unless a phase is open. -/
def enter (phase : Phase) : SessionM ω Unit := do
  let s ← session
  if s.stage ≠ phase.before then throw (.wrongStage phase s.stage)

/-- Writes a file. It is recorded first, so that a partial one is deleted as well. -/
def writeFile (env : Environment ω) (path : Path) (contents : String) : SessionM ω Unit := do
  update fun s => { s with cacheFiles := s.cacheFiles ++ [path] }
  call env (.writeFile path contents)

end SessionM

end ProxyChain
