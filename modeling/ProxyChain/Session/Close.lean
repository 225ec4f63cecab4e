import ProxyChain.Session.Run

/-!
# Closing

A session is taken down in a fixed order: the attached instances, the files, the helpers, the core.
Every task is carried out whatever became of those before it, and the report names those that failed.
When the core fails to close, a process that is not the primary one ends itself some time later.
-/

namespace ProxyChain

variable {ω : Type}

/-- A task in taking down a session. -/
inductive TeardownTask where
  | external (external : External)
  | file (path : Path)
  | helpers
  | core
  deriving DecidableEq, Repr

namespace TeardownTask

/-- The call that carries out a task. -/
def call : TeardownTask → Call
  | external e => .closeExternal e
  | file path => .deleteFile path
  | helpers => .closeHelpers
  | core => .closeCore

/-- What is reported when a task fails. -/
def report (fault : String) : TeardownTask → String
  | external e => s!"port {Text.showNat e.port.toNat}: {fault}"
  | file path => s!"{Text.quotedPath path}: {fault}"
  | helpers | core => fault

end TeardownTask

/-- A task that failed. -/
structure TeardownFailure where
  task : TeardownTask
  fault : String
  deriving DecidableEq, Repr

/-- What went wrong, in words. -/
def TeardownFailure.message (f : TeardownFailure) : String := f.task.report f.fault

/-- What came of closing. -/
structure TeardownReport where
  failures : List TeardownFailure := []
  /-- The time at which the process is to end itself. -/
  termination : Option Nat := none
  deriving DecidableEq, Repr

namespace TeardownReport

/-- Whether every task was carried out. -/
def isClean (r : TeardownReport) : Bool := r.failures.isEmpty

/-- Whether the core failed to close. -/
def coreFailed (r : TeardownReport) : Bool := r.failures.any fun f => f.task == .core

end TeardownReport

/-- When a process under the policy ends itself, for a core that failed to close at the time
`now`. -/
def ShutdownPolicy.termination? (p : ShutdownPolicy) (now : Nat) : Option Nat :=
  if p.isPrimary then none else some (now + p.delayMs)

namespace Session

/-- What there is to take down. -/
def teardown (s : Session) : List TeardownTask :=
  s.externals.map .external ++ s.cacheFiles.map .file ++
    (if s.stage = .unconfigured then [] else [.helpers]) ++
    if s.coreLoaded then [.core] else []

/-- A session after it has been taken down. -/
def closed (s : Session) : Session :=
  { s with stage := .closed, externals := [], cacheFiles := [], coreLoaded := false }

/-- Carries out tasks and gives those that failed. -/
def carryOut (env : Environment ω) : List TeardownTask → Run ω → List TeardownFailure × Run ω
  | [], r => ([], r)
  | task :: tasks, r =>
    let (outcome, r) := r.perform env task.call
    let (failures, r) := carryOut env tasks r
    match outcome with
    | .ok _ => (failures, r)
    | .error fault => (⟨task, fault⟩ :: failures, r)

/-- Closes a session. One that is closed already stays as it is. -/
def close (env : Environment ω) (r : Run ω) : TeardownReport × Run ω :=
  if r.session.stage = .closed then ({}, r)
  else
    let (failures, r) := carryOut env r.session.teardown r
    let report : TeardownReport := { failures }
    let termination :=
      if report.coreFailed then r.session.policy.termination? (env.now r.world) else none
    ({ report with termination },
      { r with session := r.session.closed
               terminations := r.terminations ++ termination.toList })

end Session

end ProxyChain
