import ProxyChain.Chain.Compile
import ProxyChain.Session.Call

/-!
# Sessions

A session runs one chain. It compiles the chain, prepares the helpers and loads the core, starts the
helpers and then the core, and closes. Each phase is open to one stage and leads to the next; a phase
that fails leaves the stage as it was.
-/

namespace ProxyChain

/-- How far a session has come. -/
inductive Stage where
  | unconfigured
  | configured
  | loaded
  | running
  | closed
  deriving DecidableEq, Repr

/-- The name of a stage. -/
def Stage.name : Stage → String
  | unconfigured => "unconfigured"
  | configured => "configured"
  | loaded => "loaded"
  | running => "running"
  | closed => "closed"

/-- A phase of a session. -/
inductive Phase where
  | build
  | prepare
  | start
  deriving DecidableEq, Repr

namespace Phase

/-- The name of a phase. -/
def name : Phase → String
  | build => "build config"
  | prepare => "prepare"
  | start => "start"

/-- The stage that a phase is open to. -/
def before : Phase → Stage
  | build => .unconfigured
  | prepare => .configured
  | start => .loaded

/-- The stage that a phase leads to. -/
def after : Phase → Stage
  | build => .configured
  | prepare => .loaded
  | start => .running

end Phase

/-- What becomes of the process when the core refuses to close and may still hold its ports. -/
structure ShutdownPolicy where
  /-- The primary process stays; a secondary one ends itself. -/
  isPrimary : Bool := false
  /-- How long after the failure it ends, in milliseconds. -/
  delayMs : Nat := 500
  deriving DecidableEq, Repr

/-- A session. -/
structure Session where
  chain : List Record
  settings : Settings
  policy : ShutdownPolicy := {}
  /-- Whether the chain is compiled without the local inbound. -/
  forTest : Bool := false
  stage : Stage := .unconfigured
  compiled : Option Compiled := none
  /-- The paths of the helper programs that were found. -/
  programs : Table Helper Path := []
  /-- The configurations of the helpers, by the port each listens on. -/
  helperConfigs : Table UInt16 String := []
  /-- The attached instances, in the order of their ports. -/
  externals : List External := []
  /-- The files that were written or that a write was tried on. -/
  cacheFiles : List Path := []
  coreLoaded : Bool := false
  deriving Repr

namespace Session

/-- Puts an instance into its place; one that served its port before is forgotten. -/
def insertExternal (e : External) : List External → List External
  | [] => [e]
  | x :: xs =>
    if e.port = x.port then e :: xs
    else if e.port < x.port then e :: x :: xs
    else x :: insertExternal e xs

/-- Hands the port of an instance to it. -/
def attach (s : Session) (e : External) : Session :=
  { s with externals := insertExternal e s.externals }

/-- The instance that serves a port. -/
def external? (s : Session) (port : UInt16) : Option External :=
  s.externals.find? fun e => e.port == port

end Session

/-- Something that an earlier phase has to leave behind. -/
inductive Missing where
  | configuration
  | core
  /-- The program of a helper. -/
  | program (helper : Helper)
  /-- The configuration for the helper that listens on a port. -/
  | helperConfig (port : UInt16)
  deriving DecidableEq, Repr

/-- What is missing, in words. -/
def Missing.message : Missing → String
  | configuration => "configuration missing"
  | core => "core not loaded"
  | program helper => s!"helper {helper.name} was not resolved"
  | helperConfig port => s!"no helper configuration for port {Text.showNat port.toNat}"

/-- Why a phase fails. -/
inductive SessionError where
  /-- The phase is not open to the stage. -/
  | wrongStage (phase : Phase) (stage : Stage)
  /-- The chain cannot be compiled. -/
  | chain (error : ChainError)
  | missing (part : Missing)
  /-- A call failed. -/
  | failed (call : Call) (fault : String)
  deriving DecidableEq, Repr

/-- What went wrong, in words. -/
def SessionError.message : SessionError → String
  | wrongStage phase stage => s!"cannot {phase.name} while instance is {stage.name}"
  | chain e => e.message
  | missing part => part.message
  | failed call fault =>
    match call.purpose? with
    | some purpose => s!"{purpose}: {fault}"
    | none => fault

end ProxyChain
