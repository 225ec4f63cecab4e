import ProxyChain.Chain.Port
import ProxyChain.Helper.Command
import ProxyChain.Text.Quoted

/-!
# Calls

What a session asks of its surroundings: files, helper processes, the core, and instances that others
run. A call either answers or fails with a text. An environment answers calls; nothing is known about
how it does so, and any call may fail at any time.
-/

namespace ProxyChain

/-- How the core captures traffic. -/
inductive CaptureMode where
  /-- It takes all traffic of the device. -/
  | exclusive
  /-- It takes what is sent to its own inbounds. -/
  | direct
  deriving DecidableEq, Repr

/-- An instance that others run and that serves a port in place of a helper. -/
structure External where
  port : UInt16
  /-- Tells apart instances that serve the same port one after the other. -/
  handle : Nat
  deriving DecidableEq, Repr

/-- A call. -/
inductive Call where
  /-- Finds the program of a helper. -/
  | resolveHelper (helper : Helper)
  /-- Creates a directory and those above it, as far as they are missing. -/
  | createDirectory (path : Path)
  | writeFile (path : Path) (contents : String)
  | deleteFile (path : Path)
  | loadCore (config : String) (mode : CaptureMode)
  | startCore
  | closeCore
  | startHelper (command : Helper.Command)
  /-- Stops every helper that was started. -/
  | closeHelpers
  | launchExternal (external : External)
  | closeExternal (external : External)
  /-- Tells the core which trust anchors to use. -/
  | updateTrust (source : TrustSource)
  /-- Measures how long a request through the core takes. -/
  | testLink (link : String) (timeoutMs : Nat)
  deriving DecidableEq, Repr

namespace Call

/-- What a call answers: the path of a program, a time in milliseconds, or just that it is done. -/
@[reducible] def Reply : Call → Type
  | resolveHelper _ => Path
  | testLink .. => Nat
  | createDirectory _ | writeFile .. | deleteFile _ | loadCore .. | startCore | closeCore
  | startHelper _ | closeHelpers | launchExternal _ | closeExternal _ | updateTrust _ => Unit

/-- What a call is for, where its failure does not say so itself. -/
def purpose? : Call → Option String
  | resolveHelper helper => some s!"resolving helper {helper.name}"
  | createDirectory path => some s!"creating {Text.quotedPath path}"
  | writeFile path _ => some s!"writing {Text.quotedPath path}"
  | loadCore .. => some "loading core"
  | startCore => some "starting core"
  | deleteFile _ | closeCore | startHelper _ | closeHelpers | launchExternal _ | closeExternal _
  | updateTrust _ | testLink .. => none

end Call

/-- A call that was made, and how it ended. -/
structure Event where
  call : Call
  outcome : Except String call.Reply

/-- Whether the call answered. -/
def Event.succeeded (e : Event) : Bool := e.outcome.isOk

/-- The surroundings of a session, with a state of their own. -/
structure Environment (ω : Type) where
  perform : (c : Call) → ω → Except String c.Reply × ω
  /-- How the system picks free ports. -/
  systemPorts : ω → SystemPorts
  /-- Draws a name for a file. -/
  freshName : ω → String × ω
  /-- How many helpers were asked to start. -/
  helperCount : ω → Nat
  /-- Lets some milliseconds pass. -/
  wait : Nat → ω → ω
  /-- The time in milliseconds. -/
  now : ω → Nat

end ProxyChain
