import ProxyChain.Helper.Render
import ProxyChain.Session.Run

/-!
# Phases

Building compiles the chain. Preparing finds the program of every helper, renders its configuration,
writes the files it names, and loads the core. Starting hands the port of every hop with a helper to
the instance attached to it or else to a helper process, and then starts the core.
-/

namespace ProxyChain

open SessionM

variable {ω : Type}

namespace Session

/-- Compiles the chain. -/
def build (env : Environment ω) : SessionM ω Compiled := do
  enter .build
  let r ← get
  match compile (env.systemPorts r.world) r.session.chain r.session.settings r.session.forTest with
  | .error e => throw (.chain e)
  | .ok compiled =>
    update fun s => { s with compiled := some compiled, stage := Phase.build.after }
    return compiled

/-- Finds the program of a helper, unless it was found before. -/
def resolveHelper (env : Environment ω) (helper : Helper) : SessionM ω Unit := do
  if ((← session).programs.get? helper).isNone then
    let path ← call env (.resolveHelper helper)
    update fun s => { s with programs := s.programs.set helper path }

/-- Writes a file that a helper's configuration names. -/
def writeAuxFile (env : Environment ω) (file : Helper.AuxFile) : SessionM ω Unit := do
  match Path.parent? file.path with
  | some dir => call env (.createDirectory dir)
  | none => pure ()
  writeFile env file.path file.contents

/-- Renders what a helper needs to run a profile. -/
def renderHelper (env : Environment ω) (underTunnel : Bool) (p : Profile) (ports : Helper.Ports) :
    SessionM ω Unit := do
  let name ← freshName env
  match Helper.render p ports underTunnel (← session).settings name with
  | some rendered =>
    rendered.files.forM (writeAuxFile env)
    update fun s => { s with helperConfigs := s.helperConfigs.set ports.listen rendered.config }
  | none => pure ()

/-- Prepares the helper of a hop. -/
def prepareEntry (env : Environment ω) (underTunnel : Bool) (chain : ExternalChain)
    (entry : UInt16 × Record) : SessionM ω Unit :=
  if entry.2.profile.needsHelper then
    match Helper.of? entry.2.profile with
    | some helper => do
      resolveHelper env helper
      renderHelper env underTunnel entry.2.profile (chain.ports entry.1)
    | none => pure ()
  else pure ()

/-- How the core of a session captures traffic. A test never takes over the device. -/
def captureMode (s : Session) (underTunnel : Bool) : CaptureMode :=
  if underTunnel && !s.forTest then .exclusive else .direct

/-- Prepares the helpers and loads the core. -/
def prepare (env : Environment ω) (underTunnel : Bool) : SessionM ω Unit := do
  enter .prepare
  let compiled ← require .configuration (← session).compiled
  compiled.external.forM fun chain => chain.entries.forM (prepareEntry env underTunnel chain)
  call env (.loadCore compiled.text ((← session).captureMode underTunnel))
  update fun s => { s with coreLoaded := true, stage := Phase.prepare.after }

/-- The directory of the helpers' configuration files. -/
def configDirectory (s : Session) : Path := Path.join s.settings.cacheDir "tmpcfg"

/-- The path of a helper's configuration file. `name` tells it from all others. -/
def configPath (s : Session) (p : Profile) (name : String) : Path :=
  Path.join s.configDirectory s!"{p.kind.name}_{name}.json"

/-- Starts the helper of a hop on its port. -/
def startHelper (env : Environment ω) (helper : Helper) (port : UInt16) (p : Profile) :
    SessionM ω Unit := do
  let s ← session
  let program ← require (.program helper) (s.programs.get? helper)
  let config ← require (.helperConfig port) (s.helperConfigs.get? port)
  let path := s.configPath p (← freshName env)
  writeFile env path config
  match Helper.command p program path s.settings with
  | some command => call env (.startHelper command)
  | none => pure ()

/-- Has the port of a hop served, by the instance attached to it if there is one. -/
def startEntry (env : Environment ω) (entry : UInt16 × Record) : SessionM ω Unit := do
  match (← session).external? entry.1 with
  | some external => call env (.launchExternal external)
  | none =>
    if entry.2.profile.needsHelper then
      match Helper.of? entry.2.profile with
      | some helper => startHelper env helper entry.1 entry.2.profile
      | none => pure ()

/-- Starts the helpers and then the core. -/
def start (env : Environment ω) : SessionM ω Unit := do
  enter .start
  let s ← session
  let compiled ← require .configuration s.compiled
  call env (.createDirectory s.configDirectory)
  compiled.external.forM fun chain => chain.entries.forM (startEntry env)
  require .core (if s.coreLoaded then some () else none)
  call env .startCore
  update fun s => { s with stage := Phase.start.after }

end Session

end ProxyChain
