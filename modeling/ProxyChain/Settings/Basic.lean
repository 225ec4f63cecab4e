import ProxyChain.Path

/-!
# Settings

What compiling and rendering depend on besides the profiles.
-/

namespace ProxyChain

/-- Where the core gets its trust anchors from. -/
inductive TrustSource where
  | system
  | mozilla
  /-- The system's anchors and those of the user, in PEM. -/
  | systemAndUser (anchors : List String)
  deriving DecidableEq, Repr

/-- The settings. -/
structure Settings where
  /-- From 0, quiet, over error, warn, info and debug to 5, trace. -/
  logLevel : Int32 := 0
  uploadMbps : Int32 := 0
  downloadMbps : Int32 := 0
  trustSource : TrustSource := .system
  /-- The port of the local inbound. -/
  mixedPort : UInt16 := 2080
  /-- The first port handed out to helpers; zero leaves the choice to the system. -/
  helperPortBase : UInt16 := 0
  /-- Where files are kept for a while. -/
  cacheDir : Path
  /-- A socket by which helpers keep their connections out of a tunnel. -/
  protectPath : Option String := none
  deriving DecidableEq, Repr

namespace Settings

/-- The defaults, with the directory for cached files. -/
def defaults (cacheDir : Path) : Settings := { cacheDir }

/-- The core's name of the log level; none when it is quiet. -/
def logLevelName? (s : Settings) : Option String :=
  if s.logLevel ≤ 0 then none
  else if s.logLevel = 1 then some "error"
  else if s.logLevel = 2 then some "warn"
  else if s.logLevel = 3 then some "info"
  else if s.logLevel = 4 then some "debug"
  else some "trace"

/-- Whether anything is logged. -/
def verbose (s : Settings) : Bool := 0 < s.logLevel

end Settings

end ProxyChain
