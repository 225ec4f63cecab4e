import ProxyChain.Helper.Basic
import ProxyChain.Settings.Basic

/-!
# Helper commands

How a helper is started on a configuration file. The words of a command are texts, so that the paths
in it are as they are shown.
-/

namespace ProxyChain.Helper

/-- A command: its words and the environment variables it adds. -/
structure Command where
  words : List String
  environment : List (String × String)
  deriving DecidableEq, Repr

/-- The words that start a Hysteria helper of the first generation. -/
def firstWords (program config : String) (s : Settings) : List String :=
  [program, "--no-check", "--config", config, "--log-level", if s.verbose then "trace" else "warn",
   "client"]

/-- The words that start one of the second generation. -/
def secondWords (program config : String) (s : Settings) : List String :=
  [program, "client", "--config", config, "--log-level", if s.verbose then "warn" else "error"]

/-- Whether the helper is started as a privileged user, who may open raw sockets. -/
def privileged (h : Hysteria) : Bool := h.protocolVersion == 2 && h.transport == .fakeTcp

/-- The words that start a Hysteria helper. -/
def hysteriaWords (h : Hysteria) (program config : String) (s : Settings) : List String :=
  (if privileged h then ["su", "-c"] else []) ++
    if h.isFirstGeneration then firstWords program config s else secondWords program config s

/-- The command that runs the profile's helper, if it has one, on a configuration file. -/
def command (p : Profile) (program config : Path) (s : Settings) : Option Command :=
  match p.variant with
  | .hysteria h =>
    some { words := hysteriaWords h program.display config.display s
           environment := [("HYSTERIA_DISABLE_UPDATE_CHECK", "1")] }
  | .naive _ => some { words := [program.display, config.display], environment := [] }
  | .trojan _ | .direct | .config _ => none

end ProxyChain.Helper
