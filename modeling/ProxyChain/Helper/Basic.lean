import ProxyChain.Path
import ProxyChain.Profile.Kind

/-!
# Helpers

Profiles that the core cannot run go to helper processes, one program for Naive and one for each
generation of Hysteria.
-/

namespace ProxyChain

/-- A helper program. -/
inductive Helper where
  | hysteria
  | hysteria2
  | naive
  deriving DecidableEq, Repr

/-- The address of this machine. -/
def localhost : String := "127.0.0.1"

/-- A port of this machine. -/
def localAddress (port : UInt16) : String := s!"{localhost}:{Text.showNat port.toNat}"

namespace Helper

/-- The name of a program. -/
def name : Helper → String
  | hysteria => "hysteria-plugin"
  | hysteria2 => "hysteria2-plugin"
  | naive => "naive-plugin"

/-- The program that runs profiles of this kind, whether the core can run them or not. -/
def of? (p : Profile) : Option Helper :=
  match p.variant with
  | .hysteria h => some (if h.isFirstGeneration then hysteria else hysteria2)
  | .naive _ => some naive
  | .trojan _ | .direct | .config _ => none

/-- The local ports of a helper: the one it listens on and, when it stands behind other hops, the relay
that it dials instead of its server. -/
structure Ports where
  listen : UInt16
  relay : Option UInt16 := none
  deriving DecidableEq, Repr

/-- A file that a helper needs besides its configuration. -/
structure AuxFile where
  path : Path
  contents : String
  deriving DecidableEq, Repr

/-- What a helper needs to run a profile. -/
structure Rendered where
  helper : Helper
  config : String
  files : List AuxFile
  deriving DecidableEq, Repr

end Helper

end ProxyChain
