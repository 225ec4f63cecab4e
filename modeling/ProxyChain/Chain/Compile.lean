import ProxyChain.Chain.CoreConfig
import ProxyChain.Table

/-!
# Compiling chains

A chain of records, first hop first, becomes a configuration for the core, a map from outbounds to
the records whose traffic they carry, and an index of the helpers to run. A complete configuration
that is alone goes to the core as it is, once its text has been found to be JSON.
-/

namespace ProxyChain

/-- The helpers of a chain. -/
structure ExternalChain where
  /-- The port that each helper listens on, and the record it runs. -/
  entries : List (UInt16 × Record) := []
  /-- The port that a helper dials instead of its server, under the port it listens on. -/
  relays : Table UInt16 UInt16 := []
  deriving DecidableEq, Repr

namespace ExternalChain

/-- The helpers of planned hops. -/
def ofHops (hops : List Hop) : ExternalChain where
  entries := hops.filterMap fun h => h.ports?.map fun ports => (ports.listen, h.record)
  relays := (hops.filterMap Hop.ports?).foldl (fun relays ports =>
    match ports.relay with
    | some relay => Table.set relays ports.listen relay
    | none => relays) []

/-- Whether there are no helpers. -/
def isEmpty (c : ExternalChain) : Bool := c.entries.isEmpty

/-- What the helper that listens on a port dials instead of its server. -/
def relay? (c : ExternalChain) (listen : UInt16) : Option UInt16 := c.relays.get? listen

/-- The ports of the helper that listens on a port. -/
def ports (c : ExternalChain) (listen : UInt16) : Helper.Ports :=
  { listen, relay := c.relay? listen }

end ExternalChain

/-- What goes to the core. -/
inductive CoreDocument where
  /-- A text as it is. -/
  | verbatim (text : String)
  | generated (config : CoreConfig)
  deriving Repr

/-- A compiled chain. -/
structure Compiled where
  document : CoreDocument
  external : List ExternalChain
  deriving Repr

namespace Compiled

/-- The text for the core. -/
def text (c : Compiled) : String :=
  match c.document with
  | .verbatim text => text
  | .generated config => config.toJson.pretty

/-- The ids of the records whose traffic each outbound carries, by its tag. They are noted hop by
hop. -/
def trafficMap (c : Compiled) : Table String (List Int64) :=
  match c.document with
  | .verbatim _ => []
  | .generated config => config.hops.foldl (fun noted h => noted.set h.tag [h.record.id]) []

/-- Whether there are helpers to run. -/
def needsHelpers (c : Compiled) : Bool := c.external.any fun chain => !chain.isEmpty

/-- The local ports that helpers listen on and dial. -/
def ports (c : Compiled) : List UInt16 :=
  c.external.flatMap fun chain => chain.entries.map Prod.fst ++ chain.relays.map Prod.snd

end Compiled

/-- A complete configuration that is alone. -/
def compileFull (text : String) : Except ChainError Compiled :=
  match Json.parse text with
  | .ok _ => .ok { document := .verbatim text, external := [{}] }
  | .error e => .error (.outbound (.invalidText e))

/-- The text of a complete configuration. -/
def Profile.fullConfig? (p : Profile) : Option String :=
  match p.variant with
  | .config raw => if raw.scope = .full then some raw.text else none
  | _ => none

/-- Compiles hops. A build for a test has no local inbound. -/
def compileHops (system : SystemPorts) (chain : List Record) (s : Settings) (forTest : Bool) :
    Except ChainError Compiled := do
  let hops ← planHops system s 0 none { counter := s.helperPortBase } chain
  let config : CoreConfig :=
    { logLevel := s.logLevelName?
      mixedPort := if forTest then none else some s.mixedPort
      hops }
  return { document := .generated config, external := [.ofHops hops] }

/-- Compiles a chain. -/
def compile (system : SystemPorts) (chain : List Record) (s : Settings) (forTest : Bool) :
    Except ChainError Compiled :=
  match chain with
  | [] => .error .empty
  | first :: rest =>
    match first.profile.fullConfig? with
    | some text => if rest.isEmpty then compileFull text else .error .fullConfig
    | none => compileHops system chain s forTest

end ProxyChain
