import ProxyChain.Chain.Compile
import ProxyChain.Helper.Render

/-!
# Exports

A record's configuration in a form to share: the core's document, then the configuration of every
helper, an empty line between them.
-/

namespace ProxyChain

/-- A file to share. -/
structure Export where
  fileName : String
  content : String
  deriving DecidableEq, Repr

namespace Export

/-- The name of a file that holds several configurations. -/
def sharedName : String := "profiles.txt"

/-- The configurations of the helpers of a chain. `name` tells their files from all others. -/
def helperConfigs (chain : ExternalChain) (s : Settings) (name : String) : List String :=
  chain.entries.filterMap fun (port, record) =>
    (Helper.render record.profile (chain.ports port) false s name).map (·.config)

/-- The file for a record. -/
def ofRecord (system : SystemPorts) (r : Record) (s : Settings) (name : String) :
    Except ChainError Export := do
  let compiled ← compile system [r] s false
  let configs := compiled.external.flatMap fun chain => helperConfigs chain s name
  return { fileName := if compiled.needsHelpers then sharedName
             else r.profile.displayName ++ ".json"
           content := "\n\n".intercalate (compiled.text :: configs) }

end Export

end ProxyChain
