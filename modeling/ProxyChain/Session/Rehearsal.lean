import ProxyChain.FileTree
import ProxyChain.Session.Call

/-!
# Rehearsals

An environment in memory: files are those of a tree, everything else answers as a script says, and
calls fail on cue. Cues go by label, and calls that share a label are counted together. Who watches a
rehearsal is told paths as they are shown.
-/

namespace ProxyChain

instance : CoeOut Path String := ⟨Path.display⟩

instance : CoeOut (List Path) (List String) := ⟨List.map Path.display⟩

/-- When calls with a label fail. -/
inductive Cue where
  | always
  /-- The `n`th one, counting from one. -/
  | once (n : Nat)
  deriving DecidableEq, Repr

/-- Whether the `n`th call fails. -/
def Cue.strikes (n : Nat) : Cue → Bool
  | always => true
  | once m => m == n

/-- What the surroundings answer. -/
structure Script where
  /-- The label of a call that is not about files. -/
  label : Call → String
  /-- The path of a helper's program. -/
  program : Helper → String
  latencyMs : Nat
  /-- How a call with a label fails. -/
  fault : String → String
  /-- The `n`th name for a file. -/
  fileName : Nat → String
  systemPorts : SystemPorts

/-- The state of a rehearsal. -/
structure Rehearsal where
  files : FileTree := []
  cues : Table String Cue := []
  /-- How many calls there were of each label. -/
  counts : Table String Nat := []
  helpers : Nat := 0
  namesDrawn : Nat := 0
  clock : Nat := 0
  deriving Repr

namespace Script

/-- What a call answers. -/
def reply (s : Script) : (c : Call) → c.Reply
  | .resolveHelper helper => s.program helper
  | .testLink .. => s.latencyMs
  | .createDirectory _ | .writeFile .. | .deleteFile _ | .loadCore .. | .startCore | .closeCore
  | .startHelper _ | .closeHelpers | .launchExternal _ | .closeExternal _ | .updateTrust _ => ()

end Script

namespace Rehearsal

/-- Carries out an operation on files. -/
def onFiles (r : Rehearsal) (operation : FileTree → Except FileError Unit × FileTree) :
    Except String Unit × Rehearsal :=
  let (outcome, files) := operation r.files
  (outcome.mapError FileError.message, { r with files })

/-- Counts a call and answers it, unless there is a cue to fail. -/
def onCue (s : Script) (c : Call) (r : Rehearsal) : Except String c.Reply × Rehearsal :=
  let label := s.label c
  let n := (r.counts.get? label).getD 0 + 1
  let outcome : Except String c.Reply :=
    if ((r.cues.get? label).map (Cue.strikes n)).getD false then .error (s.fault label)
    else .ok (s.reply c)
  (outcome, { r with counts := r.counts.set label n })

/-- Answers a call. -/
def perform (s : Script) : (c : Call) → Rehearsal → Except String c.Reply × Rehearsal
  | .createDirectory path, r => r.onFiles fun t => t.createDirectory path
  | .writeFile path contents, r => r.onFiles fun t => t.after (t.write path contents)
  | .deleteFile path, r => r.onFiles fun t => t.after (t.delete path)
  | .startHelper command, r => onCue s (.startHelper command) { r with helpers := r.helpers + 1 }
  | .resolveHelper helper, r => onCue s (.resolveHelper helper) r
  | .loadCore config mode, r => onCue s (.loadCore config mode) r
  | .startCore, r => onCue s .startCore r
  | .closeCore, r => onCue s .closeCore r
  | .closeHelpers, r => onCue s .closeHelpers r
  | .launchExternal e, r => onCue s (.launchExternal e) r
  | .closeExternal e, r => onCue s (.closeExternal e) r
  | .updateTrust source, r => onCue s (.updateTrust source) r
  | .testLink link timeoutMs, r => onCue s (.testLink link timeoutMs) r

/-- The environment of a rehearsal. -/
def environment (s : Script) : Environment Rehearsal where
  perform := perform s
  systemPorts _ := s.systemPorts
  freshName r := (s.fileName r.namesDrawn, { r with namesDrawn := r.namesDrawn + 1 })
  helperCount r := r.helpers
  wait ms r := { r with clock := r.clock + ms }
  now r := r.clock

end Rehearsal

end ProxyChain
