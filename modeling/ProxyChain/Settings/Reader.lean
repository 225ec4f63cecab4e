import ProxyChain.Json.Skip
import ProxyChain.Json.Typed
import ProxyChain.Settings.Basic

/-!
# Reading settings

Settings are an object whose members set fields by name: those that are missing keep their defaults,
unknown ones are skipped, and naming a field twice is a mismatch. They may also be an array of the
fields' values in order, which may end early.
-/

namespace ProxyChain

open Scan

/-- The names of trust sources. -/
inductive TrustSource.Name where
  | system
  | mozilla
  | systemAndUser
  deriving DecidableEq, Repr

/-- The trust source of a name. -/
def TrustSource.Name.ofText? (s : String) : Option TrustSource.Name :=
  if s = "system" then some system
  else if s = "mozilla" then some mozilla
  else if s = "system_and_user" then some systemAndUser
  else none

/-- A trust source: its name, or an object with its name and what belongs to it. -/
def Scan.trustSource : Scan TrustSource := do
  skipSpace
  match ← peek? with
  | none => fail .endOfInput
  | some '"' =>
    match TrustSource.Name.ofText? (← Scan.text) with
    | some .system => pure .system
    | some .mozilla => pure .mozilla
    | some .systemAndUser | none => fail .mismatch
  | some '{' =>
    discard next
    skipSpace
    expect '"'
    let source : TrustSource ← match TrustSource.Name.ofText? (← string) with
      | none => fail .mismatch
      | some name => do
        skipSpace
        expect ':'
        match name with
        | .system => nothing *> pure .system
        | .mozilla => nothing *> pure .mozilla
        | .systemAndUser => .systemAndUser <$> listOf Scan.text
    skipSpace
    expect '}'
    pure source
  | some _ => fail .malformed

namespace Settings

/-- The fields, in order. -/
inductive Field where
  | logLevel
  | uploadMbps
  | downloadMbps
  | trustSource
  | mixedPort
  | helperPortBase
  | cacheDir
  | protectPath
  deriving DecidableEq, Repr

namespace Field

/-- Every field. -/
def all : List Field :=
  [logLevel, uploadMbps, downloadMbps, trustSource, mixedPort, helperPortBase, cacheDir, protectPath]

/-- The name of a field. -/
def name : Field → String
  | logLevel => "log_level"
  | uploadMbps => "upload_mbps"
  | downloadMbps => "download_mbps"
  | trustSource => "cert_provider"
  | mixedPort => "mixed_port"
  | helperPortBase => "helper_port_base"
  | cacheDir => "cache_dir"
  | protectPath => "protect_path"

/-- The field of a name. -/
def ofName? (s : String) : Option Field := all.find? fun f => f.name == s

/-- Reads the value of a field into settings. -/
def set (s : Settings) : Field → Scan Settings
  | logLevel => (fun v => { s with logLevel := v }) <$> int32
  | uploadMbps => (fun v => { s with uploadMbps := v }) <$> int32
  | downloadMbps => (fun v => { s with downloadMbps := v }) <$> int32
  | trustSource => (fun v => { s with trustSource := v }) <$> Scan.trustSource
  | mixedPort => (fun v => { s with mixedPort := v }) <$> uint16
  | helperPortBase => (fun v => { s with helperPortBase := v }) <$> uint16
  | cacheDir => (fun v => { s with cacheDir := v }) <$> Scan.text
  | protectPath => (fun v => { s with protectPath := v }) <$> nullable Scan.text

end Field

/-- Settings read so far and the fields that have been named. -/
structure Partial where
  settings : Settings
  named : List Field

/-- One member of an object of settings; gives the settings after the last one. -/
def readMember (p : Partial) : Scan (Partial ⊕ Settings) := do
  skipSpace
  expect '"'
  let p : Partial ← match Field.ofName? (← string) with
    | some field =>
      if field ∈ p.named then fail .mismatch
      else do
        skipSpace
        expect ':'
        let settings ← field.set p.settings
        pure { settings, named := field :: p.named }
    | none => do
      skipSpace
      expect ':'
      skip
      pure p
  skipSpace
  match ← next with
  | ',' => return .inl p
  | '}' => return .inr p.settings
  | _ => fail .malformed

/-- The rest of an object of settings after its opening brace. -/
def readMembers (defaults : Settings) : Scan Settings := do
  skipSpace
  if ← accept '}' then return defaults
  loop readMember { settings := defaults, named := [] }

/-- The rest of an array of settings after its opening bracket, or after a value and a comma. -/
def readItems (s : Settings) : List Field → Scan Settings
  | [] => fail .malformed
  | field :: fields => do
    let s ← field.set s
    skipSpace
    match ← next with
    | ',' => readItems s fields
    | ']' => pure s
    | _ => fail .malformed

/-- Settings on top of defaults. -/
def read (defaults : Settings) : Scan Settings := do
  skipSpace
  match ← peek? with
  | none => fail .endOfInput
  | some '{' => next *> readMembers defaults
  | some '[' =>
    discard next
    skipSpace
    if ← accept ']' then return defaults
    readItems defaults Field.all
  | some _ => wrongType

/-- The settings that a text holds. -/
def parse (defaults : Settings) (text : String) : Except TextError Settings :=
  (read defaults).run text

end Settings

end ProxyChain
