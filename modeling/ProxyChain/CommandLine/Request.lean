import ProxyChain.Text.Quoted

/-!
# Requests

What the words of a command line ask for. Options may stand anywhere; the other words are a command
and its links.
-/

namespace ProxyChain.CommandLine

/-- A command. -/
inductive Command where
  /-- Print the profile of a link. -/
  | decode (link : String)
  /-- Print the outbound of a link. -/
  | outbound (link : String)
  /-- Print the configuration of a chain. -/
  | compile (links : List String)
  /-- Print the export of a link. -/
  | export (link : String)
  deriving DecidableEq, Repr

/-- The options. -/
structure Options where
  settingsPath : Option String := none
  forTest : Bool := false
  verbose : Bool := false
  deriving DecidableEq, Repr

/-- What is asked for. -/
inductive Request where
  | help
  | run (options : Options) (command : Command)
  deriving DecidableEq, Repr

/-- Why nothing can be asked for with some words. -/
inductive UsageError where
  | noSettingsPath
  | notOneLink (command : String)
  | noLinks
  | unknownCommand (name : String)
  deriving DecidableEq, Repr

/-- What went wrong, in words. -/
def UsageError.message : UsageError → String
  | noSettingsPath => "--settings needs a path"
  | notOneLink command => s!"{command} takes exactly one link"
  | noLinks => "compile needs at least one link"
  | unknownCommand name => s!"unknown command: {Text.quoted name}"

/-- The options among words and the words that are none, unless help is asked for. -/
def split : Options → (others : List String) → List String →
    Except UsageError (Option (Options × List String))
  | options, others, [] => .ok (some (options, others.reverse))
  | options, others, word :: words =>
    if word = "--settings" then
      match words with
      | [] => .error .noSettingsPath
      | path :: words => split { options with settingsPath := some path } others words
    else if word = "--for-test" then split { options with forTest := true } others words
    else if word = "--verbose" ∨ word = "-v" then
      split { options with verbose := true } others words
    else if word = "--help" ∨ word = "-h" then .ok none
    else split options (word :: others) words

/-- The only link of a command. -/
def onlyLink (command : String) : List String → Except UsageError String
  | [link] => .ok link
  | _ => .error (.notOneLink command)

/-- A command by its name, with its links. -/
def Command.ofWords (name : String) (links : List String) : Except UsageError Command :=
  if name = "decode" then .decode <$> onlyLink name links
  else if name = "outbound" then .outbound <$> onlyLink name links
  else if name = "export" then .export <$> onlyLink name links
  else if name = "compile" then
    if links.isEmpty then .error .noLinks else .ok (.compile links)
  else .error (.unknownCommand name)

/-- What words ask for. -/
def Request.ofWords (words : List String) : Except UsageError Request := do
  match ← split {} [] words with
  | none => return .help
  | some (options, others) => return .run options (← Command.ofWords (others.headD "") others.tail)

/-- The settings file that words ask for. -/
def settingsPath? (words : List String) : Option String :=
  match Request.ofWords words with
  | .ok (.run options _) => options.settingsPath
  | _ => none

end ProxyChain.CommandLine
