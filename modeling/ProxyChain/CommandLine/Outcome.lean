import ProxyChain.Chain.Export
import ProxyChain.CommandLine.Request
import ProxyChain.Exchange
import ProxyChain.Profile.Document
import ProxyChain.Settings.File

/-!
# Outcomes

What a command line prints and how it ends. Documents go to the standard output, everything else to
the standard error.
-/

namespace ProxyChain.CommandLine

/-- What a command line depends on besides its words. -/
structure Surroundings where
  /-- What reading a file comes to. -/
  fileText : String → Except String String
  systemPorts : SystemPorts
  /-- Tells the files of helpers from all others. -/
  fileName : String
  cacheDir : Path

/-- Why a command line fails. -/
inductive Failure where
  | usage (error : UsageError)
  | settings (error : SettingsError)
  /-- The link of a command cannot be decoded. -/
  | decoding (error : LinkError)
  /-- A link of a chain cannot be decoded. -/
  | link (error : LinkError)
  | outbound (error : OutboundError)
  | chain (error : ChainError)
  deriving DecidableEq, Repr

namespace Failure

/-- What went wrong, in words. -/
def message : Failure → String
  | usage e => e.message
  | settings e => e.activity
  | decoding _ => "decoding link"
  | link e => e.message
  | outbound e => e.message
  | chain e => e.message

/-- What was wrong with a text. -/
def textCause? : OutboundError → Option String
  | .invalidText e => some e.message
  | .unsupported _ => none

/-- What was behind it. -/
def cause? : Failure → Option String
  | settings e => some e.cause
  | decoding e => some e.message
  | outbound e | chain (.outbound e) => textCause? e
  | usage _ | link _ | chain _ => none

/-- Every line of a text, moved right. -/
def indent (text : String) : String :=
  String.ofList ("    ".toList ++ text.toList.flatMap fun c =>
    if c = '\n' then "\n    ".toList else [c])

/-- What is printed about a failure. -/
def report (f : Failure) : String :=
  match f.cause? with
  | some cause => s!"Error: {f.message}\n\nCaused by:\n{indent cause}\n"
  | none => s!"Error: {f.message}\n"

end Failure

/-- What is printed, and the code at the end. -/
structure Outcome where
  code : UInt8 := 0
  output : String := ""
  errors : String := ""
  deriving DecidableEq, Repr

/-- The lines of the help. -/
def helpLines : List String :=
  ["Proxy profile tool",
   "",
   "Usage: proxyprofile_tool [OPTIONS] <COMMAND> <LINK>...",
   "",
   "Commands:",
   "  decode <LINK>         Print the profile a link carries",
   "  outbound <LINK>       Print the core outbound for a link",
   "  compile <LINK>...     Compile links (first hop first) into a core config",
   "  export <LINK>         Print the shareable config export",
   "",
   "Options:",
   "  --settings <PATH>     Compile settings JSON file",
   "  --for-test            Compile without the local inbound",
   "  --verbose, -v         Debug logging on stderr",
   "  --help, -h            Show this help"]

/-- What is printed when help is asked for. -/
def help : String := String.join (helpLines.map fun line => line ++ "\n")

/-- A document as it is printed. -/
def printed (document : String) : Outcome := { output := document ++ "\n" }

/-- The settings that options ask for. -/
def settingsFor (around : Surroundings) (options : Options) : Except Failure Settings :=
  let defaults := Settings.defaults around.cacheDir
  match options.settingsPath with
  | none => .ok defaults
  | some path => (Settings.ofFile defaults path (around.fileText path)).mapError .settings

/-- The profile of the link of a command. -/
def decodeLink (link : String) : Except Failure Profile := (Link.decode link).mapError .decoding

/-- The records of a chain of links, numbered from one. -/
def chainOfLinks (uuid : String) : (id : Nat) → List String → Except Failure (List Record)
  | _, [] => .ok []
  | id, link :: links => do
    let record ← (Record.ofLink uuid link).mapError .link
    return { record with id := Int64.ofNat id } :: (← chainOfLinks uuid (id + 1) links)

/-- Carries out a command. -/
def execute (around : Surroundings) (s : Settings) (forTest : Bool) :
    Command → Except Failure Outcome
  | .decode link => do return printed (← decodeLink link).toJson.pretty
  | .outbound link => do
    return printed (← ((← decodeLink link).outboundText s).mapError .outbound)
  | .compile links => do
    let chain ← chainOfLinks around.fileName 1 links
    return printed (← (ProxyChain.compile around.systemPorts chain s forTest).mapError .chain).text
  | .export link => do
    let record := Record.fresh around.fileName (← decodeLink link)
    let file ← (Export.ofRecord around.systemPorts record s around.fileName).mapError .chain
    return { printed file.content with errors := s!"# {file.fileName}\n" }

/-- Does what words ask for. -/
def attempt (around : Surroundings) (words : List String) : Except Failure Outcome := do
  match ← (Request.ofWords words).mapError .usage with
  | .help => return { errors := help }
  | .run options command =>
    execute around (← settingsFor around options) options.forTest command

/-- What a command line comes to. One whose command is unknown is answered with help as well. -/
def run (around : Surroundings) (words : List String) : Outcome :=
  match attempt around words with
  | .ok outcome => outcome
  | .error f =>
    let advice :=
      match f with
      | .usage (.unknownCommand _) => help
      | _ => ""
    { code := 1, errors := advice ++ f.report }

end ProxyChain.CommandLine
