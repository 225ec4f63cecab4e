import ProxyChain.CommandLine.Outcome
import ProxyChain.FileTree
import Std.Internal.UV.TCP

/-!
# The command line tool

Collects what a command line depends on and prints what it comes to.
-/

namespace ProxyChain.Main

/-- A failure by the system's number for it, which may come with its sign changed. -/
def numberedFault (code : UInt32) (details : String) : String :=
  let number := min code (0 - code)
  if number = 2 then FileError.notFound.message
  else if number = 13 then "Permission denied (os error 13)"
  else if number = 20 then FileError.notDirectory.message
  else if number = 21 then FileError.isDirectory.message
  else if number = 36 then FileError.nameTooLong.message
  else s!"{details} (os error {Text.showNat number.toNat})"

/-- A failure in the system's words. -/
def faultText : IO.Error → String
  | .noFileOrDirectory _ code details | .permissionDenied _ code details
  | .inappropriateType _ code details | .resourceExhausted _ code details
  | .otherError code details => numberedFault code details
  | e => toString e

/-- What reading a file comes to. -/
def readFile (path : String) : IO (Except String String) := do
  match ← (IO.FS.readBinFile path).toBaseIO with
  | .error e => return .error (faultText e)
  | .ok bytes =>
    match String.fromUTF8? bytes with
    | some text => return .ok text
    | none => return .error "stream did not contain valid UTF-8"

/-- Asks the system for free ports. They stay taken for as long as the sockets are kept. -/
def freePorts : Nat → IO (List (Std.Internal.UV.TCP.Socket × UInt16))
  | 0 => return []
  | n + 1 => do
    let socket ← Std.Internal.UV.TCP.Socket.new
    socket.bind (.v4 ⟨.ofParts 127 0 0 1, 0⟩)
    let port : UInt16 ← match ← socket.getSockName with
      | .v4 address => pure address.port
      | .v6 address => pure address.port
    return (socket, port) :: (← freePorts n)

/-- The directory for everything that is cached, from the values of two variables. -/
def cacheRoot (cacheHome home : Option String) : Path :=
  match cacheHome.filter (·.startsWith "/"), home with
  | some dir, _ => dir
  | none, some home => Path.join home ".cache"
  | none, none => "/tmp"

/-- Where files are cached. -/
def cacheDir : IO Path := do
  return Path.join (cacheRoot (← IO.getEnv "XDG_CACHE_HOME") (← IO.getEnv "HOME")) "proxyprofile"

end ProxyChain.Main

open ProxyChain

/-- Runs the tool. -/
def main (words : List String) : IO UInt32 := do
  let contents : Except String String ← match CommandLine.settingsPath? words with
    | some path => Main.readFile path
    | none => pure (.ok "")
  let ports ← Main.freePorts (2 * words.length)
  let name ← IO.rand 0 (UInt64.size - 1)
  let outcome := CommandLine.run
    { fileText := fun _ => contents
      systemPorts := fun n => match ports[n]? with
        | some (_, port) => .ok port
        | none => .error "Address already in use (os error 98)"
      fileName := Text.showNat name
      cacheDir := ← Main.cacheDir } words
  (← IO.getStderr).putStr outcome.errors
  (← IO.getStdout).putStr outcome.output
  return outcome.code.toUInt32
