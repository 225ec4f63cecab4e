import ProxyChain.Settings.Reader
import ProxyChain.Text.Quoted

/-!
# Settings files

Settings kept in a file. Reading the file fails with what the system says.
-/

namespace ProxyChain

/-- Why a file gives no settings. -/
inductive SettingsError where
  | unreadable (path fault : String)
  | invalid (error : TextError)
  deriving DecidableEq, Repr

namespace SettingsError

/-- What was being done. -/
def activity : SettingsError → String
  | unreadable path _ => s!"reading settings file {Text.quotedPath path}"
  | invalid _ => "parsing settings"

/-- What went wrong with it. -/
def cause : SettingsError → String
  | unreadable _ fault => fault
  | invalid e => e.message

/-- What went wrong, in words. -/
def message (e : SettingsError) : String := s!"{e.activity}: {e.cause}"

end SettingsError

namespace Settings

/-- The settings in a text, on top of defaults. -/
def ofText (defaults : Settings) (text : String) : Except SettingsError Settings :=
  match parse defaults text with
  | .ok s => .ok s
  | .error e => .error (.invalid e)

/-- The settings in a file, on top of defaults, given what reading it came to. -/
def ofFile (defaults : Settings) (path : String) (contents : Except String String) :
    Except SettingsError Settings :=
  match contents with
  | .ok text => ofText defaults text
  | .error fault => .error (.unreadable path fault)

end Settings

end ProxyChain
