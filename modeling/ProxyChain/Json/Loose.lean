import ProxyChain.Json.Printer
import ProxyChain.Text.Blank

/-!
# Loosely typed values

Documents written by hand give numbers as strings and lists as single values. A value's text is the
string itself or the compact form of anything else; flags, integers and lists are read off it.
-/

namespace ProxyChain

namespace Json

/-- A string as it is, any other value in compact form. -/
def text : Json → String
  | .string s => s
  | value => value.compact

/-- Whether a text is `true` in letters of either case. -/
def isTrueText (s : String) : Bool := s.toList.map Char.toLower == "true".toList

/-- Whether the value's text is `true` in letters of either case. -/
def isTrue (value : Json) : Bool := isTrueText value.text

/-- The integer that the value's text is, between blanks. -/
def int64? (value : Json) : Option Int64 := Text.int64? (Text.strip value.text.toList)

/-- The string, if the value is one. -/
def string? : Json → Option String
  | .string s => some s
  | _ => none

/-- The truth value, if the value is one. -/
def bool? : Json → Option Bool
  | .bool b => some b
  | _ => none

/-- The integer, if the value is one of 64 bits with a sign. -/
def exactInt64? : Json → Option Int64
  | .number (.integer n) => Text.fitInt64? n
  | _ => none

/-- A value as a list of what `element?` accepts: the accepted items of an array, or the value by
itself. There is no list when the value is absent or null, or not accepted by itself. -/
def listOf? {α : Type} (element? : Json → Option α) : Option Json → Option (List α)
  | none | some .null => none
  | some (.array items) => some (items.filterMap element?)
  | some value => (element? value).map fun a => [a]

/-- A value as a list of strings. -/
def strings? (value : Option Json) : Option (List String) := listOf? string? value

end Json

namespace Members

/-- Whether the value under a key is true, or a string that says so. -/
def flag (m : Members) (key : String) : Bool :=
  match m.get? key with
  | some (.bool b) => b
  | some (.string s) => Json.isTrueText s
  | _ => false

/-- The text of the value under a key; empty when that is absent or null. -/
def textAt (m : Members) (key : String) : String :=
  match m.present? key with
  | some value => value.text
  | none => ""

/-- The integer under a key; zero when that is not one. -/
def intAt (m : Members) (key : String) : Int64 := ((m.get? key).bind Json.int64?).getD 0

/-- The object under a key. -/
def objectAt? (m : Members) (key : String) : Option Members := (m.get? key).bind Json.members?

end Members

end ProxyChain
