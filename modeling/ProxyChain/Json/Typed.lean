import ProxyChain.Json.Parser
import ProxyChain.Text.Integer

/-!
# Values of a known type

Readers for a value that has to be of one type. A value of another type is a mismatch as soon as it
is known to be one: a string, number or name once it has been read, an array or object at its opening
bracket.
-/

namespace ProxyChain.Scan

open Text

/-- Fails on the next value, which is of the wrong type. -/
def wrongType {α : Type} : Scan α := do
  discard (valueWith (fail .mismatch) (fail .mismatch))
  fail .mismatch

/-- An integer that `fit?` accepts. -/
def integerThat {α : Type} (fit? : Int → Option α) : Scan α := do
  skipSpace
  match ← peek? with
  | none => fail .endOfInput
  | some c =>
    if c = '-' || c.isDigit then
      match ← number with
      | .integer n =>
        match fit? n with
        | some a => pure a
        | none => fail .mismatch
      | .double _ => fail .mismatch
    else wrongType

/-- A signed integer of 32 bits. -/
def int32 : Scan Int32 := integerThat fitInt32?

/-- An unsigned integer of 16 bits. -/
def uint16 : Scan UInt16 := integerThat fitUInt16?

/-- A string. -/
def text : Scan String := do
  skipSpace
  match ← peek? with
  | none => fail .endOfInput
  | some '"' => next *> string
  | some _ => wrongType

/-- What `read` reads, or null. -/
def nullable {α : Type} (read : Scan α) : Scan (Option α) := do
  skipSpace
  match ← peek? with
  | some 'n' => word "null".toList *> pure none
  | _ => some <$> read

/-- Null. -/
def nothing : Scan Unit := do
  skipSpace
  match ← peek? with
  | none => fail .endOfInput
  | some 'n' => word "null".toList
  | some _ => wrongType

/-- An array of what `item` reads. -/
def listOf {α : Type} (item : Scan α) : Scan (List α) := do
  skipSpace
  match ← peek? with
  | none => fail .endOfInput
  | some '[' => next *> items item
  | some _ => wrongType

end ProxyChain.Scan
