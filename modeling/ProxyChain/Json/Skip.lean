import ProxyChain.Json.Scanner

/-!
# Skipping JSON values

A value that nobody asked for only has to be well formed. It may nest to any depth, its numbers may
be of any size, and the halves of its surrogate pairs may stand alone. A number that is cut short is
malformed, also at the end of the text.
-/

namespace ProxyChain.Scan

/-- Skips the rest of a string after its opening quote. `escaped` says that a backslash came just
before, `left` how many digits of a code unit are still due. -/
def skipStringFrom : (escaped : Bool) → (left : Nat) → Scan Unit
  | _, _, [] => .error .endOfInput
  | true, _, c :: text =>
    if c = 'u' then
      if endsWithinUnit text then .error .endOfInput else skipStringFrom false 4 text
    else if (escaped? c).isSome then skipStringFrom false 0 text
    else .error .malformed
  | false, left + 1, c :: text =>
    if (hexDigit? c).isSome then skipStringFrom false left text else .error .malformed
  | false, 0, c :: text =>
    if c = '"' then .ok ((), text)
    else if c = '\\' then skipStringFrom true 0 text
    else if c.toNat < 0x20 then .error .malformed
    else skipStringFrom false 0 text

/-- Skips the rest of a string after its opening quote. -/
def skipString : Scan Unit := skipStringFrom false 0

/-- Skips a value of any type, given what skips the rest after an opening bracket or brace. -/
def skipWith (array object : Scan Unit) : Scan Unit := do
  skipSpace
  match ← peek? with
  | none => fail .endOfInput
  | some 'n' => word "null".toList
  | some 't' => word "true".toList
  | some 'f' => word "false".toList
  | some '"' => next *> skipString
  | some '[' => next *> array
  | some '{' => next *> object
  | some c => if c = '-' || c.isDigit then discard (literal .malformed) else fail .malformed

/-- Skips a value with at most `limit` arrays and objects inside each other. -/
def skipWithin : (limit : Nat) → Scan Unit
  | 0 => skipWith (fail .malformed) (fail .malformed)
  | limit + 1 =>
    skipWith (discard (items (skipWithin limit)))
      (discard (fields skipString (skipWithin limit)))

/-- Skips a value. It cannot nest deeper than it is long. -/
def skip : Scan Unit := fun text => skipWithin text.length text

end ProxyChain.Scan
