import ProxyChain.Json.Scanner

/-!
# Parsing JSON text

The grammar is that of RFC 8259, with at most `nestingLimit` arrays and objects inside each other. Of
members with the same key the last one counts.
-/

namespace ProxyChain

namespace Scan

/-- A value of any type, given readers for what follows an opening bracket or brace. -/
def valueWith (array object : Scan Json) : Scan Json := do
  skipSpace
  match ← peek? with
  | none => fail .endOfInput
  | some 'n' => word "null".toList *> pure .null
  | some 't' => word "true".toList *> pure (.bool true)
  | some 'f' => word "false".toList *> pure (.bool false)
  | some '"' => next *> .string <$> string
  | some '[' => next *> array
  | some '{' => next *> object
  | some c => if c = '-' || c.isDigit then .number <$> number else fail .malformed

/-- A value with at most `limit` arrays and objects inside each other. -/
def value : (limit : Nat) → Scan Json
  | 0 => valueWith (fail .malformed) (fail .malformed)
  | limit + 1 =>
    valueWith (.array <$> items (value limit))
      ((fun fs => .object (Members.ofList fs)) <$> fields string (value limit))

/-- What `read` reads, if nothing but white space follows. -/
def complete {α : Type} (read : Scan α) : Scan α := do
  let a ← read
  skipSpace
  match ← peek? with
  | none => pure a
  | some _ => fail .malformed

/-- Reads a whole text. -/
def run {α : Type} (read : Scan α) (text : String) : Except TextError α :=
  (complete read text.toList).map Prod.fst

end Scan

namespace Json

/-- How many arrays and objects may stand inside each other. -/
def nestingLimit : Nat := 127

/-- The document that a text holds. -/
def parse (text : String) : Except TextError Json := (Scan.value nestingLimit).run text

end Json

end ProxyChain
