import ProxyChain.Json.Number

/-!
# Printing JSON

The compact form has no white space outside strings. The pretty form puts every element on a line of
its own, indented by two spaces a level; empty arrays and objects stay on one line. In strings only
quotes, backslashes and control characters are escaped.
-/

namespace ProxyChain

namespace Json

/-- A hexadecimal digit. -/
def hexDigit (n : Nat) : Char := Nat.digitChar n

/-- A character inside a string. -/
def charText (c : Char) : List Char :=
  if c = '"' then ['\\', '"']
  else if c = '\\' then ['\\', '\\']
  else if c = '\n' then ['\\', 'n']
  else if c = '\r' then ['\\', 'r']
  else if c = '\t' then ['\\', 't']
  else if c = '\x08' then ['\\', 'b']
  else if c = '\x0c' then ['\\', 'f']
  else if c.toNat < 0x20 then
    ['\\', 'u', '0', '0', hexDigit (c.toNat / 16), hexDigit (c.toNat % 16)]
  else [c]

/-- A string with its quotes. -/
def stringText (s : String) : List Char := '"' :: s.toList.flatMap charText ++ ['"']

/-- A line feed and the indentation of a level. -/
def lineStart (level : Nat) : List Char := '\n' :: List.replicate (2 * level) ' '

mutual

/-- The compact form. -/
def compactChars : Json → List Char
  | .null => "null".toList
  | .bool true => "true".toList
  | .bool false => "false".toList
  | .number n => n.chars
  | .string s => stringText s
  | .array [] => "[]".toList
  | .array (x :: xs) => '[' :: compactChars x ++ compactItems xs
  | .object [] => "\x7b\x7d".toList
  | .object ((k, v) :: rest) => '{' :: stringText k ++ ':' :: compactChars v ++ compactMembers rest

/-- Further items of an array and its end. -/
def compactItems : List Json → List Char
  | [] => [']']
  | x :: xs => ',' :: compactChars x ++ compactItems xs

/-- Further members of an object and its end. -/
def compactMembers : List (String × Json) → List Char
  | [] => ['}']
  | (k, v) :: rest => ',' :: stringText k ++ ':' :: compactChars v ++ compactMembers rest

end

mutual

/-- The pretty form of a value at a level. -/
def prettyChars (level : Nat) : Json → List Char
  | .null => "null".toList
  | .bool true => "true".toList
  | .bool false => "false".toList
  | .number n => n.chars
  | .string s => stringText s
  | .array [] => "[]".toList
  | .array (x :: xs) =>
    '[' :: lineStart (level + 1) ++ prettyChars (level + 1) x ++ prettyItems level xs
  | .object [] => "\x7b\x7d".toList
  | .object ((k, v) :: rest) =>
    '{' :: lineStart (level + 1) ++ stringText k ++ ':' :: ' ' :: prettyChars (level + 1) v ++
      prettyMembers level rest

/-- Further items of an array at a level and its end. -/
def prettyItems (level : Nat) : List Json → List Char
  | [] => lineStart level ++ [']']
  | x :: xs => ',' :: lineStart (level + 1) ++ prettyChars (level + 1) x ++ prettyItems level xs

/-- Further members of an object at a level and its end. -/
def prettyMembers (level : Nat) : List (String × Json) → List Char
  | [] => lineStart level ++ ['}']
  | (k, v) :: rest =>
    ',' :: lineStart (level + 1) ++ stringText k ++ ':' :: ' ' :: prettyChars (level + 1) v ++
      prettyMembers level rest

end

/-- The compact form of a document. -/
def compact (j : Json) : String := String.ofList j.compactChars

/-- The pretty form of a document. -/
def pretty (j : Json) : String := String.ofList (j.prettyChars 0)

end Json

end ProxyChain
