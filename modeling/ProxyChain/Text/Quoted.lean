import ProxyChain.Path
import ProxyChain.Text.Hidden
import ProxyChain.Text.Integer

/-!
# Quoted texts

A text in double quotes, as error messages show it: quotes and backslashes follow a backslash, and
hidden characters are written by name or by code point. Paths escape single quotes as well, and bytes
that are no characters.
-/

namespace ProxyChain.Text

/-- A code point in hexadecimal, in braces. -/
def codePoint (c : Char) : List Char := ['\\', 'u', '{'] ++ Nat.toDigits 16 c.toNat ++ ['}']

/-- A character inside quotes; `also` is escaped besides double quotes. -/
def quotedChar (also : Option Char) (c : Char) : List Char :=
  if c = '\x00' then ['\\', '0']
  else if c = '\t' then ['\\', 't']
  else if c = '\r' then ['\\', 'r']
  else if c = '\n' then ['\\', 'n']
  else if c = '\\' ∨ c = '"' ∨ some c = also then ['\\', c]
  else if isHidden c then codePoint c
  else [c]

/-- A text in quotes. -/
def quotedWith (also : Option Char) (s : String) : String :=
  String.ofList ('"' :: s.toList.flatMap (quotedChar also) ++ ['"'])

/-- A text in quotes. -/
def quoted (s : String) : String := quotedWith none s

/-- A byte in hexadecimal. -/
def quotedByte (b : UInt8) : List Char :=
  ['\\', 'x', (Nat.digitChar (b.toNat / 16)).toUpper, (Nat.digitChar (b.toNat % 16)).toUpper]

/-- A part of a path inside quotes. -/
def quotedPart : Path.Part → List Char
  | .char c => quotedChar (some '\'') c
  | .broken bytes => bytes.flatMap quotedByte

/-- A path in quotes. -/
def quotedPath (path : Path) : String :=
  String.ofList ('"' :: (Path.parts 0 path.bytes).flatMap quotedPart ++ ['"'])

end ProxyChain.Text
