import ProxyChain.Wire.Integer

/-!
# Strings on the wire

A string is written as one more than its number of characters, then the characters in UTF-8. The
first byte has bit 7 set and holds the six low bits of that number; bit 6 says that the higher bits
follow as a length. Zero stands for no string at all.

A first byte without bit 7 starts the compact form of a longer ASCII string: every byte is a
character, and bit 7 marks the last one. The compact form is read but never written.
-/

namespace ProxyChain.Wire

/-- The UTF-8 encoding of a string. -/
def utf8 (s : String) : Bytes := s.toByteArray.data.toList

/-- The string that bytes encode, if they are well-formed UTF-8. -/
def ofUtf8? (bytes : Bytes) : Option String := String.fromUTF8? ⟨bytes.toArray⟩

/-- The number in front of a string. -/
def writeCount (count : UInt32) : Bytes :=
  let low := 0x80 ||| (count &&& 0x3F).toUInt8
  let high := count >>> 6
  if 0 < high then (low ||| 0x40) :: writeLength high else [low]

/-- A string. -/
def writeString (s : String) : Bytes := writeCount (UInt32.ofNat s.toList.length + 1) ++ utf8 s

/-- A string or its absence. -/
def writeString? : Option String → Bytes
  | none => [0x80]
  | some s => writeString s

/-- How many bytes the character takes that starts with `lead`. -/
def charWidth? (lead : UInt8) : Option Nat :=
  if lead < 0x80 then some 1
  else if lead < 0xC0 then none
  else if lead < 0xE0 then some 2
  else if lead < 0xF0 then some 3
  else if lead < 0xF8 then some 4
  else none

/-- The characters of the compact string at the front of `bytes`, if its last one is there. -/
def compactChars? : (bytes : Bytes) → Option (List Char)
  | [] => none
  | b :: rest =>
    let char := Char.ofNat (b &&& 0x7F).toNat
    if b &&& 0x80 = 0 then (compactChars? rest).map (char :: ·) else some [char]

namespace Reader

/-- Passes `count` characters of the string that starts at `start`, by the widths that their first
bytes tell. -/
def passChars (start : Nat) : (count : Nat) → Reader Unit
  | 0 => pure ()
  | count + 1 => do
    match charWidth? (← byte) with
    | none => throw (.invalidString start)
    | some width =>
      discard (take (width - 1))
      passChars start count

/-- `count` characters in UTF-8 of the string that starts at `start`. -/
def chars (start count : Nat) : Reader String := do
  let before ← get
  passChars start count
  let after ← get
  match ofUtf8? (before.rest.take (after.position - before.position)) with
  | some s => pure s
  | none => throw (.invalidString start)

/-- A string in compact form. -/
def compact : Reader String := fun c =>
  match compactChars? c.rest with
  | some cs => .ok (String.ofList cs) (c.advance cs.length)
  | none => .error (.truncated (c.position + c.remaining) 1) (c.advance c.remaining)

/-- The number in front of a string whose first byte is `first`. -/
def count (first : UInt8) : Reader UInt32 := do
  let low := (first &&& 0x3F).toUInt32
  if first &&& 0x40 = 0 then pure low else return low ||| ((← length) <<< 6)

/-- A string or its absence. -/
def string? : Reader (Option String) := do
  let before ← get
  let first ← byte
  if first &&& 0x80 = 0 then
    set before
    return some (← compact)
  match (← count first).toNat with
  | 0 => pure none
  | 1 => pure (some "")
  | n + 2 => some <$> chars before.position (n + 1)

/-- A string; the absence of one reads as the empty string. -/
def string : Reader String := do
  return (← string?).getD ""

end Reader

end ProxyChain.Wire
