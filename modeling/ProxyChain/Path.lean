import ProxyChain.Wire.Text

/-!
# File paths

A path is bytes, names with slashes between them. Slashes at its end, repeated slashes and names that
are a single dot say nothing.

Most paths are texts in UTF-8, but the bytes of a path may be any. Where they are no characters they are
shown as replacement characters, so that what is shown of such a path is the text of another one.
-/

namespace ProxyChain

/-- A path. -/
structure Path where
  bytes : Wire.Bytes
  deriving DecidableEq, Repr

namespace Path

/-- The path of a text. -/
def ofText (s : String) : Path := ⟨Wire.utf8 s⟩

instance : Coe String Path := ⟨ofText⟩

/-- A part of bytes: a character, or bytes that no character comes of. -/
inductive Part where
  | char (c : Char)
  | broken (bytes : Wire.Bytes)
  deriving DecidableEq, Repr

/-- How many bytes a character has after its first one, and from where to where the first of these goes.
Bytes that are characters by themselves or start none have no such tail. -/
def tail? (lead : UInt8) : Option (Nat × UInt8 × UInt8) :=
  if lead < 0xC2 then none
  else if lead < 0xE0 then some (1, 0x80, 0xBF)
  else if lead = 0xE0 then some (2, 0xA0, 0xBF)
  else if lead = 0xED then some (2, 0x80, 0x9F)
  else if lead < 0xF0 then some (2, 0x80, 0xBF)
  else if lead = 0xF0 then some (3, 0x90, 0xBF)
  else if lead < 0xF4 then some (3, 0x80, 0xBF)
  else if lead = 0xF4 then some (3, 0x80, 0x8F)
  else none

/-- How many of the bytes after `lead` go on with the character that it starts, where that breaks off. -/
def brokenTail (lead : UInt8) (rest : Wire.Bytes) : Nat :=
  match tail? lead, rest with
  | some (count, low, high), second :: more =>
    if low ≤ second && second ≤ high then
      1 + ((more.take (count - 1)).takeWhile fun b => 0x80 ≤ b && b ≤ 0xBF).length
    else 0
  | _, _ => 0

/-- The parts of bytes of which the first `passed` ones belong to a part before. -/
def parts : (passed : Nat) → Wire.Bytes → List Part
  | _, [] => []
  | passed + 1, _ :: rest => parts passed rest
  | 0, lead :: rest =>
    match ByteArray.utf8DecodeChar? ⟨(lead :: rest).toArray⟩ 0 with
    | some c => .char c :: parts (c.utf8Size - 1) rest
    | none =>
      let tail := brokenTail lead rest
      .broken (lead :: rest.take tail) :: parts tail rest

/-- What is shown of a part. -/
def Part.shown : Part → Char
  | char c => c
  | broken _ => '\uFFFD'

/-- A path as it is shown. -/
def display (p : Path) : String := String.ofList ((parts 0 p.bytes).map Part.shown)

/-- A slash. -/
def slash : UInt8 := 0x2F

/-- The path of `name` inside `dir`; a name that starts with a slash is a path by itself. -/
def join (dir : Path) (name : String) : Path :=
  if name.startsWith '/' then ofText name
  else if dir.bytes.isEmpty || dir.bytes.getLast? == some slash then ⟨dir.bytes ++ Wire.utf8 name⟩
  else ⟨dir.bytes ++ slash :: Wire.utf8 name⟩

/-- Without slashes (`2F`) and single dots (`2E`) at its end, other than those it starts with. -/
def dropIdle : (reversed : Wire.Bytes) → Wire.Bytes
  | [] => []
  | [0x2F] => [0x2F]
  | [0x2E] => [0x2E]
  | 0x2F :: rest => dropIdle rest
  | 0x2E :: 0x2F :: rest => dropIdle (0x2F :: rest)
  | bytes => bytes

/-- The directory that a path leads into, unless it is empty or a root. -/
def parent? (path : Path) : Option Path :=
  match dropIdle path.bytes.reverse with
  | [] => none
  | [0x2F] => none
  | reversed =>
    match reversed.dropWhile (· != slash) with
    | [] => some ⟨[]⟩
    | dir => some ⟨(dropIdle dir).reverse⟩

end Path

end ProxyChain
