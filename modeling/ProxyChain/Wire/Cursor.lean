import ProxyChain.Text.Integer

/-!
# Reading bytes

A reader moves a cursor over bytes. When a read fails the cursor stays where the failure left it, so
that reading can go on from there; only `take` promises not to move on failure.
-/

namespace ProxyChain.Wire

/-- A string of bytes. -/
abbrev Bytes := List UInt8

/-- Where a reader stands: how many bytes it has passed, and those still ahead. -/
structure Cursor where
  position : Nat
  rest : Bytes
  deriving DecidableEq, Repr

namespace Cursor

/-- In front of the first byte. -/
def start (bytes : Bytes) : Cursor := ⟨0, bytes⟩

/-- How many bytes are ahead. -/
def remaining (c : Cursor) : Nat := c.rest.length

/-- The cursor `n` bytes on. -/
def advance (c : Cursor) (n : Nat) : Cursor := ⟨c.position + n, c.rest.drop n⟩

end Cursor

/-- Why bytes cannot be read. -/
inductive ReadError where
  /-- `needed` bytes are missing at `offset`. -/
  | truncated (offset needed : Nat)
  /-- The number read for a field is none of its values. -/
  | invalidField (field : String) (value : Int)
  /-- The string that starts at `offset` is not well-formed text. -/
  | invalidString (offset : Nat)
  deriving DecidableEq, Repr

/-- What went wrong, in words. -/
def ReadError.message : ReadError → String
  | .truncated offset needed =>
    s!"unexpected end of data: needed {Text.showNat needed} more bytes at offset {Text.showNat offset}"
  | .invalidField field value => s!"invalid value {Text.showInt value} for {field}"
  | .invalidString offset => s!"invalid string data at offset {Text.showNat offset}"

/-- A reader of bytes. -/
abbrev Reader := EStateM ReadError Cursor

namespace Reader

/-- What a reader makes of the bytes at a cursor. -/
def parse {α : Type} (read : Reader α) (c : Cursor) : Except ReadError (α × Cursor) :=
  match read c with
  | .ok a c' => .ok (a, c')
  | .error e _ => .error e

/-- The next `n` bytes. -/
def take (n : Nat) : Reader Bytes := fun c =>
  let taken := c.rest.take n
  if taken.length = n then .ok taken (c.advance n)
  else .error (.truncated c.position (n - taken.length)) c

/-- The next byte. -/
def byte : Reader UInt8 := fun c =>
  match c.rest with
  | [] => .error (.truncated c.position 1) c
  | b :: rest => .ok b ⟨c.position + 1, rest⟩

/-- The position of the cursor. -/
def position : Reader Nat := fun c => .ok c.position c

end Reader

end ProxyChain.Wire
