import ProxyChain.Rounds
import ProxyChain.Wire.Cursor

/-!
# Reading bits

Bits are taken from each byte starting with the least significant one. A number of several bits comes
least significant bit first.
-/

namespace ProxyChain.Zlib

open Wire

/-- The bits left of the byte that reading stands in, and the bytes after it. -/
structure BitCursor where
  pending : List Bool
  rest : Bytes
  deriving DecidableEq, Repr

/-- A reader of bits; there are no kinds of failure to tell apart. -/
abbrev BitReader := StateT BitCursor Option

namespace BitCursor

/-- In front of the first bit. -/
def start (bytes : Bytes) : BitCursor := ⟨[], bytes⟩

/-- How many bits are ahead. -/
def remaining (c : BitCursor) : Nat := c.pending.length + 8 * c.rest.length

end BitCursor

/-- The bits of a byte, least significant first. -/
def byteBits (b : UInt8) : List Bool := (List.range 8).map fun i => b.toNat.testBit i

namespace BitReader

/-- The next bit. -/
def bit : BitReader Bool := fun c =>
  match c.pending, c.rest with
  | b :: pending, rest => some (b, ⟨pending, rest⟩)
  | [], byte :: rest =>
    match byteBits byte with
    | b :: pending => some (b, ⟨pending, rest⟩)
    | [] => none
  | [], [] => none

/-- A number of `n` bits. -/
def number : (n : Nat) → BitReader Nat
  | 0 => pure 0
  | n + 1 => do
    let low ← bit
    let high ← number n
    return low.toNat + 2 * high

/-- Drops what is left of the byte that reading stands in. -/
def align : BitReader Unit := fun c => some ((), { c with pending := [] })

/-- The next `n` bytes, at a byte's start. -/
def bytes (n : Nat) : BitReader Bytes := fun c =>
  let taken := c.rest.take n
  if taken.length = n then some (taken, { c with rest := c.rest.drop n }) else none

/-- Repeats `step` until it gives a result. Each round has to read a bit. -/
def loop {σ β : Type} (step : σ → BitReader (σ ⊕ β)) (s : σ) : BitReader β :=
  fun c => rounds failure step (c.remaining + 1) s c

end BitReader

end ProxyChain.Zlib
