import ProxyChain.Wire.Cursor

/-!
# Integers on the wire

Signed integers take four or eight bytes, the most significant first. Lengths take one to five bytes
of seven bits each, the least significant first; every byte but the last has its high bit set.
-/

namespace ProxyChain.Wire

/-- The last `width` base-256 digits of `n`, most significant first. -/
def bigEndian : (width : Nat) → (n : Nat) → Bytes
  | 0, _ => []
  | width + 1, n => UInt8.ofNat (n / Nat.pow 256 width) :: bigEndian width n

/-- The number that base-256 digits stand for, most significant first. -/
def ofBigEndian (bytes : Bytes) : Nat := bytes.foldl (fun n b => n * 256 + b.toNat) 0

/-- A signed integer of 32 bits. -/
def writeInt32 (n : Int32) : Bytes := bigEndian 4 n.toUInt32.toNat

/-- A signed integer of 64 bits. -/
def writeInt64 (n : Int64) : Bytes := bigEndian 8 n.toUInt64.toNat

/-- A truth value as one byte. -/
def writeBool (b : Bool) : Bytes := [if b then 1 else 0]

/-- Seven bits a byte, least significant first. -/
def sevenBits (n : Nat) : Bytes :=
  if n < 128 then [UInt8.ofNat n] else UInt8.ofNat (n % 128 + 128) :: sevenBits (n / 128)
termination_by n
decreasing_by omega

/-- A length. -/
def writeLength (n : UInt32) : Bytes := sevenBits n.toNat

/-- Bytes behind their number. -/
def writeBlob (bytes : Bytes) : Bytes := writeLength (UInt32.ofNat bytes.length) ++ bytes

namespace Reader

/-- A signed integer of 32 bits. -/
def int32 : Reader Int32 := do
  return (UInt32.ofNat (ofBigEndian (← take 4))).toInt32

/-- A signed integer of 64 bits. -/
def int64 : Reader Int64 := do
  return (UInt64.ofNat (ofBigEndian (← take 8))).toInt64

/-- A truth value; every byte but zero is true. -/
def bool : Reader Bool := do
  return (← byte) != 0

/-- Where the bits of each byte of a length go. -/
def lengthShifts : List UInt32 := [0, 7, 14, 21, 28]

/-- The bytes of a length from `start` on, added to `sum`. Bits beyond the thirty-second are
dropped. -/
def lengthFrom (start : Nat) : (shifts : List UInt32) → (sum : UInt32) → Reader UInt32
  | [], _ => throw (.invalidField "varint" start)
  | shift :: shifts, sum => do
    let b ← byte
    let sum := sum ||| ((b &&& 0x7F).toUInt32 <<< shift)
    if b &&& 0x80 = 0 then pure sum else lengthFrom start shifts sum

/-- A length. -/
def length : Reader UInt32 := do
  lengthFrom (← position) lengthShifts 0

/-- Bytes behind their number. -/
def blob : Reader Bytes := do
  take (← length).toNat

/-- What a stored number means by `fit?`; a number without a meaning is an invalid value of
`field`. -/
def coded {α : Type} (field : String) (fit? : Int32 → Option α) : Reader α := do
  let n ← int32
  match fit? n with
  | some a => pure a
  | none => throw (.invalidField field n.toInt)

end Reader

end ProxyChain.Wire
