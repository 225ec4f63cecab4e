import ProxyChain.Wire.Integer
import ProxyChain.Zlib.Inflate

/-!
# Zlib streams

Two bytes of header, a deflated text, and a checksum of what it inflates to. Writing stores the bytes
in blocks as they are; reading takes every form of block. Bytes after the checksum are ignored.
-/

namespace ProxyChain.Zlib

open Wire

/-- The modulus of the checksum. -/
def checksumModulus : Nat := 65521

/-- The running sums of bytes and of their sums. -/
def sums (bytes : Bytes) : Nat × Nat :=
  bytes.foldl (fun (a, b) byte =>
    let a := (a + byte.toNat) % checksumModulus
    (a, (b + a) % checksumModulus)) (1, 0)

/-- The Adler-32 checksum. -/
def checksum (bytes : Bytes) : Nat := (sums bytes).2 * 0x10000 + (sums bytes).1

/-- The most bytes that a stored block holds. -/
def largestBlock : Nat := 0xFFFF

/-- A number in two bytes, the least significant first. -/
def writeUInt16 (n : Nat) : Bytes := (bigEndian 2 n).reverse

/-- A stored block. -/
def writeBlock (last : Bool) (bytes : Bytes) : Bytes :=
  (if last then 1 else 0) :: writeUInt16 bytes.length ++
    writeUInt16 (largestBlock - bytes.length) ++ bytes

/-- Bytes in stored blocks. -/
def writeBlocks (bytes : Bytes) : Bytes :=
  if bytes.length ≤ largestBlock then writeBlock true bytes
  else writeBlock false (bytes.take largestBlock) ++ writeBlocks (bytes.drop largestBlock)
termination_by bytes.length
decreasing_by simp [largestBlock] at *; omega

/-- A stream of the bytes. -/
def compress (bytes : Bytes) : Bytes :=
  [0x78, 0x01] ++ writeBlocks bytes ++ bigEndian 4 (checksum bytes)

/-- Whether two bytes start a stream: the method is deflate with a window of at most 32768 bytes,
no dictionary is presumed, and the bytes read as a number are a multiple of 31. -/
def isHeader (method flags : Nat) : Bool :=
  method % 16 == 8 && method / 16 ≤ 7 && (method * 256 + flags) % 31 == 0 && !flags.testBit 5

/-- Reads a stream. -/
def stream : BitReader Bytes := do
  let method ← BitReader.number 8
  let flags ← BitReader.number 8
  if isHeader method flags then
    let bytes ← inflate
    BitReader.align
    let check ← BitReader.bytes 4
    if ofBigEndian check = checksum bytes then return bytes else failure
  else failure

/-- The bytes in a stream. -/
def decompress? (bytes : Bytes) : Option Bytes := (stream (.start bytes)).map Prod.fst

end ProxyChain.Zlib
