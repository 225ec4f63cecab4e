import ProxyChain.Zlib.Huffman

/-!
# Inflating

A deflated text is a sequence of blocks, the last one marked: bytes stored as they are, or symbols in
a fixed code or one described in front of them. A symbol is a byte, the end of the block, or the
length of a piece that already came, whose distance follows.
-/

namespace ProxyChain.Zlib

open Wire

/-- The base and number of extra bits of a length symbol, counted from the first one. -/
def lengthCodes : List (Nat × Nat) :=
  [(3, 0), (4, 0), (5, 0), (6, 0), (7, 0), (8, 0), (9, 0), (10, 0), (11, 1), (13, 1), (15, 1),
   (17, 1), (19, 2), (23, 2), (27, 2), (31, 2), (35, 3), (43, 3), (51, 3), (59, 3), (67, 4),
   (83, 4), (99, 4), (115, 4), (131, 5), (163, 5), (195, 5), (227, 5), (258, 0)]

/-- The base and number of extra bits of a distance symbol. -/
def distanceCodes : List (Nat × Nat) :=
  [(1, 0), (2, 0), (3, 0), (4, 0), (5, 1), (7, 1), (9, 2), (13, 2), (17, 3), (25, 3), (33, 4),
   (49, 4), (65, 5), (97, 5), (129, 6), (193, 6), (257, 7), (385, 7), (513, 8), (769, 8),
   (1025, 9), (1537, 9), (2049, 10), (3073, 10), (4097, 11), (6145, 11), (8193, 12), (12289, 12),
   (16385, 13), (24577, 13)]

/-- The symbol that ends a block. -/
def endOfBlock : Nat := 256

/-- The order in which the lengths of the code for codeword lengths are given. -/
def lengthOrder : List Nat := [16, 17, 18, 0, 8, 7, 9, 6, 10, 5, 11, 4, 12, 3, 13, 2, 14, 1, 15]

/-- The codeword lengths of the fixed code for bytes and lengths. -/
def fixedLengths : List Nat :=
  List.replicate 144 8 ++ List.replicate 112 9 ++ List.replicate 24 7 ++ List.replicate 8 8

/-- The codeword lengths of the fixed code for distances. -/
def fixedDistances : List Nat := List.replicate 32 5

/-- A base and the extra bits on top of it. -/
def extended (codes : List (Nat × Nat)) (symbol : Nat) : BitReader Nat := do
  match codes[symbol]? with
  | none => failure
  | some (base, extra) => return base + (← BitReader.number extra)

/-- The byte `distance` back. The window starts out with zeros, which stand in front of the text. -/
def byteBack (distance : Nat) (out : Array UInt8) : UInt8 :=
  if distance ≤ out.size then (out[out.size - distance]?).getD 0 else 0

/-- Repeats `length` bytes from `distance` bytes back; the copy may reach into itself. -/
def copyBack (distance : Nat) : (length : Nat) → Array UInt8 → Array UInt8
  | 0, out => out
  | length + 1, out => copyBack distance length (out.push (byteBack distance out))

/-- One symbol of a block; gives the result at the end of the block. -/
def symbol (bytes distances : CodeTree) (out : Array UInt8) :
    BitReader (Array UInt8 ⊕ Array UInt8) := do
  let s ← bytes.read
  if s < endOfBlock then return .inl (out.push (UInt8.ofNat s))
  if s = endOfBlock then return .inr out
  let length ← extended lengthCodes (s - endOfBlock - 1)
  let distance ← extended distanceCodes (← distances.read)
  return .inl (copyBack distance length out)

/-- A block of bytes stored as they are. -/
def storedBlock (out : Array UInt8) : BitReader (Array UInt8) := do
  BitReader.align
  let length ← BitReader.number 16
  let complement ← BitReader.number 16
  if length + complement = 0xFFFF then return out ++ (← BitReader.bytes length) else failure

/-- One step in reading the codeword lengths of a block, last one first; done at `count` of them. -/
def codewordLength (code : CodeTree) (count : Nat) (lengths : List Nat) :
    BitReader (List Nat ⊕ List Nat) := do
  if count ≤ lengths.length then
    if lengths.length = count then return .inr lengths.reverse else failure
  let s ← code.read
  if s < 16 then return .inl (s :: lengths)
  if s = 16 then
    match lengths with
    | [] => failure
    | last :: _ => return .inl (List.replicate (3 + (← BitReader.number 2)) last ++ lengths)
  if s = 17 then return .inl (List.replicate (3 + (← BitReader.number 3)) 0 ++ lengths)
  return .inl (List.replicate (11 + (← BitReader.number 7)) 0 ++ lengths)

/-- The lengths, three bits each, of the first `count` codes for codeword lengths. -/
def metaLengths (count : Nat) : BitReader (List Nat) := do
  let given ← (lengthOrder.take count).mapM fun i => do return (i, ← BitReader.number 3)
  return (List.range 19).map fun i => (given.lookup i).getD 0

/-- The codes for bytes and distances described in front of a block. A block that describes more
symbols than there are bytes and lengths, or distances, is none. -/
def describedCodes : BitReader (CodeTree × CodeTree) := do
  let bytes := 257 + (← BitReader.number 5)
  let distances := 1 + (← BitReader.number 5)
  let given := 4 + (← BitReader.number 4)
  guard (bytes ≤ 257 + lengthCodes.length ∧ distances ≤ distanceCodes.length)
  match codeOf? false (← metaLengths given) with
  | none => failure
  | some code =>
    let lengths ← BitReader.loop (codewordLength code (bytes + distances)) []
    match codeOf? true (lengths.take bytes), codeOf? true (lengths.drop bytes) with
    | some b, some d => return (b, d)
    | _, _ => failure

/-- One block; gives the result after the last one. -/
def block (out : Array UInt8) : BitReader (Array UInt8 ⊕ Array UInt8) := do
  let last ← BitReader.bit
  let out ← match ← BitReader.number 2 with
    | 0 => storedBlock out
    | 1 =>
      match codeOf? true fixedLengths, codeOf? true fixedDistances with
      | some b, some d => BitReader.loop (symbol b d) out
      | _, _ => failure
    | 2 => do
      let (b, d) ← describedCodes
      BitReader.loop (symbol b d) out
    | _ => failure
  return if last then .inr out else .inl out

/-- The bytes of a deflated text. -/
def inflate : BitReader Bytes := do
  return (← BitReader.loop block #[]).toList

end ProxyChain.Zlib
