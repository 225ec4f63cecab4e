import ProxyChain.Proofs.Wire.Integer
import ProxyChain.Zlib.Stream

/-!
# Streams of stored blocks are read back

`Reads read bytes a` says that `read`, at the start of a byte, makes `a` of `bytes` and passes them and
no others. Numbers of whole bytes, stored blocks and sequences of them are read back, and with them
every stream that is written (`decompress?_compress`).
-/

namespace ProxyChain.Zlib

open Wire

namespace BitReader

/-- The number that bits stand for, least significant first. -/
def ofBits : List Bool → Nat
  | [] => 0
  | b :: bits => b.toNat + 2 * ofBits bits

/-- The bits of a number give its remainder. -/
lemma ofBits_testBit (n width : Nat) : ofBits ((List.range width).map n.testBit) = n % 2 ^ width := by
  induction width generalizing n with
  | zero => exact (Nat.mod_one n).symm
  | succ width ih =>
    have low : (n.testBit 0).toNat = n % 2 := by
      rw [Nat.testBit_zero]
      cases Nat.mod_two_eq_zero_or_one n with
      | inl even => rw [even]; rfl
      | inr odd => rw [odd]; rfl
    have high : (List.range width).map (n.testBit ∘ Nat.succ)
        = (List.range width).map (n / 2).testBit :=
      List.map_congr_left fun i _ => Nat.testBit_succ n i
    rw [List.range_succ_eq_map, List.map_cons, List.map_map, high, ofBits, ih, low, Nat.pow_succ',
      Nat.mod_mul]

/-- The bits of a byte give its value. -/
lemma ofBits_byteBits (b : UInt8) : ofBits (byteBits b) = b.toNat := by
  rw [byteBits, ofBits_testBit]
  exact Nat.mod_eq_of_lt b.toNat_lt

/-- A number starts with the bits that are pending. -/
lemma number_pending {n high : Nat} {rest : Bytes} {c : BitCursor} (bits : List Bool)
    (read : number n ⟨[], rest⟩ = some (high, c)) :
    number (bits.length + n) ⟨bits, rest⟩ = some (ofBits bits + 2 ^ bits.length * high, c) := by
  induction bits with
  | nil =>
    rw [List.length_nil, Nat.zero_add, read, ofBits, Nat.zero_add, Nat.pow_zero, Nat.one_mul]
  | cons b bits ih =>
    have length : (b :: bits).length + n = (bits.length + n) + 1 := by
      rw [List.length_cons]
      omega
    have value : b.toNat + 2 * (ofBits bits + 2 ^ bits.length * high)
        = ofBits (b :: bits) + 2 ^ (b :: bits).length * high := by
      rw [ofBits, List.length_cons, Nat.pow_succ', Nat.mul_add, Nat.mul_assoc, Nat.add_assoc]
    rw [length, ← value]
    change (number (bits.length + n) ⟨bits, rest⟩).bind
      (fun (high, c) => some (b.toNat + 2 * high, c)) = _
    rw [ih]
    rfl

/-- A number goes on with the bits of the next byte. -/
lemma number_byte {n high : Nat} {rest : Bytes} {c : BitCursor} (b : UInt8)
    (read : number n ⟨[], rest⟩ = some (high, c)) :
    number (8 + n) ⟨[], b :: rest⟩ = some (b.toNat + 256 * high, c) := by
  have eight : (byteBits b).length = 8 := by rw [byteBits, List.length_map, List.length_range]
  have pending := number_pending (byteBits b) read
  rw [ofBits_byteBits, eight] at pending
  have same : number (8 + n) ⟨[], b :: rest⟩ = number (8 + n) ⟨byteBits b, rest⟩ := by
    rw [Nat.add_comm]
    rfl
  rw [same]
  exact pending

/-- A read that succeeds goes on with the next one. -/
lemma bind_eq {α β : Type} {read : BitReader α} {next : α → BitReader β} {a : α} {c c' : BitCursor}
    (h : read c = some (a, c')) : (read >>= next) c = next a c' := by
  change (read c).bind (fun (a, c) => next a c) = _
  rw [h]
  rfl

/-- At the start of a byte a reader makes a value of some bytes, passing those and no others. -/
def Reads {α : Type} (read : BitReader α) (bytes : Bytes) (a : α) : Prop :=
  ∀ rest, read ⟨[], bytes ++ rest⟩ = some (a, ⟨[], rest⟩)

namespace Reads

variable {α β : Type}

/-- A value is read from no bytes. -/
lemma pure (a : α) : Reads (Pure.pure a) [] a := fun _ => rfl

/-- Two reads in turn take their bytes in turn. -/
lemma bind {read : BitReader α} {next : α → BitReader β} {bytes bytes' : Bytes} {a : α} {b : β}
    (h : Reads read bytes a) (h' : Reads (next a) bytes' b) :
    Reads (read >>= next) (bytes ++ bytes') b := by
  intro rest
  rw [List.append_assoc, bind_eq (h _)]
  exact h' rest

/-- Nothing is skipped at the start of a byte. -/
lemma align : Reads BitReader.align [] () := fun _ => rfl

/-- A byte is read as its value. -/
lemma byte (b : UInt8) : Reads (number 8) [b] b.toNat := by
  intro rest
  exact number_byte b (rfl : number 0 ⟨[], rest⟩ = some (0, ⟨[], rest⟩))

/-- Bytes are read as they are. -/
lemma bytes (bytes : Bytes) : Reads (BitReader.bytes bytes.length) bytes bytes := by
  intro rest
  rw [BitReader.bytes, List.take_left, if_pos rfl, List.drop_left]

/-- A number of 16 bits is read as it is written. -/
lemma uint16 {n : Nat} (fits : n < 65536) : Reads (number 16) (writeUInt16 n) n := by
  intro rest
  have high := byte (UInt8.ofNat (n / 256)) rest
  have both := number_byte (UInt8.ofNat n) high
  have value : (UInt8.ofNat n).toNat + 256 * (UInt8.ofNat (n / 256)).toNat = n := by
    rw [UInt8.toNat_ofNat', UInt8.toNat_ofNat']
    omega
  rw [value] at both
  have written : writeUInt16 n = [UInt8.ofNat n, UInt8.ofNat (n / 256)] := by
    simp [writeUInt16, bigEndian]
  rw [written]
  exact both

end Reads

end BitReader

open BitReader

/-- A stored block holds its bytes. -/
lemma reads_storedBlock {bytes : Bytes} (fits : bytes.length ≤ largestBlock) (out : Array UInt8) :
    Reads (storedBlock out)
      (writeUInt16 bytes.length ++ (writeUInt16 (largestBlock - bytes.length) ++ bytes))
      (out ++ bytes) := by
  unfold storedBlock
  have length : bytes.length < 65536 := Nat.lt_succ_of_le fits
  have complement : largestBlock - bytes.length < 65536 := Nat.lt_succ_of_le (Nat.sub_le _ _)
  refine Reads.align.bind ((Reads.uint16 length).bind ((Reads.uint16 complement).bind ?_))
  have sum : bytes.length + (largestBlock - bytes.length) = 0xFFFF := Nat.add_sub_cancel' fits
  rw [if_pos sum]
  have content : Reads (BitReader.bytes bytes.length >>= fun more => pure (out ++ more))
      (bytes ++ []) (out ++ bytes) := (Reads.bytes bytes).bind (.pure (out ++ bytes))
  rwa [List.append_nil] at content

/-- Of the first byte of a stored block three bits count: the mark of the last one, and two zeros. -/
lemma block_stored {out out' : Array UInt8} {rest : Bytes} {c : BitCursor} (last : Bool)
    (content : storedBlock out ⟨[], rest⟩ = some (out', c)) :
    block out ⟨[], (if last then 1 else 0) :: rest⟩
      = some (if last then .inr out' else .inl out', c) := by
  have bits : byteBits (if last then 1 else 0) = last :: List.replicate 7 false := by
    cases last <;> decide
  have mark : bit ⟨[], (if last then 1 else 0) :: rest⟩
      = some (last, ⟨List.replicate 7 false, rest⟩) := by
    dsimp only [bit]
    rw [bits]
  have kind : number 2 ⟨List.replicate 7 false, rest⟩ = some (0, ⟨List.replicate 5 false, rest⟩) := rfl
  have aligned : storedBlock out ⟨List.replicate 5 false, rest⟩ = some (out', c) := content
  rw [block, bind_eq mark, bind_eq kind]
  refine (bind_eq aligned).trans ?_
  cases last <;> rfl

/-- A stored block is read as its bytes, behind those before. -/
lemma reads_block {bytes : Bytes} (fits : bytes.length ≤ largestBlock) (last : Bool)
    (out : Array UInt8) :
    Reads (block out) (writeBlock last bytes)
      (if last then .inr (out ++ bytes) else .inl (out ++ bytes)) := by
  intro rest
  have content := reads_storedBlock fits out rest
  rw [writeBlock, List.cons_append, List.append_assoc, List.cons_append]
  exact block_stored last content

/-- Blocks are read one after the other. -/
lemma reads_blocks {bytes : Bytes} {fuel : Nat} (enough : bytes.length < fuel) (out : Array UInt8) :
    Reads (rounds failure block fuel out) (writeBlocks bytes) (out ++ bytes) := by
  -- One round a block; a block that is not the last one holds bytes, so these bound the rounds.
  fun_induction writeBlocks bytes generalizing fuel out with
  | case1 bytes fits =>
    cases fuel with
    | zero => cases enough
    | succ fuel =>
      rw [← List.append_nil (writeBlock true bytes)]
      exact (reads_block fits true out).bind (.pure _)
  | case2 bytes more ih =>
    cases fuel with
    | zero => cases enough
    | succ fuel =>
      have fits : (bytes.take largestBlock).length ≤ largestBlock := List.length_take_le _ _
      have shorter : (bytes.drop largestBlock).length < fuel := by
        rw [List.length_drop]
        unfold largestBlock at *
        omega
      have whole : out ++ bytes = out ++ bytes.take largestBlock ++ bytes.drop largestBlock := by
        refine Array.toList_inj.1 ?_
        rw [Array.toList_appendList, Array.toList_appendList, Array.toList_appendList,
          List.append_assoc, List.take_append_drop]
      rw [whole]
      exact (reads_block fits false out).bind (ih shorter _)

/-- Blocks are no shorter than the bytes that they store. -/
lemma length_le_writeBlocks (bytes : Bytes) : bytes.length ≤ (writeBlocks bytes).length := by
  fun_induction writeBlocks bytes with
  | case1 bytes fits =>
    rw [writeBlock, List.length_append]
    exact Nat.le_add_left _ _
  | case2 bytes more ih =>
    rw [writeBlock, List.length_append, List.length_append, List.length_take]
    rw [List.length_drop] at ih
    omega

/-- Blocks are read as the bytes that they store. -/
lemma reads_inflate (bytes : Bytes) : Reads inflate (writeBlocks bytes) bytes := by
  intro rest
  have enough : bytes.length < (BitCursor.mk [] (writeBlocks bytes ++ rest)).remaining + 1 := by
    have := length_le_writeBlocks bytes
    rw [BitCursor.remaining, List.length_append]
    omega
  have content : loop block #[] ⟨[], writeBlocks bytes ++ rest⟩ = some (#[] ++ bytes, ⟨[], rest⟩) :=
    reads_blocks enough #[] rest
  rw [inflate, bind_eq content, Array.toList_appendList]
  rfl

/-- Both sums of a checksum are below its modulus. -/
lemma sums_lt (bytes : Bytes) :
    (sums bytes).1 < checksumModulus ∧ (sums bytes).2 < checksumModulus := by
  let Small (s : Nat × Nat) : Prop := s.1 < checksumModulus ∧ s.2 < checksumModulus
  refine List.foldlRecOn (motive := Small) bytes _ ⟨by decide, by decide⟩ fun s _ byte _ => ?_
  exact ⟨Nat.mod_lt _ (by decide), Nat.mod_lt _ (by decide)⟩

/-- A checksum fits in four bytes. -/
lemma checksum_lt (bytes : Bytes) : checksum bytes < 256 ^ 4 := by
  have := sums_lt bytes
  unfold checksum checksumModulus at *
  omega

/-- A stream is read as the bytes that were compressed. -/
lemma reads_stream (bytes : Bytes) : Reads stream (compress bytes) bytes := by
  have trailer : Reads (BitReader.bytes 4) (bigEndian 4 (checksum bytes))
      (bigEndian 4 (checksum bytes)) := by
    have h := Reads.bytes (bigEndian 4 (checksum bytes))
    rwa [length_bigEndian] at h
  have header : isHeader (0x78 : UInt8).toNat (0x01 : UInt8).toNat = true := by decide
  have parts : compress bytes =
      [0x78] ++ ([0x01] ++ (writeBlocks bytes ++ ([] ++ (bigEndian 4 (checksum bytes) ++ [])))) := by
    simp [compress]
  rw [parts]
  refine (Reads.byte 0x78).bind ((Reads.byte 0x01).bind ?_)
  rw [if_pos header]
  refine (reads_inflate bytes).bind (Reads.align.bind (trailer.bind ?_))
  rw [if_pos (ofBigEndian_bigEndian (checksum_lt bytes))]
  exact .pure bytes

/-- A stream that was written is read back. -/
theorem decompress?_compress (bytes : Bytes) : decompress? (compress bytes) = some bytes := by
  have read := reads_stream bytes []
  rw [List.append_nil] at read
  rw [decompress?, BitCursor.start, read]
  rfl

end ProxyChain.Zlib
