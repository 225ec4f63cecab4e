import ProxyChain.Proofs.Wire.Yields
import ProxyChain.Wire.Code
import Mathlib.Algebra.BigOperators.Ring.List
import Mathlib.Data.Nat.Bitwise
import Mathlib.Tactic.Ring

/-!
# Integers are read back

Integers of a fixed width and lengths are read back as they were written, whatever follows them, and an
integer that was read is written as the bytes it was read from (`of_int32`). The bits of a byte are taken
as arithmetic on its value first (`lowBits`, `bit_eq_zero_iff`); then `yields_lengthFrom` follows the
bytes of any length, with the sum of those before as its invariant. The bytes that are written for a
number declare it (`lengthValue_sevenBits`), so that nothing of it is lost.
A coded value is read back if its code leads back to it, which is the law of `LawfulCoded`.
-/

namespace ProxyChain.Wire

/-- The low bits of a byte are its remainder. -/
lemma lowBits (b : UInt8) {i : Nat} (fits : i < 8) :
    (b &&& UInt8.ofNat (2 ^ i - 1)).toNat = b.toNat % 2 ^ i := by
  have le : 2 ^ i ≤ 2 ^ 7 := Nat.pow_le_pow_right (by decide) (by omega)
  rw [UInt8.toNat_and, UInt8.toNat_ofNat', Nat.mod_eq_of_lt (by omega),
    Nat.and_two_pow_sub_one_eq_mod]

/-- One bit of a byte is clear when the quotient by its weight is even. -/
lemma bit_eq_zero_iff (b : UInt8) {i : Nat} (fits : i < 8) :
    b &&& UInt8.ofNat (2 ^ i) = 0 ↔ b.toNat / 2 ^ i % 2 = 0 := by
  have le : 2 ^ i ≤ 2 ^ 7 := Nat.pow_le_pow_right (by decide) (by omega)
  rw [← UInt8.toNat_inj, UInt8.toNat_and, UInt8.toNat_ofNat', Nat.mod_eq_of_lt (by omega),
    Nat.and_two_pow, Nat.testBit_eq_decide_div_mod_eq]
  have pos := Nat.two_pow_pos i
  by_cases odd : b.toNat / 2 ^ i % 2 = 1
  · simp [odd]
  · simp only [odd, decide_false, Bool.toNat_false, Nat.zero_mul]
    exact iff_of_true rfl (by omega)

/-- The high bit of a byte is clear when the byte is below 128. -/
lemma highBit_eq_zero_iff (b : UInt8) : b &&& 0x80 = 0 ↔ b.toNat < 128 := by
  have h := bit_eq_zero_iff b (i := 7) (by decide)
  have lt := b.toNat_lt
  rw [show (0x80 : UInt8) = UInt8.ofNat (2 ^ 7) from rfl, h]
  omega

/-- Digits in base 256 after a number give that number followed by them. -/
lemma foldl_bigEndian (width n acc : Nat) :
    (bigEndian width n).foldl (fun n b => n * 256 + b.toNat) acc
      = acc * 256 ^ width + n % 256 ^ width := by
  induction width generalizing acc with
  | zero => simp [bigEndian, Nat.mod_one]
  | succ width ih =>
    rw [bigEndian, List.foldl_cons, ih, Nat.mod_pow_succ, UInt8.toNat_ofNat']
    change (acc * 256 + n / 256 ^ width % 256) * 256 ^ width + n % 256 ^ width = _
    ring

/-- The digits of a number of that width give the number back. -/
lemma ofBigEndian_bigEndian {width n : Nat} (fits : n < 256 ^ width) :
    ofBigEndian (bigEndian width n) = n := by
  rw [ofBigEndian, foldl_bigEndian, Nat.zero_mul, Nat.zero_add, Nat.mod_eq_of_lt fits]

/-- The digits that a number is followed by are left out again by division. -/
lemma foldl_div (bytes : Bytes) (acc : Nat) :
    bytes.foldl (fun n b => n * 256 + b.toNat) acc / 256 ^ bytes.length = acc := by
  induction bytes generalizing acc with
  | nil => exact Nat.div_one acc
  | cons b bytes ih =>
    have := b.toNat_lt
    rw [List.foldl_cons, List.length_cons, Nat.pow_succ, ← Nat.div_div_eq_div_mul, ih]
    omega

/-- A number that is made of bytes is written as these. -/
lemma bigEndian_foldl (bytes : Bytes) (acc : Nat) :
    bigEndian bytes.length (bytes.foldl (fun n b => n * 256 + b.toNat) acc) = bytes := by
  induction bytes generalizing acc with
  | nil => rfl
  | cons b bytes ih =>
    have digit : UInt8.ofNat (acc * 256 + b.toNat) = b := by
      rw [← UInt8.toNat_inj, UInt8.toNat_ofNat']
      have := b.toNat_lt
      omega
    rw [List.foldl_cons, List.length_cons, bigEndian, ih]
    change UInt8.ofNat (_ / 256 ^ bytes.length) :: bytes = _
    rw [foldl_div, digit]

/-- The digits of the number that digits stand for are those digits. -/
lemma bigEndian_ofBigEndian (bytes : Bytes) : bigEndian bytes.length (ofBigEndian bytes) = bytes :=
  bigEndian_foldl bytes 0

/-- A number is written in as many bytes as it is wide. -/
@[simp] lemma length_bigEndian (width n : Nat) : (bigEndian width n).length = width := by
  induction width with
  | zero => rfl
  | succ width ih => rw [bigEndian, List.length_cons, ih]

/-- A number of 32 bits is written in four bytes. -/
@[simp] lemma length_writeInt32 (n : Int32) : (writeInt32 n).length = 4 := length_bigEndian 4 _

/-- The number that the bytes of a length declare: seven bits a byte, least significant first. -/
def lengthValue (bytes : Bytes) : Nat := (bytes.mapIdx fun i b => b.toNat % 128 * 2 ^ (7 * i)).sum

/-- No bytes have the value zero. -/
@[simp] lemma lengthValue_nil : lengthValue [] = 0 := rfl

/-- The first byte has the lowest bits of the value. -/
@[simp] lemma lengthValue_cons (b : UInt8) (bytes : Bytes) :
    lengthValue (b :: bytes) = b.toNat % 128 + 128 * lengthValue bytes := by
  have weight (i : Nat) (b : UInt8) :
      b.toNat % 128 * 2 ^ (7 * (i + 1)) = 128 * (b.toNat % 128 * 2 ^ (7 * i)) := by ring
  have later : (bytes.mapIdx fun i b => b.toNat % 128 * 2 ^ (7 * (i + 1))).sum
      = 128 * lengthValue bytes := by
    simp only [weight]
    rw [lengthValue, List.mapIdx_eq_zipIdx_map, List.mapIdx_eq_zipIdx_map]
    exact List.sum_map_mul_left _ _ _
  rw [lengthValue, List.mapIdx_cons, List.sum_cons, later, Nat.mul_zero, Nat.pow_zero, Nat.mul_one]

/-- The bytes of a length, at least one and at most so many. Every byte but the last has its high bit. -/
inductive IsLength : (most : Nat) → Bytes → Prop where
  | last {most : Nat} {b : UInt8} (low : b.toNat < 128) : IsLength (most + 1) [b]
  | more {most : Nat} {b : UInt8} {bytes : Bytes} (high : 128 ≤ b.toNat) (later : IsLength most bytes) :
    IsLength (most + 1) (b :: bytes)

/-- A number that has so many digits in base 128 is written as a length. -/
lemma isLength_sevenBits {n most : Nat} (fits : n < 128 ^ (most + 1)) :
    IsLength (most + 1) (sevenBits n) := by
  induction n using sevenBits.induct generalizing most with
  | case1 n lt =>
    rw [sevenBits, if_pos lt]
    refine .last ?_
    rw [UInt8.toNat_ofNat']
    omega
  | case2 n ge ih =>
    rw [sevenBits, if_neg ge]
    refine .more ?_ ?_
    · rw [UInt8.toNat_ofNat']
      omega
    · cases most with
      | zero => omega
      | succ most => exact ih (Nat.div_lt_of_lt_mul (by rwa [← Nat.pow_succ']))

/-- The bytes that are written for a number declare it. -/
lemma lengthValue_sevenBits (n : Nat) : lengthValue (sevenBits n) = n := by
  induction n using sevenBits.induct with
  | case1 n lt =>
    rw [sevenBits, if_pos lt, lengthValue_cons, lengthValue_nil, UInt8.toNat_ofNat']
    omega
  | case2 n ge ih =>
    rw [sevenBits, if_neg ge, lengthValue_cons, ih, UInt8.toNat_ofNat']
    omega

namespace Reader

/-- Digits are read as what is made of them. -/
lemma yields_digits {α : Type} (width n : Nat) (f : Bytes → α) :
    Yields (take width >>= fun bytes => pure (f bytes)) (bigEndian width n) (f (bigEndian width n)) := by
  have digits := Yields.take (bigEndian width n)
  rw [length_bigEndian] at digits
  exact digits.bind_pure

/-- A number of 32 bits is read as it is written. -/
lemma yields_int32 (n : Int32) : Yields int32 (writeInt32 n) n := by
  have value := yields_digits 4 n.toUInt32.toNat fun bytes => (UInt32.ofNat (ofBigEndian bytes)).toInt32
  rwa [ofBigEndian_bigEndian n.toUInt32.toNat_lt, UInt32.ofNat_toNat, Int32.toInt32_toUInt32] at value

/-- A number of 64 bits is read as it is written. -/
lemma yields_int64 (n : Int64) : Yields int64 (writeInt64 n) n := by
  have value := yields_digits 8 n.toUInt64.toNat fun bytes => (UInt64.ofNat (ofBigEndian bytes)).toInt64
  rwa [ofBigEndian_bigEndian n.toUInt64.toNat_lt, UInt64.ofNat_toNat, Int64.toInt64_toUInt64] at value

section Passed

variable {c c' : Cursor}

/-- What is made of a number of bytes. -/
lemma of_digits {α : Type} {width : Nat} {f : Bytes → α} {a : α}
    (made : (take width >>= fun bytes => pure (f bytes)) c = .ok a c') :
    ∃ bytes, c.rest = bytes ++ c'.rest ∧ bytes.length = width ∧ f bytes = a := by
  obtain ⟨bytes, between, taken, made⟩ := of_bind made
  obtain ⟨ahead, size⟩ := of_take taken
  cases made
  exact ⟨bytes, ahead, size, rfl⟩

/-- The bytes that an integer was read from are those that it is written with. -/
lemma of_int32 {n : Int32} (made : int32 c = .ok n c') : c.rest = writeInt32 n ++ c'.rest := by
  obtain ⟨bytes, ahead, size, rfl⟩ := of_digits made
  have small : ofBigEndian bytes < 256 ^ bytes.length :=
    Nat.lt_of_div_eq_zero (Nat.pow_pos (by decide)) (foldl_div bytes 0)
  rw [size] at small
  have digits : writeInt32 (UInt32.ofNat (ofBigEndian bytes)).toInt32 = bytes := by
    rw [writeInt32, UInt32.toUInt32_toInt32, UInt32.toNat_ofNat_of_lt' small, ← size,
      bigEndian_ofBigEndian]
  rw [digits, ahead]

end Passed

/-- A truth value is read as it is written. -/
lemma yields_bool (b : Bool) : Yields bool (writeBool b) b := by
  have value := (Yields.byte (if b then 1 else 0)).bind_pure (f := fun byte => byte != 0)
  cases b <;> exact value

/-- A byte without the high bit ends a length. -/
lemma yields_lengthFrom_last (start : Nat) (shift : UInt32) (shifts : List UInt32) (sum : UInt32)
    {b : UInt8} (last : b &&& 0x80 = 0) :
    Yields (lengthFrom start (shift :: shifts) sum) [b]
      (sum ||| ((b &&& 0x7F).toUInt32 <<< shift)) := by
  intro position rest
  change (if b &&& 0x80 = 0 then _ else _ : Reader UInt32) _ = _
  rw [if_pos last]
  rfl

/-- A byte with the high bit is followed by the rest of a length. -/
lemma yields_lengthFrom_more {start : Nat} {shift : UInt32} {shifts : List UInt32}
    {sum : UInt32} {b : UInt8} (more : ¬b &&& 0x80 = 0) {bytes : Bytes} {n : UInt32}
    (h : Yields (lengthFrom start shifts (sum ||| ((b &&& 0x7F).toUInt32 <<< shift))) bytes n) :
    Yields (lengthFrom start (shift :: shifts) sum) (b :: bytes) n := by
  intro position rest
  change (if b &&& 0x80 = 0 then _ else _ : Reader UInt32) _ = _
  rw [if_neg more, List.length_cons, Nat.add_comm bytes.length, ← Nat.add_assoc]
  exact h (position + 1) rest

/-- Seven bits on top of those read before are added with their weight, less those beyond 32. -/
lemma toNat_addBits {sum : UInt32} {k : Nat} (fits : k < 5) (below : sum.toNat < 2 ^ (7 * k))
    (b : UInt8) : (sum ||| ((b &&& 0x7F).toUInt32 <<< UInt32.ofNat (7 * k))).toNat
      = sum.toNat + b.toNat % 128 * 2 ^ (7 * k) % 2 ^ 32 := by
  have low : (b &&& 0x7F).toNat = b.toNat % 128 := lowBits b (i := 7) (by decide)
  have shift : (UInt32.ofNat (7 * k)).toNat % 32 = 7 * k := by
    rw [UInt32.toNat_ofNat']
    omega
  have weight : 2 ^ 32 = 2 ^ (32 - 7 * k) * 2 ^ (7 * k) := by
    rw [← Nat.pow_add]
    congr 1
    omega
  have or_eq := Nat.two_pow_add_eq_or_of_lt below (b.toNat % 128 % 2 ^ (32 - 7 * k))
  rw [UInt32.toNat_or, UInt32.toNat_shiftLeft, UInt8.toNat_toUInt32, low, shift, Nat.shiftLeft_eq,
    weight, Nat.mul_mod_mul_right, Nat.or_comm, Nat.mul_comm _ (2 ^ (7 * k)), ← or_eq, Nat.add_comm]

/-- Together they stay below the weight of the next bits. -/
lemma addBits_lt {sum : UInt32} {k : Nat} (fits : k < 5) (below : sum.toNat < 2 ^ (7 * k))
    (b : UInt8) : (sum ||| ((b &&& 0x7F).toUInt32 <<< UInt32.ofNat (7 * k))).toNat
      < 2 ^ (7 * (k + 1)) := by
  have weight : 2 ^ (7 * (k + 1)) = 128 * 2 ^ (7 * k) := by ring
  have most : b.toNat % 128 * 2 ^ (7 * k) ≤ 127 * 2 ^ (7 * k) := Nat.mul_le_mul_right _ (by omega)
  rw [toNat_addBits fits below, weight]
  omega

/-- The bits that are dropped do not count in 32 bits, whatever is added later. -/
lemma ofNat_addBits {sum : UInt32} {k : Nat} (fits : k < 5) (below : sum.toNat < 2 ^ (7 * k))
    (b : UInt8) (later : Nat) :
    UInt32.ofNat ((sum ||| ((b &&& 0x7F).toUInt32 <<< UInt32.ofNat (7 * k))).toNat + later)
      = UInt32.ofNat (sum.toNat + b.toNat % 128 * 2 ^ (7 * k) + later) := by
  rw [← UInt32.toNat_inj, UInt32.toNat_ofNat', UInt32.toNat_ofNat', toNat_addBits fits below]
  omega

/-- Each shift but the last is followed by the next one. -/
lemma drop_lengthShifts {k : Nat} (fits : k < 5) :
    lengthShifts.drop k = UInt32.ofNat (7 * k) :: lengthShifts.drop (k + 1) := by
  match k, fits with
  | 0, _ | 1, _ | 2, _ | 3, _ | 4, _ => rfl

/-- The bytes of a length from the `k`th on add to the sum of those before what they declare. -/
lemma yields_lengthFrom (start : Nat) {most k : Nat} {bytes : Bytes} {sum : UInt32}
    (isLength : IsLength most bytes) (places : k + most = 5) (below : sum.toNat < 2 ^ (7 * k)) :
    Yields (lengthFrom start (lengthShifts.drop k) sum) bytes
      (UInt32.ofNat (sum.toNat + lengthValue bytes * 2 ^ (7 * k))) := by
  -- Each byte hands its place and sum on to the next.
  induction isLength generalizing k sum with
  | @last most b low =>
    have fits : k < 5 := by omega
    have added := ofNat_addBits fits below b 0
    rw [Nat.add_zero, Nat.add_zero, UInt32.ofNat_toNat] at added
    rw [drop_lengthShifts fits, lengthValue_cons, lengthValue_nil, Nat.mul_zero,
      Nat.add_zero (b.toNat % 128), ← added]
    exact yields_lengthFrom_last _ _ _ _ ((highBit_eq_zero_iff b).2 low)
  | @more most b bytes high later ih =>
    have fits : k < 5 := by omega
    have more : ¬b &&& 0x80 = 0 := by
      rw [highBit_eq_zero_iff]
      omega
    have split : lengthValue (b :: bytes) * 2 ^ (7 * k)
        = b.toNat % 128 * 2 ^ (7 * k) + lengthValue bytes * 2 ^ (7 * (k + 1)) := by
      rw [lengthValue_cons]
      ring
    rw [drop_lengthShifts fits, split, ← Nat.add_assoc, ← ofNat_addBits fits below]
    apply yields_lengthFrom_more more
    exact ih (by omega) (addBits_lt fits below b)

/-- The bytes of a length give the number that they declare, as far as it fits. -/
lemma yields_length_of_isLength {bytes : Bytes} (isLength : IsLength 5 bytes) :
    Yields length bytes (UInt32.ofNat (lengthValue bytes)) := by
  apply Yields.position_bind
  intro start
  have h := yields_lengthFrom start isLength (Nat.zero_add 5)
    (by decide : (0 : UInt32).toNat < 2 ^ (7 * 0))
  rwa [Nat.mul_zero, Nat.pow_zero, Nat.mul_one, UInt32.toNat_zero, Nat.zero_add] at h

/-- A length is read as it is written. -/
lemma yields_length (n : UInt32) : Yields length (writeLength n) n := by
  have fits : n.toNat < 128 ^ (4 + 1) := Nat.lt_of_lt_of_le n.toNat_lt (by decide)
  have h := yields_length_of_isLength (isLength_sevenBits fits)
  rwa [lengthValue_sevenBits, UInt32.ofNat_toNat] at h

/-- Bytes are read as they are written, with their length in front. -/
lemma yields_blob {bytes : Bytes} (fits : bytes.length < 2 ^ 32) :
    Yields blob (writeBlob bytes) bytes := by
  have size : (UInt32.ofNat bytes.length).toNat = bytes.length := by
    rw [UInt32.toNat_ofNat', Nat.mod_eq_of_lt fits]
  apply (yields_length _).bind
  rw [size]
  exact .take bytes

/-- A stored number that means something is read back as its meaning. -/
lemma yields_coded {α : Type} (field : String) {fit? : Int32 → Option α} {n : Int32} {a : α}
    (fits : fit? n = some a) : Yields (coded field fit?) (writeInt32 n) a := by
  rw [← List.append_nil (writeInt32 n)]
  apply (yields_int32 n).bind
  rw [fits]
  exact .pure a

end Reader

/-- A type whose values are the meanings of their own codes. -/
class LawfulCoded (α : Type) [Coded α] : Prop where
  /-- A code leads back to the value it stands for. -/
  ofCode?_code : ∀ a : α, Coded.ofCode? (Coded.code a) = some a

/-- A coded value is read back. -/
lemma Reader.yields_codedField {α : Type} [Coded α] [LawfulCoded α] (field : String) (a : α) :
    Yields (codedField field) (writeCoded a) a :=
  yields_coded field (LawfulCoded.ofCode?_code a)

end ProxyChain.Wire
