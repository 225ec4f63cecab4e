import ProxyChain.Proofs.Wire.Text
import ProxyChain.Wire.Value

/-!
# Values are read back

Values that are written one after the other are read back by their types, and nothing of what follows
them is touched (`Value.readAll_writeAll`). No reader looks for an end: the bytes of each value tell how
many they are (`yields_read`), so that one value after another is enough for any number of them. Every
length among these bytes, be it a value of its own or in front of a blob or a string, is the shortest one
of its number (`Value.Written`).
-/

namespace ProxyChain.Wire

/-- The bytes of a length that declare a number, which no fewer bytes declare. -/
structure Shortest (n : Nat) (bytes : Bytes) : Prop where
  isLength : IsLength 5 bytes
  declares : lengthValue bytes = n
  least : ∀ most other, IsLength most other → lengthValue other = n → bytes.length ≤ other.length

/-- However the bytes of a length declare a number, it is written in no more of them. -/
lemma length_sevenBits_le {most : Nat} {bytes : Bytes} (isLength : IsLength most bytes) :
    (sevenBits (lengthValue bytes)).length ≤ bytes.length := by
  induction isLength with
  | @last most b low =>
    rw [lengthValue_cons, lengthValue_nil, sevenBits, if_pos (by omega)]
    exact Nat.le_refl 1
  | @more most b bytes high later ih =>
    rw [lengthValue_cons, sevenBits]
    split
    · exact Nat.succ_le_succ (Nat.zero_le _)
    · -- The bytes behind the first one declare what is left of the number.
      have rest : (b.toNat % 128 + 128 * lengthValue bytes) / 128 = lengthValue bytes := by omega
      rw [rest]
      exact Nat.succ_le_succ ih

/-- A number in groups of seven bits is as short as it can be. -/
lemma shortest_sevenBits {n : Nat} (fits : n < 2 ^ 32) : Shortest n (sevenBits n) where
  isLength := isLength_sevenBits (Nat.lt_of_lt_of_le fits (by decide))
  declares := lengthValue_sevenBits n
  least := by
    rintro most other isLength rfl
    exact length_sevenBits_le isLength

/-- A length is written as short as it can be. -/
lemma shortest_writeLength (n : UInt32) : Shortest n.toNat (writeLength n) :=
  shortest_sevenBits n.toNat_lt

namespace Value

/-- The length of a blob and the count of a string have to fit 32 bits. -/
def Fits : Value → Prop
  | blob bytes => bytes.length < 2 ^ 32
  | string s? => ∀ s ∈ s?, Writable s
  | int32 _ | int64 _ | bool _ | length _ => True

/-- The bytes that stand for a value. Every length among them is the shortest one of its number. -/
inductive Written : Value → Bytes → Prop where
  | int32 {n : Int32} {bytes : Bytes} (width : bytes.length = 4)
    (digits : ofBigEndian bytes = n.toUInt32.toNat) : Written (int32 n) bytes
  | int64 {n : Int64} {bytes : Bytes} (width : bytes.length = 8)
    (digits : ofBigEndian bytes = n.toUInt64.toNat) : Written (int64 n) bytes
  | bool {b : Bool} {byte : UInt8} (one : byte = if b then 1 else 0) : Written (bool b) [byte]
  | length {n : UInt32} {bytes : Bytes} (shortest : Shortest n.toNat bytes) : Written (length n) bytes
  | blob {bytes size : Bytes} (shortest : Shortest bytes.length size) : Written (blob bytes) (size ++ bytes)
  | absent : Written (string none) [0x80]
  | short {s : String} {first : UInt8} (few : s.length + 1 < 64)
    (count : first.toNat = 128 + (s.length + 1)) : Written (string s) (first :: utf8 s)
  | long {s : String} {first : UInt8} {high : Bytes} (many : 64 ≤ s.length + 1)
    (low : first.toNat = 192 + (s.length + 1) % 64) (shortest : Shortest ((s.length + 1) / 64) high) :
    Written (string s) (first :: (high ++ utf8 s))

/-- A text is written with its length in front, as short as that can be. -/
lemma written_string {s : String} (fits : Writable s) : Written (string s) (writeString s) := by
  have count := toNat_count fits
  by_cases few : s.length + 1 < 64
  · obtain ⟨first, written, lead⟩ := writeCount_of_lt (count.trans_lt few)
    rw [writeString, written]
    rw [count] at lead
    exact .short few lead
  · have many := Nat.not_lt.1 few
    obtain ⟨first, written, lead⟩ := writeCount_of_le (count ▸ many)
    have high : (s.length + 1) / 64 < 2 ^ 32 := by
      change s.length < 2 ^ 32 - 1 at fits
      omega
    rw [writeString, written]
    rw [count] at lead ⊢
    exact .long many lead (shortest_sevenBits high)

/-- The bytes that are written for a value stand for it. -/
lemma written_write {v : Value} (fits : v.Fits) : Written v v.write := by
  cases v with
  | int32 n => exact .int32 (length_writeInt32 n) (ofBigEndian_bigEndian n.toUInt32.toNat_lt)
  | int64 n => exact .int64 (length_bigEndian 8 _) (ofBigEndian_bigEndian n.toUInt64.toNat_lt)
  | bool b => exact .bool rfl
  | length n => exact .length (shortest_writeLength n)
  | blob bytes =>
    have size := shortest_writeLength (UInt32.ofNat bytes.length)
    rw [UInt32.toNat_ofNat_of_lt' fits] at size
    exact .blob size
  | string s? =>
    cases s? with
    | none => exact .absent
    | some s => exact written_string (fits s rfl)

/-- A value is read back by its type. -/
lemma yields_read {v : Value} (fits : v.Fits) : Reader.Yields v.shape.read v.write v := by
  cases v with
  | int32 n => exact (Reader.yields_int32 n).map Value.int32
  | int64 n => exact (Reader.yields_int64 n).map Value.int64
  | bool b => exact (Reader.yields_bool b).map Value.bool
  | length n => exact (Reader.yields_length n).map Value.length
  | blob bytes => exact (Reader.yields_blob fits).map Value.blob
  | string s? => exact (Reader.yields_string? fits).map Value.string

/-- Values are read back one after the other. -/
lemma yields_readAll {values : List Value} (fits : ∀ v ∈ values, v.Fits) :
    Reader.Yields (Shape.readAll (values.map shape)) (writeAll values) values := by
  induction values with
  | nil => exact .pure []
  | cons v values ih =>
    have rest := ih fun v mem => fits v (List.mem_cons_of_mem _ mem)
    exact (yields_read (fits v List.mem_cons_self)).bind rest.bind_pure

/-- Values that can be written are read back as they were, wherever they stand and whatever follows them, and
nothing of what follows is passed. Their bytes are those that stand for them, in which every length is the
shortest one of its number, as it is for all numbers of 32 bits. -/
theorem readAll_writeAll {values : List Value} (fits : ∀ v ∈ values, v.Fits) :
    (∀ position rest, Shape.readAll (values.map shape) ⟨position, writeAll values ++ rest⟩
      = .ok values ⟨position + (writeAll values).length, rest⟩) ∧
    (∀ v ∈ values, Written v v.write) ∧ ∀ n, Shortest n.toNat (writeLength n) := by
  refine ⟨yields_readAll fits, ?_, shortest_writeLength⟩
  intro v mem
  exact written_write (fits v mem)

/-- Values of all types. The last string is the shortest one whose count needs a length. -/
def assorted : List Value :=
  [.int32 (-1), .int64 (-2), .bool true, .length 300, .blob [0x80, 0], .string none, .string (some ""),
   .string (some "é✓"), .string (some (String.ofList (List.replicate 63 'ü')))]

/-- These values are read back, and a length is written in two bytes where it can be. -/
theorem readAll_writeAll_assorted :
    (∀ v ∈ assorted, v.Fits) ∧
      Shape.readAll (assorted.map shape) ⟨7, writeAll assorted ++ [0x81]⟩
        = .ok assorted ⟨7 + (writeAll assorted).length, [0x81]⟩ ∧
      Written (.length 300) (writeLength 300) := by
  have empty : Writable "" := by unfold Writable; decide
  have text : Writable "é✓" := by unfold Writable; decide
  have boundary : Writable (String.ofList (List.replicate 63 'ü')) := by
    rw [Writable, String.length_ofList, List.length_replicate]
    decide
  have fits : ∀ v ∈ assorted, v.Fits := by
    simp only [assorted, List.forall_mem_cons, Fits, Option.mem_def, Option.some.injEq, forall_eq']
    exact ⟨trivial, trivial, trivial, trivial, by decide, nofun, empty, text, boundary, nofun⟩
  obtain ⟨read, written, -⟩ := readAll_writeAll fits
  exact ⟨fits, read 7 [0x81], written (.length 300) (by simp [assorted])⟩

example : writeLength 300 = [0xAC, 0x02] := by cbv

end Value

end ProxyChain.Wire
