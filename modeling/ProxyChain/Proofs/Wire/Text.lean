import ProxyChain.Proofs.Wire.Integer
import ProxyChain.Wire.Text

/-!
# Strings are read back

A string is read back as it was written, and so is its absence, whatever follows them. Two facts carry
the proof: the bytes that are written for the number in front declare it (`isCount_writeCount`), and
the first byte of an encoded character tells how many bytes the character takes
(`utf8EncodeChar_eq_cons`), so that passing characters one by one passes exactly the bytes of the text.
-/

namespace ProxyChain.Wire

/-- A string whose number of characters has a written form. -/
def Writable (s : String) : Prop := s.length < 2 ^ 32 - 1

/-- The bytes of a string are those of its characters, one after the other. -/
lemma utf8_eq (s : String) : utf8 s = s.toList.flatMap String.utf8EncodeChar := by
  rw [utf8, ← s.ofList_toList, String.toByteArray_ofList, s.ofList_toList, List.utf8Encode]
  simp

/-- The bytes of a string are the bytes of that string only. -/
lemma ofUtf8?_utf8 (s : String) : ofUtf8? (utf8 s) = some s := by
  have bytes : (⟨(utf8 s).toArray⟩ : ByteArray) = s.toByteArray := by
    rw [utf8, Array.toArray_toList]
  rw [ofUtf8?, bytes, String.fromUTF8?, dif_pos s.isValidUTF8]
  rfl

/-- The ranges of first bytes, by their values. -/
lemma charWidth?_eq (lead : UInt8) :
    charWidth? lead =
      if lead.toNat < 0x80 then some 1
      else if lead.toNat < 0xC0 then none
      else if lead.toNat < 0xE0 then some 2
      else if lead.toNat < 0xF0 then some 3
      else if lead.toNat < 0xF8 then some 4
      else none := rfl

/-- The first byte of a character tells how many bytes follow. -/
lemma utf8EncodeChar_eq_cons (c : Char) :
    ∃ lead tail, String.utf8EncodeChar c = lead :: tail
      ∧ charWidth? lead = some (tail.length + 1) := by
  rw [String.utf8EncodeChar]
  -- One case for each number of bytes, with the ranges of first bytes gone through in order.
  split
  · refine ⟨_, _, rfl, ?_⟩
    rw [charWidth?_eq, UInt8.toNat_ofNat', if_pos (by omega)]
    rfl
  split
  · refine ⟨_, _, rfl, ?_⟩
    rw [charWidth?_eq, UInt8.toNat_ofNat', if_neg (by omega), if_neg (by omega), if_pos (by omega)]
    rfl
  split
  · refine ⟨_, _, rfl, ?_⟩
    rw [charWidth?_eq, UInt8.toNat_ofNat', if_neg (by omega), if_neg (by omega),
      if_neg (by omega), if_pos (by omega)]
    rfl
  · refine ⟨_, _, rfl, ?_⟩
    rw [charWidth?_eq, UInt8.toNat_ofNat', if_neg (by omega), if_neg (by omega),
      if_neg (by omega), if_neg (by omega), if_pos (by omega)]
    rfl

/-- The second highest bit of a byte is clear when the byte without its high bit is below 64. -/
lemma bit6_eq_zero_iff (b : UInt8) : b &&& 0x40 = 0 ↔ b.toNat % 128 < 64 := by
  have h := bit_eq_zero_iff b (i := 6) (by decide)
  rw [show (0x40 : UInt8) = UInt8.ofNat (2 ^ 6) from rfl, h]
  omega

/-- The low bits of a count are its last six. -/
lemma toNat_lowCount (n : UInt32) : (n &&& 0x3F).toUInt8.toNat = n.toNat % 64 := by
  rw [UInt32.toNat_toUInt8, UInt32.toNat_and,
    show (0x3F : UInt32).toNat = 2 ^ 6 - 1 from rfl, Nat.and_two_pow_sub_one_eq_mod]
  omega

/-- The first byte of a short count has them behind a mark. -/
lemma toNat_shortLead (n : UInt32) :
    (0x80 ||| (n &&& 0x3F).toUInt8).toNat = 128 + n.toNat % 64 := by
  have or_eq := Nat.two_pow_add_eq_or_of_lt (i := 7) (b := n.toNat % 64) (by omega) 1
  rw [UInt8.toNat_or, toNat_lowCount]
  exact or_eq.symm

/-- The first byte of a long count has them behind two marks. -/
lemma toNat_longLead (n : UInt32) :
    (0x80 ||| (n &&& 0x3F).toUInt8 ||| 0x40).toNat = 192 + n.toNat % 64 := by
  have or_eq := Nat.two_pow_add_eq_or_of_lt (i := 6) (b := n.toNat % 64) (by omega) 3
  rw [UInt8.toNat_or, UInt8.toNat_or, toNat_lowCount, Nat.or_right_comm]
  exact or_eq.symm

/-- The bytes of the number in front of a string. The second bit of the first one says whether a length
follows. -/
inductive IsCount : Bytes → Prop where
  | short {first : UInt8} (high : 128 ≤ first.toNat) (alone : first.toNat % 128 < 64) : IsCount [first]
  | long {first : UInt8} {bytes : Bytes} (high : 128 ≤ first.toNat) (goesOn : ¬first.toNat % 128 < 64)
    (later : IsLength 5 bytes) : IsCount (first :: bytes)

/-- The number that the bytes in front of a string declare: six bits, then those of the length. -/
def countValue : Bytes → Nat
  | [] => 0
  | first :: bytes => first.toNat % 64 + 64 * lengthValue bytes

/-- The high bits of a count are all others. -/
lemma toNat_highCount (n : UInt32) : (n >>> 6).toNat = n.toNat / 64 := by
  rw [UInt32.toNat_shiftRight, Nat.shiftRight_eq_div_pow]
  rfl

/-- A number of six bits is written in one byte. -/
lemma writeCount_of_lt {n : UInt32} (few : n.toNat < 64) :
    ∃ first : UInt8, writeCount n = [first] ∧ first.toNat = 128 + n.toNat := by
  have lead := toNat_shortLead n
  have small : ¬(0 : UInt32) < n >>> 6 := by
    rw [UInt32.lt_iff_toNat_lt, toNat_highCount]
    change ¬0 < n.toNat / 64
    omega
  exact ⟨_, if_neg small, by omega⟩

/-- The bits of a larger number beyond the six low ones are written as a length. -/
lemma writeCount_of_le {n : UInt32} (many : 64 ≤ n.toNat) :
    ∃ first : UInt8, writeCount n = first :: sevenBits (n.toNat / 64) ∧
      first.toNat = 192 + n.toNat % 64 := by
  have goesOn : (0 : UInt32) < n >>> 6 := by
    rw [UInt32.lt_iff_toNat_lt, toNat_highCount]
    change 0 < n.toNat / 64
    omega
  rw [← toNat_highCount]
  exact ⟨_, if_pos goesOn, toNat_longLead n⟩

/-- The bytes that are written in front of a string declare their number. -/
lemma isCount_writeCount (n : UInt32) : IsCount (writeCount n) ∧ countValue (writeCount n) = n.toNat := by
  have lt := n.toNat_lt
  by_cases few : n.toNat < 64
  · obtain ⟨first, written, lead⟩ := writeCount_of_lt few
    rw [written, countValue, lengthValue_nil]
    exact ⟨.short (by omega) (by omega), by omega⟩
  · obtain ⟨first, written, lead⟩ := writeCount_of_le (Nat.not_lt.1 few)
    rw [written, countValue, lengthValue_sevenBits]
    refine ⟨.long (by omega) (by omega) (isLength_sevenBits ?_), by omega⟩
    exact Nat.lt_of_lt_of_le (Nat.lt_of_le_of_lt (Nat.div_le_self _ _) lt) (by decide)

/-- The number in front of a string that can be written is one more than that of its characters. -/
lemma toNat_count {s : String} (fits : Writable s) :
    (UInt32.ofNat s.toList.length + 1).toNat = s.length + 1 := by
  rw [UInt32.toNat_add, UInt32.toNat_ofNat', String.length_toList]
  change (s.length % 2 ^ 32 + 1) % 2 ^ 32 = _
  change s.length < 2 ^ 32 - 1 at fits
  omega

/-- Bytes of which the last one has the high bit, and no other one. -/
inductive IsCompact : Bytes → Prop where
  | last {b : UInt8} (high : 128 ≤ b.toNat) : IsCompact [b]
  | more {b : UInt8} {bytes : Bytes} (low : b.toNat < 128) (later : IsCompact bytes) :
    IsCompact (b :: bytes)

/-- The ASCII character of a byte without its high bit. -/
def asciiChar (b : UInt8) : Char := Char.ofNat (b.toNat % 128)

/-- An ASCII character is in the last seven bits of its byte. -/
lemma asciiChar_eq (b : UInt8) : Char.ofNat (b &&& 0x7F).toNat = asciiChar b := by
  have low : (b &&& 0x7F).toNat = b.toNat % 128 := lowBits b (i := 7) (by decide)
  rw [low, asciiChar]

/-- Bytes in compact form are read up to the last one, whatever follows. -/
lemma compactChars?_append {bytes : Bytes} (isCompact : IsCompact bytes) (rest : Bytes) :
    compactChars? (bytes ++ rest) = some (bytes.map asciiChar) := by
  induction isCompact with
  | @last b high =>
    have notLow : ¬b &&& 0x80 = 0 := by rwa [highBit_eq_zero_iff, Nat.not_lt]
    rw [List.singleton_append, compactChars?, if_neg notLow, asciiChar_eq]
    rfl
  | @more b bytes low later ih =>
    rw [List.cons_append, compactChars?, if_pos ((highBit_eq_zero_iff b).2 low), ih, asciiChar_eq]
    rfl

/-- Whatever is read in compact form are the characters of bytes in that form. -/
lemma of_compactChars? {bytes : Bytes} {cs : List Char} (h : compactChars? bytes = some cs) :
    ∃ used rest, bytes = used ++ rest ∧ IsCompact used ∧ cs = used.map asciiChar := by
  induction bytes generalizing cs with
  | nil => cases h
  | cons b bytes ih =>
    simp only [compactChars?, asciiChar_eq] at h
    split at h
    · next goesOn =>
      obtain ⟨cs', found, rfl⟩ := Option.map_eq_some_iff.1 h
      obtain ⟨used, rest, rfl, isCompact, rfl⟩ := ih found
      exact ⟨b :: used, rest, rfl, .more ((highBit_eq_zero_iff b).1 goesOn) isCompact, rfl⟩
    · next last =>
      cases h
      rw [highBit_eq_zero_iff, Nat.not_lt] at last
      exact ⟨[b], bytes, rfl, .last last, rfl⟩

namespace Reader

/-- Passing as many characters as a text has passes the bytes of that text. -/
lemma yields_passChars (start : Nat) (cs : List Char) :
    Yields (passChars start cs.length) (cs.flatMap String.utf8EncodeChar) () := by
  induction cs with
  | nil => exact .pure ()
  | cons c cs ih =>
    obtain ⟨lead, tail, encoded, width⟩ := utf8EncodeChar_eq_cons c
    have passed : Yields (discard (take (tail.length + 1 - 1))) tail () :=
      (Yields.take tail).map fun _ => ()
    rw [List.flatMap_cons, encoded, List.cons_append]
    apply (Yields.byte lead).bind
    rw [width]
    exact passed.bind ih

/-- The characters of a string are read back as that string. -/
lemma yields_chars (start : Nat) (s : String) :
    Yields (chars start s.toList.length) (utf8 s) s := by
  intro position rest
  have passed := yields_passChars start s.toList
  rw [← utf8_eq] at passed
  have text : ofUtf8? ((utf8 s ++ rest).take (position + (utf8 s).length - position)) = some s := by
    rw [Nat.add_sub_cancel_left, List.take_left, ofUtf8?_utf8]
  rw [chars, get_bind, passed.bind_apply, get_bind, text]
  rfl

/-- The six bits of a first byte, and those of a length on top of them as far as there is room. -/
lemma toNat_addCount (first : UInt8) (n : UInt32) :
    ((first &&& 0x3F).toUInt32 ||| n <<< 6).toNat = (first.toNat % 64 + 64 * n.toNat) % 2 ^ 32 := by
  have low : (first &&& 0x3F).toNat = first.toNat % 64 := lowBits first (i := 6) (by decide)
  have or_eq := Nat.two_pow_add_eq_or_of_lt (i := 6) (b := first.toNat % 64) (by omega)
    (n.toNat % 2 ^ 26)
  have high : n.toNat * 2 ^ 6 % 2 ^ 32 = 2 ^ 6 * (n.toNat % 2 ^ 26) := by omega
  rw [UInt32.toNat_or, UInt32.toNat_shiftLeft, UInt8.toNat_toUInt32, low, Nat.shiftLeft_eq,
    show (6 : UInt32).toNat % 32 = 6 from rfl, high, Nat.or_comm, ← or_eq]
  omega

/-- The bytes in front of a string give the number that they declare, as far as it fits. -/
lemma yields_count {first : UInt8} {bytes : Bytes} (isCount : IsCount (first :: bytes)) :
    Yields (count first) bytes (UInt32.ofNat (countValue (first :: bytes))) := by
  cases isCount with
  | short high alone =>
    have low : (first &&& 0x3F).toNat = first.toNat % 64 := lowBits first (i := 6) (by decide)
    have value : (first &&& 0x3F).toUInt32 = UInt32.ofNat (countValue [first]) := by
      rw [← UInt32.toNat_inj, UInt8.toNat_toUInt32, low, UInt32.toNat_ofNat', countValue, lengthValue_nil]
      omega
    rw [count, if_pos ((bit6_eq_zero_iff first).2 alone), value]
    exact .pure _
  | long high goesOn later =>
    have value : (first &&& 0x3F).toUInt32 ||| UInt32.ofNat (lengthValue bytes) <<< 6
        = UInt32.ofNat (countValue (first :: bytes)) := by
      rw [← UInt32.toNat_inj, toNat_addCount, UInt32.toNat_ofNat', UInt32.toNat_ofNat', countValue]
      omega
    have read := (yields_length_of_isLength later).bind_pure (f := fun high : UInt32 =>
      (first &&& 0x3F).toUInt32 ||| (high <<< 6))
    rw [value] at read
    rw [count, if_neg fun alone => goesOn ((bit6_eq_zero_iff first).1 alone)]
    exact read

/-- The number in front of a string starts with a byte that has the high bit, and is read back. -/
lemma yields_writeCount (n : UInt32) :
    ∃ first bytes, writeCount n = first :: bytes ∧ ¬first &&& 0x80 = 0
      ∧ Yields (count first) bytes n := by
  obtain ⟨isCount, value⟩ := isCount_writeCount n
  cases written : writeCount n with
  | nil =>
    rw [written] at isCount
    cases isCount
  | cons first bytes =>
    rw [written] at isCount value
    have read := yields_count isCount
    rw [value, UInt32.ofNat_toNat] at read
    refine ⟨first, bytes, rfl, ?_, read⟩
    rw [highBit_eq_zero_iff, Nat.not_lt]
    cases isCount with
    | short high => exact high
    | long high => exact high

/-- What follows the number in front of a string. -/
def counted (start : Nat) : Nat → Reader (Option String)
  | 0 => pure none
  | 1 => pure (some "")
  | n + 2 => some <$> chars start (n + 1)

/-- As many characters as a string has, counted from one, are read back as that string. -/
lemma yields_counted (start : Nat) (s : String) :
    Yields (counted start (s.toList.length + 1)) (utf8 s) (some s) := by
  cases len : s.toList.length with
  | zero =>
    have empty : s = "" := String.toList_inj.1 (List.eq_nil_of_length_eq_zero len)
    subst empty
    exact .pure _
  | succ n =>
    have read := yields_chars start s
    rw [len] at read
    exact read.map some

/-- A first byte with the high bit starts a string behind its number of characters. -/
lemma yields_string?_of_long {first : UInt8} (long : ¬first &&& 0x80 = 0) {bytes text : Bytes}
    {n : UInt32} {s : Option String} (number : Yields (count first) bytes n)
    (follows : ∀ start, Yields (counted start n.toNat) text s) :
    Yields string? (first :: (bytes ++ text)) s := by
  intro position rest
  have read : Yields (count first >>= fun n => counted position n.toNat) (bytes ++ text) s :=
    number.bind (follows position)
  change (if first &&& 0x80 = 0 then _ else _ : Reader (Option String)) _ = _
  rw [if_neg long, List.length_cons, Nat.add_comm (bytes ++ text).length, ← Nat.add_assoc]
  exact read (position + 1) rest

/-- A string is read back, its number of characters being one that can be written. -/
lemma yields_string?_writeString {s : String} (fits : Writable s) :
    Yields string? (writeString s) (some s) := by
  obtain ⟨first, bytes, written, long, number⟩ :=
    yields_writeCount (UInt32.ofNat s.toList.length + 1)
  rw [writeString, written]
  apply yields_string?_of_long long number
  intro start
  rw [toNat_count fits, ← String.length_toList]
  exact yields_counted start s

/-- A string or its absence is read back. -/
lemma yields_string? {s? : Option String} (fits : ∀ s ∈ s?, Writable s) :
    Yields string? (writeString? s?) s? := by
  cases s? with
  | none =>
    have number : Yields (count 0x80) [] 0 := .pure 0
    exact yields_string?_of_long (by decide) number fun _ => .pure none
  | some s => exact yields_string?_writeString (fits s rfl)

/-- A text is read as it is written. -/
lemma yields_string {s : String} (fits : Writable s) :
    Yields string (writeString s) s := by
  have read := (yields_string?_writeString fits).bind_pure (f := fun s? : Option String => s?.getD "")
  exact read

end Reader

end ProxyChain.Wire
