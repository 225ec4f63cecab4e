import ProxyChain.Proofs.Wire.Shortage

/-!
# Whether lengths are exact

The bytes of a length declare a number (`lengthValue`), and so do those in front of a string
(`countValue`). What is read of it has 32 bits: a length, the bytes behind one and the characters behind a
count are as many as the last 32 bits of the declared number say. They are as many as declared exactly if
that number fits, and no number is refused because it does not (`Reader.lastBits_declared`).
-/

namespace ProxyChain.Wire

/-- What is read of a declared number is its last 32 bits, and all of it exactly if it fits them. -/
structure LastBits (declared read : Nat) : Prop where
  eq_mod : read = declared % 2 ^ 32
  exact_iff : read = declared ↔ declared < 2 ^ 32

/-- A number of 32 bits is the last bits of what is declared. -/
lemma lastBits_of_eq_ofNat {declared : Nat} {n : UInt32} (h : n = UInt32.ofNat declared) :
    LastBits declared n.toNat := by
  have last : n.toNat = declared % 2 ^ 32 := by rw [h, UInt32.toNat_ofNat']
  exact ⟨last, by omega⟩

/-- What a count has to say of a string or its absence. -/
def countOf : Option String → Nat
  | none => 0
  | some s => s.length + 1

/-- The bytes of a string or its absence, behind the count. -/
def textOf : Option String → Bytes
  | none => []
  | some s => utf8 s

/-- Whether a string starts with a count, which the high bit of its first byte says. -/
def HasCount (c : Cursor) : Prop := ∃ first ∈ c.rest.head?, 128 ≤ first.toNat

/-- Bytes that encode a string are its bytes. -/
lemma eq_utf8_of_ofUtf8? {bytes : Bytes} {s : String} (h : ofUtf8? bytes = some s) :
    bytes = utf8 s := by
  rw [ofUtf8?, String.fromUTF8?] at h
  split at h
  · cases h
    rfl
  · cases h

namespace Reader

variable {c c' : Cursor}

/-- Whatever a length is read from are the bytes of a length. -/
lemma of_lengthFrom {start : Nat} {shifts : List UInt32} {sum n : UInt32}
    (made : lengthFrom start shifts sum c = .ok n c') :
    ∃ bytes, IsLength shifts.length bytes ∧ c.rest = bytes ++ c'.rest := by
  induction shifts generalizing sum c with
  | nil => cases made
  | cons shift shifts ih =>
    obtain ⟨b, between, passed, made⟩ := of_bind made
    have ahead := of_byte passed
    split at made
    · next last =>
      cases made
      exact ⟨[b], .last ((highBit_eq_zero_iff b).1 last), ahead⟩
    · next more =>
      obtain ⟨bytes, isLength, behind⟩ := ih made
      rw [highBit_eq_zero_iff, Nat.not_lt] at more
      exact ⟨b :: bytes, .more more isLength, by rw [ahead, behind, List.cons_append]⟩

/-- What is read is what the bytes in front of the cursor declare, if the reader is known to make that of
them. -/
lemma eq_of_yields {α : Type} {read : Reader α} {bytes : Bytes} {a a' : α} (h : Yields read bytes a)
    (made : read c = .ok a' c') (ahead : c.rest = bytes ++ c'.rest) : a' = a := by
  have same := h c.position c'.rest
  rw [← ahead, made] at same
  exact (EStateM.Result.ok.inj same).1

/-- A length is what its bytes declare, as far as it fits. -/
lemma of_length {n : UInt32} (made : length c = .ok n c') :
    ∃ bytes, IsLength 5 bytes ∧ c.rest = bytes ++ c'.rest ∧ n = UInt32.ofNat (lengthValue bytes) := by
  obtain ⟨bytes, isLength, ahead⟩ := of_lengthFrom made
  exact ⟨bytes, isLength, ahead, eq_of_yields (yields_length_of_isLength isLength) made ahead⟩

/-- A count is what its bytes declare, as far as it fits. -/
lemma of_count {first : UInt8} {n : UInt32} (high : 128 ≤ first.toNat)
    (made : count first c = .ok n c') : ∃ bytes, IsCount (first :: bytes) ∧
      c.rest = bytes ++ c'.rest ∧ n = UInt32.ofNat (countValue (first :: bytes)) := by
  have bytes : ∃ bytes, IsCount (first :: bytes) ∧ c.rest = bytes ++ c'.rest := by
    unfold count at made
    split at made
    · next alone =>
      cases made
      exact ⟨[], .short high ((bit6_eq_zero_iff first).1 alone), rfl⟩
    · next goesOn =>
      obtain ⟨n', between, counted, made⟩ := of_bind made
      obtain ⟨bytes, isLength, ahead, -⟩ := of_length counted
      cases made
      rw [bit6_eq_zero_iff] at goesOn
      exact ⟨bytes, .long high goesOn isLength, ahead⟩
  obtain ⟨bytes, isCount, ahead⟩ := bytes
  exact ⟨bytes, isCount, ahead, eq_of_yields (yields_count isCount) made ahead⟩

/-- Passing characters passes the bytes of as many characters. -/
lemma length_of_passChars {start count position position' : Nat} {cs : List Char}
    (passed : passChars start count ⟨position, cs.flatMap String.utf8EncodeChar⟩
      = .ok () ⟨position', []⟩) : count = cs.length := by
  -- The first byte of each character tells its width, so one character goes with each step.
  induction cs generalizing count position with
  | nil =>
    cases count with
    | zero => rfl
    | succ count => cases passed
  | cons c cs ih =>
    obtain ⟨lead, tail, encoded, width⟩ := utf8EncodeChar_eq_cons c
    rw [List.flatMap_cons, encoded, List.cons_append] at passed
    cases count with
    | zero => cases passed
    | succ count =>
      have skipped : Yields (discard (take (tail.length + 1 - 1))) tail () :=
        (Yields.take tail).map fun _ => ()
      have first : passChars start (count + 1)
          ⟨position, lead :: (tail ++ cs.flatMap String.utf8EncodeChar)⟩
          = passChars start count ⟨position + 1 + tail.length, cs.flatMap String.utf8EncodeChar⟩ := by
        rw [passChars, ← List.singleton_append, (Yields.byte lead).bind_apply, width]
        exact skipped.bind_apply _ _ _
      exact congrArg Nat.succ (ih (first.symm.trans passed))

/-- Characters that are read are as many as asked for. -/
lemma of_chars {start count : Nat} {s : String} (made : chars start count c = .ok s c') :
    c.rest = utf8 s ++ c'.rest ∧ s.length = count := by
  obtain ⟨position, bytes⟩ := c
  rw [chars_apply] at made
  split at made
  · next between passed =>
    obtain ⟨used, rest, rfl, rfl, again⟩ := (candid_passChars start count).exists_used passed
    rw [Nat.add_sub_cancel_left, List.take_left] at made
    split at made
    · next text =>
      cases made
      have encoded := eq_utf8_of_ofUtf8? text
      have alone := again []
      rw [List.append_nil, encoded, utf8_eq] at alone
      exact ⟨by rw [encoded], String.length_toList.symm.trans (length_of_passChars alone).symm⟩
    · cases made
  · cases made

/-- Behind a count there are as many characters as it says, less one. -/
lemma of_counted {start n : Nat} {s? : Option String} (made : counted start n c = .ok s? c') :
    c.rest = textOf s? ++ c'.rest ∧ countOf s? = n := by
  unfold counted at made
  split at made
  · cases made
    exact ⟨rfl, rfl⟩
  · cases made
    exact ⟨rfl, rfl⟩
  · next n =>
    rw [map_eq_pure_bind] at made
    obtain ⟨s, between, read, made⟩ := of_bind made
    cases made
    obtain ⟨text, length⟩ := of_chars read
    exact ⟨text, congrArg Nat.succ length⟩

/-- Of a string that has a count as many characters are read as it says, less one. -/
lemma of_string? {s? : Option String} (made : string? c = .ok s? c') (hasCount : HasCount c) :
    ∃ bytes, IsCount bytes ∧ c.rest = bytes ++ textOf s? ++ c'.rest ∧
      LastBits (countValue bytes) (countOf s?) := by
  obtain ⟨position, rest⟩ := c
  obtain ⟨first, head, high⟩ := hasCount
  obtain ⟨rest, rfl⟩ := List.head?_eq_some_iff.1 head
  have notCompact : ¬first &&& 0x80 = 0 := by rwa [highBit_eq_zero_iff, Nat.not_lt]
  rw [string?_cons, if_neg notCompact] at made
  obtain ⟨n, between, counted, made⟩ := of_bind made
  obtain ⟨bytes, isCount, ahead, value⟩ := of_count high counted
  obtain ⟨behind, size⟩ := of_counted made
  refine ⟨first :: bytes, isCount, ?_, ?_⟩
  · rw [List.append_assoc, List.cons_append, ← behind]
    exact congrArg _ ahead
  · rw [size]
    exact lastBits_of_eq_ofNat value

/-- The bytes of a length are read whatever they declare. A length, the bytes behind one and the characters
behind a count are as many as the last 32 bits of the declared number say, and as many as declared exactly
if it fits 32 bits. -/
theorem lastBits_declared (c c' : Cursor) :
    (∀ bytes rest, IsLength 5 bytes → c.rest = bytes ++ rest →
      length c = .ok (UInt32.ofNat (lengthValue bytes)) ⟨c.position + bytes.length, rest⟩) ∧
    (∀ n, length c = .ok n c' → ∃ bytes, IsLength 5 bytes ∧ c.rest = bytes ++ c'.rest ∧
      LastBits (lengthValue bytes) n.toNat) ∧
    (∀ taken, blob c = .ok taken c' → ∃ bytes, IsLength 5 bytes ∧
      c.rest = bytes ++ taken ++ c'.rest ∧ LastBits (lengthValue bytes) taken.length) ∧
    (∀ s?, string? c = .ok s? c' → HasCount c → ∃ bytes, IsCount bytes ∧
      c.rest = bytes ++ textOf s? ++ c'.rest ∧ LastBits (countValue bytes) (countOf s?)) := by
  refine ⟨?accepted, ?length, ?blob, fun _ => of_string?⟩
  case accepted =>
    intro bytes rest isLength ahead
    have read := yields_length_of_isLength isLength c.position rest
    rwa [← ahead] at read
  case length =>
    intro n made
    obtain ⟨bytes, isLength, ahead, value⟩ := of_length made
    exact ⟨bytes, isLength, ahead, lastBits_of_eq_ofNat value⟩
  case blob =>
    intro taken made
    obtain ⟨n, between, counted, made⟩ := of_bind made
    obtain ⟨bytes, isLength, ahead, value⟩ := of_length counted
    obtain ⟨behind, size⟩ := of_take made
    refine ⟨bytes, isLength, by rw [ahead, behind, List.append_assoc], ?_⟩
    rw [size]
    exact lastBits_of_eq_ofNat value

/-- A string of two characters behind a count of three. -/
theorem lastBits_declared_three :
    string? ⟨0, [0x83, 0x61, 0x62]⟩ = .ok (some "ab") ⟨3, []⟩ ∧ HasCount ⟨0, [0x83, 0x61, 0x62]⟩ ∧
      ∃ bytes, IsCount bytes ∧ [0x83, 0x61, 0x62] = bytes ++ textOf (some "ab") ++ [] ∧
        LastBits (countValue bytes) (countOf (some "ab")) := by
  obtain ⟨-, -, -, strings⟩ := lastBits_declared ⟨0, [0x83, 0x61, 0x62]⟩ ⟨3, []⟩
  have made : string? ⟨0, [0x83, 0x61, 0x62]⟩ = .ok (some "ab") ⟨3, []⟩ := rfl
  have hasCount : HasCount ⟨0, [0x83, 0x61, 0x62]⟩ := ⟨0x83, rfl, by decide⟩
  exact ⟨made, hasCount, strings _ made hasCount⟩

/-- A length, a blob and a string that declare the first number that does not fit are read as if they
declared none. -/
theorem declared_dropped :
    IsLength 5 [0x80, 0x80, 0x80, 0x80, 0x10] ∧
      lengthValue [0x80, 0x80, 0x80, 0x80, 0x10] = 2 ^ 32 ∧
      length ⟨0, [0x80, 0x80, 0x80, 0x80, 0x10]⟩ = .ok 0 ⟨5, []⟩ ∧
      blob ⟨0, [0x80, 0x80, 0x80, 0x80, 0x10]⟩ = .ok [] ⟨5, []⟩ ∧
      IsCount [0xC0, 0x80, 0x80, 0x80, 0x20] ∧
      countValue [0xC0, 0x80, 0x80, 0x80, 0x20] = 2 ^ 32 ∧
      string? ⟨0, [0xC0, 0x80, 0x80, 0x80, 0x20]⟩ = .ok none ⟨5, []⟩ := by
  have isLength : IsLength 5 [0x80, 0x80, 0x80, 0x80, 0x10] :=
    .more (by decide) (.more (by decide) (.more (by decide) (.more (by decide) (.last (by decide)))))
  have isCount : IsCount [0xC0, 0x80, 0x80, 0x80, 0x20] :=
    .long (by decide) (by decide)
      (.more (by decide) (.more (by decide) (.more (by decide) (.last (by decide)))))
  exact ⟨isLength, by decide, rfl, rfl, isCount, by decide, rfl⟩

end Reader

end ProxyChain.Wire
