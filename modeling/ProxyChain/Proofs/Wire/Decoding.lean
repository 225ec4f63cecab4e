import ProxyChain.Proofs.Wire.Declared

/-!
# Strings are decoded as their encodings say

What stands in front of a string says how it is encoded. Behind a count a string is read exactly where
the UTF-8 encoding of as many characters comes next (`counted_eq_ok_iff`). Without one it is read exactly
where bytes in compact form come next, of which the last one has the high bit (`compact_eq_ok_iff`), and
that is wherever any byte has it. Nothing else is read (`string?_decodes`).
-/

namespace ProxyChain.Wire

/-- A cursor stands behind bytes that were in front of another one. -/
structure Passed (c : Cursor) (bytes : Bytes) (c' : Cursor) : Prop where
  ahead : c.rest = bytes ++ c'.rest
  position : c'.position = c.position + bytes.length

/-- Bytes that were passed may be counted together or one part after the other. -/
lemma passed_append_iff {position : Nat} {part part' rest : Bytes} {c : Cursor} :
    Passed ⟨position, part ++ rest⟩ (part ++ part') c ↔ Passed ⟨position + part.length, rest⟩ part' c := by
  constructor
  · rintro ⟨ahead, behind⟩
    rw [List.append_assoc] at ahead
    rw [List.length_append, ← Nat.add_assoc] at behind
    exact ⟨List.append_cancel_left ahead, behind⟩
  · rintro ⟨ahead, behind⟩
    refine ⟨?_, ?_⟩
    · rw [List.append_assoc, ← ahead]
    · rw [List.length_append, ← Nat.add_assoc, behind]

/-- The ASCII text of bytes without their high bits. -/
def asciiText (bytes : Bytes) : String := String.ofList (bytes.map asciiChar)

/-- A text of ASCII characters. -/
def IsAscii (s : String) : Prop := ∀ c ∈ s.toList, c.toNat < 128

/-- The compact form of a text: a byte for each character, the high bit added to the last one. -/
def compactForm (s : String) : Bytes :=
  s.toList.dropLast.map (fun c => UInt8.ofNat c.toNat) ++
    s.toList.getLast?.toList.map fun c => UInt8.ofNat (c.toNat + 128)

/-- Low bytes with a high one behind them are compact. -/
lemma isCompact_concat {low : Bytes} {last : UInt8} (allLow : ∀ b ∈ low, b.toNat < 128)
    (high : 128 ≤ last.toNat) : IsCompact (low ++ [last]) := by
  induction low with
  | nil => exact .last high
  | cons b low ih =>
    exact .more (allLow b List.mem_cons_self) (ih fun b mem => allLow b (List.mem_cons_of_mem _ mem))

/-- There are bytes in compact form in front of others exactly where any byte has the high bit. -/
lemma exists_isCompact_iff {bytes : Bytes} :
    (∃ used rest, bytes = used ++ rest ∧ IsCompact used) ↔ ∃ b ∈ bytes, 128 ≤ b.toNat := by
  constructor
  · rintro ⟨used, rest, rfl, isCompact⟩
    induction isCompact with
    | @last b high => exact ⟨b, List.mem_cons_self, high⟩
    | more low later ih =>
      obtain ⟨b, mem, high⟩ := ih
      exact ⟨b, List.mem_cons_of_mem _ mem, high⟩
  · rintro ⟨b, mem, high⟩
    -- The form ends at the first byte with the high bit, which need not be `b`.
    induction bytes with
    | nil => cases mem
    | cons first bytes ih =>
      by_cases low : first.toNat < 128
      · rcases List.mem_cons.1 mem with rfl | mem
        · omega
        · obtain ⟨used, rest, rfl, isCompact⟩ := ih mem
          exact ⟨first :: used, rest, rfl, .more low isCompact⟩
      · exact ⟨[first], bytes, rfl, .last (Nat.not_lt.1 low)⟩

section Form

variable {s : String} {cs : List Char} {c : Char}

/-- An ASCII character is its own byte. -/
lemma toNat_ofNat_ascii (ascii : c.toNat < 128) : (UInt8.ofNat c.toNat).toNat = c.toNat := by
  rw [UInt8.toNat_ofNat']
  omega

/-- A mark adds to it. -/
lemma toNat_ofNat_marked (ascii : c.toNat < 128) :
    (UInt8.ofNat (c.toNat + 128)).toNat = c.toNat + 128 := by
  rw [UInt8.toNat_ofNat']
  omega

/-- The character is found in its byte, with the mark or without. -/
lemma asciiChar_ofNat (ascii : c.toNat < 128) :
    asciiChar (UInt8.ofNat c.toNat) = c ∧ asciiChar (UInt8.ofNat (c.toNat + 128)) = c := by
  have low : c.toNat % 128 = c.toNat := Nat.mod_eq_of_lt ascii
  rw [asciiChar, asciiChar, toNat_ofNat_ascii ascii, toNat_ofNat_marked ascii, Nat.add_mod_right, low,
    Char.ofNat_toNat]
  exact ⟨rfl, rfl⟩

/-- The compact form marks the last character. -/
lemma compactForm_of_toList (split : s.toList = cs ++ [c]) : compactForm s
    = cs.map (fun c => UInt8.ofNat c.toNat) ++ [UInt8.ofNat (c.toNat + 128)] := by
  rw [compactForm, split, List.dropLast_concat, List.getLast?_concat]
  rfl

/-- The bytes of ASCII characters are low. -/
lemma lt_of_mem_map_ascii (ascii : ∀ c ∈ cs, c.toNat < 128) {b : UInt8}
    (mem : b ∈ cs.map fun c => UInt8.ofNat c.toNat) : b.toNat < 128 := by
  obtain ⟨c, among, rfl⟩ := List.mem_map.1 mem
  rw [toNat_ofNat_ascii (ascii c among)]
  exact ascii c among

/-- The compact form has one byte for each character. -/
lemma length_compactForm (s : String) : (compactForm s).length = s.length := by
  rw [← String.length_toList]
  obtain empty | ⟨cs, c, split⟩ := s.toList.eq_nil_or_concat'
  · rw [compactForm, empty]
    rfl
  · rw [compactForm_of_toList split, split, List.length_append, List.length_append, List.length_map]
    rfl

/-- The compact form is compact. -/
lemma isCompact_compactForm (ascii : IsAscii s) (filled : s.toList ≠ []) :
    IsCompact (compactForm s) := by
  obtain empty | ⟨cs, c, split⟩ := s.toList.eq_nil_or_concat'
  · exact absurd empty filled
  unfold IsAscii at ascii
  rw [split] at ascii
  rw [compactForm_of_toList split]
  refine isCompact_concat (fun b => lt_of_mem_map_ascii ?_) ?_
  · exact fun c mem => ascii c (List.mem_append_left _ mem)
  · rw [toNat_ofNat_marked (ascii c List.mem_concat_self)]
    exact Nat.le_add_left 128 _

/-- The characters are found again in it. -/
lemma asciiText_compactForm (ascii : IsAscii s) : asciiText (compactForm s) = s := by
  rw [← String.toList_inj, asciiText, String.toList_ofList]
  obtain empty | ⟨cs, c, split⟩ := s.toList.eq_nil_or_concat'
  · rw [compactForm, empty]
    rfl
  unfold IsAscii at ascii
  rw [split] at ascii ⊢
  have same : cs.map (asciiChar ∘ fun c => UInt8.ofNat c.toNat) = cs.map id :=
    List.map_congr_left fun c mem => (asciiChar_ofNat (ascii c (List.mem_append_left _ mem))).1
  rw [compactForm_of_toList split, List.map_append, List.map_map, same, List.map_id,
    List.map_singleton, (asciiChar_ofNat (ascii c List.mem_concat_self)).2]

/-- It starts with a low byte if there are two characters or more. -/
lemma exists_head_compactForm (ascii : IsAscii s) (several : 2 ≤ s.length) :
    ∃ first ∈ (compactForm s).head?, first.toNat < 128 := by
  obtain empty | ⟨cs, c, split⟩ := s.toList.eq_nil_or_concat'
  · rw [← String.length_toList, empty] at several
    cases several
  unfold IsAscii at ascii
  rw [split] at ascii
  rw [compactForm_of_toList split]
  cases cs with
  | nil =>
    -- The only byte would be the last one, which has the high bit.
    rw [← String.length_toList, split] at several
    exact absurd several (Nat.not_succ_le_self 1)
  | cons first cs =>
    exact ⟨_, rfl, lt_of_mem_map_ascii (fun c mem => ascii c (List.mem_append_left _ mem))
      List.mem_cons_self⟩

end Form

namespace Reader

variable {c c' : Cursor}

/-- A reader that makes a value of some bytes makes it of them wherever they are passed. -/
lemma Yields.of_passed {α : Type} {read : Reader α} {bytes : Bytes} {a : α} (h : Yields read bytes a)
    (passed : Passed c bytes c') : read c = .ok a c' := by
  obtain ⟨position, rest⟩ := c
  obtain ⟨position', rest'⟩ := c'
  obtain ⟨ahead, behind⟩ := passed
  dsimp only at ahead behind
  rw [ahead, behind]
  exact h position rest'

/-- What is ahead of a reader that succeeds are bytes that it passes. -/
lemma passed_of_yields {α : Type} {read : Reader α} {bytes : Bytes} {a a' : α} (h : Yields read bytes a)
    (ahead : c.rest = bytes ++ c'.rest) (made : read c = .ok a' c') : Passed c bytes c' := by
  have same := h c.position c'.rest
  rw [← ahead, made] at same
  exact ⟨ahead, congrArg Cursor.position (EStateM.Result.ok.inj same).2⟩

/-- A value that is changed once it is read is one that is read. -/
lemma map_eq_ok_iff {α β : Type} {read : Reader α} {f : α → β} {b : β} :
    (f <$> read) c = .ok b c' ↔ ∃ a, b = f a ∧ read c = .ok a c' := by
  constructor
  · intro made
    obtain ⟨a, read, rfl⟩ := of_map made
    exact ⟨a, rfl, read⟩
  · rintro ⟨a, rfl, made⟩
    rw [map_eq_pure_bind, bind_of_ok made]
    rfl

/-- As many characters are read as asked for, exactly where their encoding comes next. -/
lemma chars_eq_ok_iff {start count : Nat} {s : String} :
    chars start count c = .ok s c' ↔ s.length = count ∧ Passed c (utf8 s) c' := by
  constructor
  · intro made
    obtain ⟨ahead, rfl⟩ := of_chars made
    have yields := yields_chars start s
    rw [String.length_toList] at yields
    exact ⟨rfl, passed_of_yields yields ahead made⟩
  · rintro ⟨rfl, passed⟩
    have yields := yields_chars start s
    rw [String.length_toList] at yields
    exact yields.of_passed passed

/-- A string is read in compact form exactly where bytes in that form come next. -/
lemma compact_eq_ok_iff {s : String} :
    compact c = .ok s c' ↔ ∃ bytes, IsCompact bytes ∧ s = asciiText bytes ∧ Passed c bytes c' := by
  have yields {bytes : Bytes} (isCompact : IsCompact bytes) :
      Yields compact bytes (asciiText bytes) := by
    intro position rest
    simp only [compact, compactChars?_append isCompact, Cursor.advance, List.length_map, List.drop_left,
      asciiText]
  constructor
  · intro made
    simp only [compact] at made
    split at made
    · next found =>
      cases made
      obtain ⟨bytes, rest, ahead, isCompact, rfl⟩ := of_compactChars? found
      refine ⟨bytes, isCompact, rfl, ?_, congrArg _ (List.length_map _)⟩
      rw [Cursor.advance, ahead, List.length_map, List.drop_left]
    · cases made
  · rintro ⟨bytes, isCompact, rfl, passed⟩
    exact (yields isCompact).of_passed passed

/-- Behind the bytes of a count there is what it declares, as far as it fits. -/
lemma string?_of_isCount {bytes rest : Bytes} (isCount : IsCount bytes) (position : Nat) :
    string? ⟨position, bytes ++ rest⟩
      = counted position (countValue bytes % 2 ^ 32) ⟨position + bytes.length, rest⟩ := by
  cases bytes with
  | nil => cases isCount
  | cons first bytes =>
    have high : 128 ≤ first.toNat := by cases isCount <;> assumption
    have notCompact : ¬first &&& 0x80 = 0 := by rwa [highBit_eq_zero_iff, Nat.not_lt]
    rw [List.cons_append, string?_cons, if_neg notCompact, (yields_count isCount).bind_apply,
      UInt32.toNat_ofNat', List.length_cons, Nat.add_assoc, Nat.add_comm 1]

/-- Behind a count of `n` characters, one counted on top of them, `n` characters are read. -/
lemma counted_eq_ok_iff {start n : Nat} (several : 1 ≤ n) {s? : Option String} :
    counted start (n + 1) c = .ok s? c' ↔ ∃ s, s? = some s ∧ s.length = n ∧ Passed c (utf8 s) c' := by
  obtain ⟨n, rfl⟩ := Nat.exists_eq_add_of_le' several
  change (some <$> chars start (n + 1)) c = .ok s? c' ↔ _
  simp only [map_eq_ok_iff, chars_eq_ok_iff]

/-- A low byte in front tells that the compact form follows. -/
lemma string?_of_low {first : UInt8} (head : first ∈ c.rest.head?) (low : first.toNat < 128)
    {s? : Option String} : string? c = .ok s? c' ↔
      ∃ bytes, s? = some (asciiText bytes) ∧ IsCompact bytes ∧ Passed c bytes c' := by
  obtain ⟨position, rest⟩ := c
  obtain ⟨rest, rfl⟩ := List.head?_eq_some_iff.1 head
  rw [string?_cons, if_pos ((highBit_eq_zero_iff first).2 low), map_eq_ok_iff]
  constructor
  · rintro ⟨s, rfl, read⟩
    obtain ⟨bytes, isCompact, rfl, passed⟩ := compact_eq_ok_iff.1 read
    exact ⟨bytes, rfl, isCompact, passed⟩
  · rintro ⟨bytes, rfl, isCompact, passed⟩
    exact ⟨_, rfl, compact_eq_ok_iff.2 ⟨bytes, isCompact, rfl, passed⟩⟩

/-- Behind a count of `n` characters, as far as the declared number fits, a string is read exactly where
the UTF-8 encoding of `n` characters comes next. Without the high bit in the first byte one is read exactly
if a later byte has it: the ASCII text of the bytes up to the first of those. In both cases the bytes of the
string are passed, and no others. Every ASCII text of two or more characters is read from its compact form. -/
theorem string?_decodes (c : Cursor) :
    (∀ bytes n, IsCount bytes → bytes <+: c.rest → countValue bytes % 2 ^ 32 = n + 1 → 1 ≤ n →
      ∀ s? c', string? c = .ok s? c' ↔
        ∃ s, s? = some s ∧ s.length = n ∧ Passed c (bytes ++ utf8 s) c') ∧
    (∀ first ∈ c.rest.head?, first.toNat < 128 →
      ((∃ s? c', string? c = .ok s? c') ↔ ∃ b ∈ c.rest.tail, 128 ≤ b.toNat) ∧
      ∀ s? c', string? c = .ok s? c' ↔
        ∃ bytes, s? = some (asciiText bytes) ∧ IsCompact bytes ∧ Passed c bytes c') ∧
    (∀ s c', IsAscii s → 2 ≤ s.length → Passed c (compactForm s) c' →
      string? c = .ok (some s) c' ∧ c'.position = c.position + s.length) := by
  refine ⟨?counted, ?compact, ?written⟩
  case counted =>
    intro bytes n isCount ahead declared several s? c'
    obtain ⟨position, _⟩ := c
    obtain ⟨rest, rfl⟩ := ahead
    rw [string?_of_isCount isCount, declared, counted_eq_ok_iff several]
    simp only [passed_append_iff]
  case compact =>
    -- The first byte is no end of a compact form, so only the later ones can be.
    intro first head low
    refine ⟨?_, fun s? c' => string?_of_low head low⟩
    obtain ⟨rest, split⟩ := List.head?_eq_some_iff.1 head
    have later : (∃ b ∈ c.rest, 128 ≤ b.toNat) ↔ ∃ b ∈ c.rest.tail, 128 ≤ b.toNat := by
      rw [split, List.exists_mem_cons_iff, or_iff_right (Nat.not_le.2 low), List.tail_cons]
    rw [← later, ← exists_isCompact_iff]
    constructor
    · rintro ⟨s?, c', made⟩
      obtain ⟨bytes, -, isCompact, passed⟩ := (string?_of_low head low).1 made
      exact ⟨bytes, c'.rest, passed.ahead, isCompact⟩
    · rintro ⟨bytes, rest, ahead, isCompact⟩
      exact ⟨_, ⟨_, rest⟩, (string?_of_low head low).2 ⟨bytes, rfl, isCompact, ahead, rfl⟩⟩
  case written =>
    -- A text of one character would begin with its last byte and be taken for a count.
    intro s c' ascii several passed
    obtain ⟨first, head, low⟩ := exists_head_compactForm ascii several
    have filled : s.toList ≠ [] := by
      intro empty
      rw [← String.length_toList, empty] at several
      cases several
    have ahead : first ∈ c.rest.head? := by
      rw [passed.ahead]
      exact List.mem_head?_append_of_mem_head? head
    refine ⟨(string?_of_low ahead low).2 ⟨_, ?_, isCompact_compactForm ascii filled, passed⟩, ?_⟩
    · rw [asciiText_compactForm ascii]
    · rw [passed.position, length_compactForm]

/-- A character of two bytes behind a count of two, and a text in compact form. Neither takes the byte
behind it. -/
theorem string?_decodes_twoForms :
    IsCount [0x82] ∧ countValue [0x82] % 2 ^ 32 = 1 + 1 ∧
      string? ⟨0, [0x82, 0xC3, 0xA9, 0x00]⟩ = .ok (some "é") ⟨3, [0x00]⟩ ∧
      IsAscii "abc" ∧ compactForm "abc" = [0x61, 0x62, 0xE3] ∧
      string? ⟨0, [0x61, 0x62, 0xE3, 0x00]⟩ = .ok (some "abc") ⟨3, [0x00]⟩ := by
  have isCount : IsCount [0x82] := .short (by decide) (by decide)
  have ascii : IsAscii "abc" := by simp [IsAscii]
  obtain ⟨counted, -, -⟩ := string?_decodes ⟨0, [0x82, 0xC3, 0xA9, 0x00]⟩
  obtain ⟨-, -, written⟩ := string?_decodes ⟨0, [0x61, 0x62, 0xE3, 0x00]⟩
  refine ⟨isCount, rfl, ?_, ascii, by decide, ?_⟩
  · exact (counted [0x82] 1 isCount ⟨_, rfl⟩ rfl (by decide) _ _).2 ⟨"é", rfl, rfl, by decide, rfl⟩
  · exact (written "abc" ⟨3, [0x00]⟩ ascii (by decide) ⟨by decide, rfl⟩).1

end Reader

end ProxyChain.Wire
