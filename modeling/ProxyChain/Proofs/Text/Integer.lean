import ProxyChain.Proofs.Text.Cut
import ProxyChain.Text.Integer

/-!
# Decimal integers are read back

What is read as an integer is a text that stands for it: its decimal digits, a sign in front or none
(`integer?_eq_some_iff`). An integer is read back from the decimal form that is written of it, whether or
not blanks around it are cut off first, in every width that it fits.
-/

namespace ProxyChain.Text

/-- A digit is read as its value. -/
lemma digit?_of_isDigit {c : Char} (h : c.isDigit = true) :
    digit? c = some (c.toNat - '0'.toNat) := by
  rw [Char.isDigit, Bool.and_eq_true, decide_eq_true_eq, decide_eq_true_eq] at h
  exact if_pos h

/-- Digits are read as the number that they write. -/
lemma digits?_of_isDigit {cs : List Char} (h : ∀ c ∈ cs, c.isDigit = true) (acc : Nat) :
    digits? acc cs = some (Nat.ofDigitChars 10 cs acc) := by
  induction cs generalizing acc with
  | nil => rfl
  | cons c cs ih =>
    rw [digits?, digit?_of_isDigit (h c List.mem_cons_self), Option.bind_some,
      ih fun c mem => h c (List.mem_cons_of_mem _ mem), Nat.ofDigitChars_cons, Nat.mul_comm acc]

/-- A number is written in digits. -/
lemma isDigit_of_mem_decimal {n : Nat} {c : Char} (mem : c ∈ decimal n) : c.isDigit = true :=
  Nat.isDigit_of_mem_toDigits (by decide) (by decide) mem

/-- There is a digit at least, in front. -/
lemma decimal_eq_cons (n : Nat) : ∃ c cs, decimal n = c :: cs ∧ c.isDigit = true := by
  cases digits : decimal n with
  | nil => exact absurd digits Nat.toDigits_ne_nil
  | cons c cs => exact ⟨c, cs, rfl, isDigit_of_mem_decimal (digits ▸ List.mem_cons_self)⟩

/-- A number is read back from its digits. -/
lemma natural?_decimal (n : Nat) : natural? (decimal n) = some n := by
  obtain ⟨c, cs, digits, -⟩ := decimal_eq_cons n
  have read := digits?_of_isDigit (fun c mem => isDigit_of_mem_decimal (n := n) mem) 0
  rw [decimal, Nat.ofDigitChars_ten_toDigits] at read
  rw [digits, natural?, ← digits]
  · exact read
  · exact List.cons_ne_nil c cs

/-- Where no sign stands in front a number is read. -/
lemma integer?_cons_of_isDigit {c : Char} (digit : c.isDigit = true) (cs : List Char) :
    integer? (c :: cs) = (natural? (c :: cs)).map Int.ofNat := by
  unfold integer?
  split
  · next same =>
    obtain ⟨rfl, -⟩ := List.cons.inj same
    cases digit
  · next same =>
    obtain ⟨rfl, -⟩ := List.cons.inj same
    cases digit
  · rfl

/-- A number is read back from its digits as an integer too. -/
lemma integer?_decimal (n : Nat) : integer? (decimal n) = some (n : Int) := by
  have read := natural?_decimal n
  obtain ⟨c, cs, digits, digit⟩ := decimal_eq_cons n
  rw [digits] at read ⊢
  rw [integer?_cons_of_isDigit digit, read]
  rfl

/-- An integer is read back from its decimal form. -/
lemma integer?_signedDecimal (n : Int) : integer? (signedDecimal n) = some n := by
  unfold signedDecimal
  split
  · next negative =>
    rw [integer?, natural?_decimal]
    change some (-(n.natAbs : Int)) = some n
    congr 1
    omega
  · next natural =>
    rw [integer?_decimal]
    congr 1
    omega

/-- No digit is blank. -/
lemma isBlank_of_isDigit {c : Char} (h : c.isDigit = true) : isBlank c = false := by
  rw [Char.isDigit, Bool.and_eq_true, decide_eq_true_eq, decide_eq_true_eq] at h
  obtain ⟨low, high⟩ := h
  have low' : 48 ≤ c.toNat := low
  have high' : c.toNat ≤ 57 := high
  simp only [isBlank, Bool.or_eq_false_iff, Bool.and_eq_false_iff, decide_eq_false_iff_not,
    beq_eq_false_iff_ne]
  omega

/-- An integer is written in digits, but for a sign. -/
lemma of_mem_signedDecimal {n : Int} {c : Char} (mem : c ∈ signedDecimal n) :
    c = '-' ∨ c.isDigit = true := by
  unfold signedDecimal at mem
  split at mem
  · rcases List.mem_cons.1 mem with rfl | mem
    · exact .inl rfl
    · exact .inr (isDigit_of_mem_decimal mem)
  · exact .inr (isDigit_of_mem_decimal mem)

/-- There are no blanks in an integer as it is written. -/
lemma isBlank_of_mem_signedDecimal {n : Int} {c : Char} (mem : c ∈ signedDecimal n) :
    isBlank c = false := by
  rcases of_mem_signedDecimal mem with rfl | digit
  · rfl
  · exact isBlank_of_isDigit digit

/-- There are none around it either. -/
lemma strip_signedDecimal (n : Int) : strip (signedDecimal n) = signedDecimal n :=
  strip_eq_self fun _ => isBlank_of_mem_signedDecimal

/-- An integer of 64 bits fits them. -/
lemma fitInt64?_toInt (n : Int64) : fitInt64? n.toInt = some n := by
  rw [fitInt64?, if_pos ⟨n.minValue_le_toInt, n.toInt_le⟩, Int64.ofInt_toInt]

/-- A number of 32 bits fits in 32 bits. -/
lemma fitInt32?_toInt (n : Int32) : fitInt32? n.toInt = some n := by
  rw [fitInt32?, if_pos ⟨n.minValue_le_toInt, n.toInt_le⟩, Int32.ofInt_toInt]

/-- A number of 16 bits fits in 16 bits. -/
lemma fitUInt16?_toNat (n : UInt16) : fitUInt16? n.toNat = some n := by
  have fits : (0 : Int) ≤ n.toNat ∧ (n.toNat : Int) < UInt16.size :=
    ⟨Int.natCast_nonneg _, by exact_mod_cast n.toNat_lt⟩
  rw [fitUInt16?, if_pos fits, Int.toNat_natCast, UInt16.ofNat_toNat]

/-- What fits 64 bits is kept as it is. -/
lemma fitInt64?_eq_some_iff {k : Int} {n : Int64} : fitInt64? k = some n ↔ k = n.toInt := by
  constructor
  · intro fits
    rw [fitInt64?] at fits
    split at fits
    · next bounds =>
      rw [← Option.some.inj fits, Int64.toInt_ofInt_of_le bounds.1 (Int.lt_add_one_of_le bounds.2)]
    · cases fits
  · rintro rfl
    exact fitInt64?_toInt n

/-- An integer of 32 bits is one of 64 bits. -/
lemma fitInt64?_toInt64 (n : Int32) : fitInt64? n.toInt = some n.toInt64 := by
  rw [← Int32.toInt_toInt64, fitInt64?_toInt]

/-- A number of 64 bits is read as it is written. -/
lemma int64?_signedDecimal (n : Int64) : int64? (signedDecimal n.toInt) = some n := by
  rw [int64?, integer?_signedDecimal, Option.bind_some, fitInt64?_toInt]

/-- A number of 16 bits is read as it is written. -/
lemma uint16?_decimal (n : UInt16) : uint16? (decimal n.toNat) = some n := by
  have read := integer?_decimal n.toNat
  obtain ⟨c, cs, digits, digit⟩ := decimal_eq_cons n.toNat
  rw [digits] at read ⊢
  unfold uint16?
  split
  · next same =>
    obtain ⟨rfl, -⟩ := List.cons.inj same
    cases digit
  · rw [read, Option.bind_some, fitUInt16?_toNat]

section Numerals

/-- Decimal digits and the number that they stand for. Zeros may stand in front. -/
inductive Denotes : List Char → Nat → Prop where
  | digit {d : Nat} (small : d < 10) : Denotes [d.digitChar] d
  | more {cs : List Char} {n d : Nat} (front : Denotes cs n) (small : d < 10) :
      Denotes (cs ++ [d.digitChar]) (10 * n + d)

/-- An integer in decimal, a sign in front of the digits or none. -/
inductive Numeral : List Char → Int → Prop where
  | plain {cs : List Char} {n : Nat} (digits : Denotes cs n) : Numeral cs n
  | plus {cs : List Char} {n : Nat} (digits : Denotes cs n) : Numeral ('+' :: cs) n
  | minus {cs : List Char} {n : Nat} (digits : Denotes cs n) : Numeral ('-' :: cs) (-n)

variable {cs : List Char} {c : Char} {n d : Nat}

/-- There is at least one digit. -/
lemma Denotes.ne_nil (denotes : Denotes cs n) : cs ≠ [] := by
  cases denotes with
  | digit => exact List.cons_ne_nil _ _
  | more => simp

/-- Nothing but digits stands for a number. -/
lemma Denotes.isDigit (denotes : Denotes cs n) : ∀ c ∈ cs, c.isDigit = true := by
  induction denotes with
  | digit small => simpa [Nat.isDigit_digitChar] using small
  | more _ small ih =>
    refine List.forall_mem_append.2 ⟨ih, ?_⟩
    simpa [Nat.isDigit_digitChar] using small

/-- The value of a digit is the one that it is written for. -/
lemma digit?_eq_some_iff : digit? c = some d ↔ d < 10 ∧ d.digitChar = c := by
  constructor
  · intro value
    rw [digit?] at value
    split at value
    · next range =>
      have low : 48 ≤ c.toNat := range.1
      have high : c.toNat ≤ 57 := range.2
      have is : c.toNat - 48 = d := Option.some.inj value
      have small : d < 10 := by omega
      have code : ∀ d < 10, d.digitChar.toNat = d + 48 := by decide
      refine ⟨small, Char.toNat_inj.1 ?_⟩
      rw [code d small]
      omega
    · cases value
  · rintro ⟨small, rfl⟩
    have read : ∀ d < 10, digit? d.digitChar = some d := by decide
    exact read d small

/-- The last digit counts once, those before it tenfold. -/
lemma digits?_concat (acc : Nat) (cs : List Char) (c : Char) : digits? acc (cs ++ [c])
    = (digits? acc cs).bind fun n => (digit? c).map fun d => n * 10 + d := by
  induction cs generalizing acc with
  | nil =>
    rw [List.nil_append, digits?, digits?, Option.bind_some]
    cases digit? c <;> rfl
  | cons first cs ih =>
    rw [List.cons_append, digits?, digits?]
    cases digit? first with
    | none => rfl
    | some d => exact ih _

/-- Where there is anything the digits are read from zero on. -/
lemma natural?_of_ne_nil (filled : cs ≠ []) : natural? cs = digits? 0 cs := by
  cases cs with
  | nil => exact absurd rfl filled
  | cons c cs => rfl

/-- A number is read from the digits that stand for it, and from nothing else. -/
lemma natural?_eq_some_iff : natural? cs = some n ↔ Denotes cs n := by
  constructor
  · intro read
    induction cs using List.reverseRecOn generalizing n with
    | nil => cases read
    | append_singleton cs c ih =>
      rw [natural?_of_ne_nil (by simp), digits?_concat] at read
      obtain ⟨m, front, read⟩ := Option.bind_eq_some_iff.1 read
      obtain ⟨d, value, rfl⟩ := Option.map_eq_some_iff.1 read
      obtain ⟨small, rfl⟩ := digit?_eq_some_iff.1 value
      by_cases first : cs = []
      · subst first
        obtain rfl : 0 = m := Option.some.inj front
        rw [Nat.zero_mul, Nat.zero_add]
        exact .digit small
      · rw [Nat.mul_comm]
        exact .more (ih (natural?_of_ne_nil first ▸ front)) small
  · intro denotes
    induction denotes with
    | digit small =>
      rw [natural?, digits?, digit?_eq_some_iff.2 ⟨small, rfl⟩, Option.bind_some, digits?,
        Nat.zero_mul, Nat.zero_add]
      exact List.cons_ne_nil _ _
    | @more cs n d front small ih =>
      rw [natural?_of_ne_nil front.ne_nil] at ih
      rw [natural?_of_ne_nil (by simp), digits?_concat, ih, digit?_eq_some_iff.2 ⟨small, rfl⟩,
        Option.bind_some, Option.map_some, Nat.mul_comm]

/-- An integer is read from what stands for it, and from nothing else. -/
theorem integer?_eq_some_iff {n : Int} : integer? cs = some n ↔ Numeral cs n := by
  constructor
  · intro read
    unfold integer? at read
    split at read
    · obtain ⟨k, lifted, rfl⟩ := Option.map_eq_some_iff.1 read
      obtain ⟨m, natural, same⟩ := Option.bind_eq_some_iff.1 lifted
      cases same
      exact .minus (natural?_eq_some_iff.1 natural)
    · obtain ⟨m, natural, rfl⟩ := Option.map_eq_some_iff.1 read
      exact .plus (natural?_eq_some_iff.1 natural)
    · obtain ⟨m, natural, rfl⟩ := Option.map_eq_some_iff.1 read
      exact .plain (natural?_eq_some_iff.1 natural)
  · intro numeral
    cases numeral with
    | @plain _ m digits =>
      have natural := natural?_eq_some_iff.2 digits
      cases cs with
      | nil => exact absurd rfl digits.ne_nil
      | cons c cs =>
        rw [integer?_cons_of_isDigit (digits.isDigit c List.mem_cons_self), natural]
        rfl
    | plus digits =>
      rw [integer?, natural?_eq_some_iff.2 digits]
      rfl
    | minus digits =>
      rw [integer?, natural?_eq_some_iff.2 digits]
      rfl

/-- Nothing but digits and signs stands for an integer. -/
lemma Numeral.isDigit_or_sign {n : Int} (numeral : Numeral cs n) :
    ∀ c ∈ cs, c.isDigit = true ∨ c = '+' ∨ c = '-' := by
  intro c mem
  cases numeral with
  | plain digits => exact .inl (digits.isDigit c mem)
  | plus digits =>
    rcases List.mem_cons.1 mem with rfl | mem
    · exact .inr (.inl rfl)
    · exact .inl (digits.isDigit c mem)
  | minus digits =>
    rcases List.mem_cons.1 mem with rfl | mem
    · exact .inr (.inr rfl)
    · exact .inl (digits.isDigit c mem)

end Numerals

end ProxyChain.Text
