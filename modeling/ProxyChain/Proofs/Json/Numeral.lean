import ProxyChain.Json.Number
import ProxyChain.Proofs.Decimal.Shortest
import ProxyChain.Proofs.Json.Grammar
import ProxyChain.Proofs.Text.Integer

/-!
# Numbers are written as the grammar has them

A number is `Proper` if it is an integer or a double in range. Such a number is written as a JSON
number, in whichever notation (`isNumber_chars`), and only such numbers are read
(`proper_of_ofLiteral?`).
-/

namespace ProxyChain

namespace Json

variable {cs ds : List Char}

/-- Digits go on with digits. -/
lemma IsDigits.append (h : IsDigits cs) (h' : ∀ c ∈ ds, c.isDigit = true) : IsDigits (cs ++ ds) where
  filled := fun empty => h.filled (List.append_eq_nil_iff.1 empty).1
  digits := List.forall_mem_append.2 ⟨h.digits, h'⟩

/-- Digits may come before digits. -/
lemma IsDigits.append_left (h : IsDigits ds) (h' : ∀ c ∈ cs, c.isDigit = true) :
    IsDigits (cs ++ ds) where
  filled := fun empty => h.filled (List.append_eq_nil_iff.1 empty).2
  digits := List.forall_mem_append.2 ⟨h', h.digits⟩

/-- The first ones of some digits are digits. -/
lemma IsDigits.take (h : IsDigits cs) {n : Nat} (pos : 0 < n) : IsDigits (cs.take n) where
  filled := fun empty => (List.take_eq_nil_iff.1 empty).elim (Nat.ne_of_gt pos) h.filled
  digits := fun c mem => h.digits c (List.mem_of_mem_take mem)

/-- What is left of some digits are digits. -/
lemma IsDigits.drop (h : IsDigits cs) {n : Nat} (shorter : n < cs.length) : IsDigits (cs.drop n) where
  filled := fun empty => Nat.not_le_of_gt shorter (List.drop_eq_nil_iff.1 empty)
  digits := fun c mem => h.digits c (List.mem_of_mem_drop mem)

/-- A number is written in digits. -/
lemma isDigits_decimal (n : Nat) : IsDigits (Text.decimal n) where
  filled := Nat.toDigits_ne_nil
  digits := fun _ => Text.isDigit_of_mem_decimal

/-- A zero is a digit. -/
lemma isDigits_zero : IsDigits ['0'] := isDigits_decimal 0

/-- Zeros are digits. -/
lemma isDigit_of_mem_zeros {n : Nat} {c : Char} (mem : c ∈ List.replicate n '0') :
    c.isDigit = true := by
  rw [List.eq_of_mem_replicate mem]
  rfl

/-- A number other than zero does not start with the digit zero. -/
lemma head?_decimal {n : Nat} (pos : 0 < n) : (Text.decimal n).head? ≠ some '0' := by
  induction n using Nat.strongRecOn with
  | ind n ih =>
    unfold Text.decimal at ih ⊢
    by_cases single : n < 10
    · rw [Nat.toDigits_of_lt_base single]
      have digit : ∀ d < 10, 0 < d → [d.digitChar].head? ≠ some '0' := by decide
      exact digit n single pos
    · have tens : 0 < n / 10 := Nat.div_pos (Nat.not_lt.1 single) (by decide)
      rw [Nat.toDigits_of_base_le (by decide) (Nat.not_lt.1 single),
        List.head?_append_of_ne_nil _ Nat.toDigits_ne_nil]
      exact ih (n / 10) (Nat.div_lt_self pos (by decide)) tens

/-- A number is written without a zero in front. -/
lemma isWhole_decimal (n : Nat) : IsWhole (Text.decimal n) := by
  rcases Nat.eq_zero_or_pos n with rfl | pos
  · exact .zero
  · exact .digits (isDigits_decimal n) (head?_decimal pos)

/-- A whole part and a fraction are a magnitude. -/
lemma IsMagnitude.pointed (whole : IsWhole cs) (fraction : IsDigits ds) :
    IsMagnitude (cs ++ '.' :: ds) := by
  have parts := IsMagnitude.parts whole (.digits fraction) .absent
  rwa [List.append_nil] at parts

/-- A whole part alone is a magnitude. -/
lemma IsMagnitude.whole (whole : IsWhole cs) : IsMagnitude cs := by
  have parts := IsMagnitude.parts whole .absent .absent
  rwa [List.append_nil, List.append_nil] at parts

end Json

namespace Number

open Json Text Decimal

/-- An integer is written as a number. -/
lemma isNumber_signedDecimal (n : Int) : IsNumber (signedDecimal n) := by
  unfold signedDecimal
  split
  · exact .negative (.whole (isWhole_decimal _))
  · exact .positive (.whole (isWhole_decimal _))

/-- The power of ten after its mark, a sign in front. -/
lemma isExponent_signed (power : Int) :
    IsExponent ('e' :: (if 0 < power then ['+'] else []) ++ signedDecimal power) := by
  have digits := isDigits_decimal power.natAbs
  unfold signedDecimal
  rcases Int.lt_trichotomy power 0 with negative | rfl | positive
  · rw [if_neg (by omega), if_pos negative]
    have signed : IsExponent ('e' :: ['-'] ++ decimal power.natAbs) := .digits rfl .minus digits
    exact signed
  · exact .digits rfl .absent digits
  · rw [if_pos positive, if_neg (by omega)]
    exact .digits rfl .plus digits

/-- Digits of a number other than zero are written as a magnitude in every notation. -/
lemma isMagnitude_decimalChars {digits : Nat} (pos : 0 < digits) (exponent : Int) :
    IsMagnitude (decimalChars digits exponent) := by
  have filled := isDigits_decimal digits
  have first := head?_decimal pos
  have front {n : Nat} (some : 0 < n) : IsWhole ((decimal digits).take n) := by
    apply IsWhole.digits (filled.take some)
    rwa [List.head?_take, if_neg (Nat.ne_of_gt some)]
  unfold decimalChars
  extract_lets ds point mantissa power
  have place : point = (decimal digits).length + exponent := rfl
  split
  · split
    · refine .pointed (.digits (filled.append fun _ => isDigit_of_mem_zeros) ?_) isDigits_zero
      rwa [List.head?_append_of_ne_nil _ filled.filled]
    · split
      · exact .pointed (front (by omega)) (filled.drop (by omega))
      · exact .pointed .zero (filled.append_left fun _ => isDigit_of_mem_zeros)
  · have scale := isExponent_signed power
    rw [List.append_assoc]
    by_cases single : ds.length ≤ 1
    · have parts := IsMagnitude.parts (.digits filled first) .absent scale
      rw [List.append_nil] at parts
      rwa [show mantissa = ds from if_pos single]
    · rw [show mantissa = ds.take 1 ++ '.' :: ds.drop 1 from if_neg single]
      exact .parts (front Nat.one_pos) (.digits (filled.drop (Nat.not_le.1 single))) scale

/-- A double in range is written as a number. -/
lemma isNumber_doubleChars {x : Binary64} (range : x.InRange) : IsNumber (doubleChars x) := by
  have magnitude : IsMagnitude (if x.isZero then "0.0".toList
      else decimalChars x.shortest.1 x.shortest.2) := by
    split
    · exact .pointed .zero isDigits_zero
    · next notZero =>
      exact isMagnitude_decimalChars (Binary64.shortest_pos range (by simpa using notZero)) _
  unfold doubleChars
  extract_lets written
  split
  · exact .negative magnitude
  · exact .positive magnitude

/-- An integer, or a double in range. -/
def Proper : Number → Prop
  | .integer _ => True
  | .double x => x.InRange

/-- A proper number is written as the grammar has it. -/
theorem isNumber_chars {n : Number} (proper : n.Proper) : IsNumber n.chars := by
  cases n with
  | integer n => exact isNumber_signedDecimal n
  | double x => exact isNumber_doubleChars proper

/-- A number that a literal stands for is a proper one. -/
theorem proper_of_ofLiteral? {l : Literal} {n : Number} (h : ofLiteral? l = some n) : n.Proper := by
  unfold ofLiteral? at h
  dsimp only at h
  split at h
  · split at h
    · cases h
      trivial
    · split at h
      · cases h
        trivial
      · obtain ⟨x, rounded, rfl⟩ := Option.map_eq_some_iff.1 h
        exact Binary64.inRange_ofNat? rounded
  · obtain ⟨x, rounded, rfl⟩ := Option.map_eq_some_iff.1 h
    exact Binary64.inRange_ofScientific? rounded

end Number

end ProxyChain
