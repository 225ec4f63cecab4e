import ProxyChain.Decimal.Shortest
import Mathlib.Algebra.Group.Nat.Defs
import Mathlib.Tactic.Common

/-!
# Shortest decimals have digits

The search for the shortest decimal of a double ends on a grid that is finer than the interval of reals
that round to the double. Such a grid has a point inside, so that the digits that are found are never
zero (`shortest_pos`). Every double that comes from rounding is in the range in which this holds
(`inRange_of_ofScientific?`).
-/

namespace ProxyChain.Decimal

/-! ## Points on grids -/

namespace Neighbourhood

variable {n : Neighbourhood} {k : Int} {point : Nat}

/-- The unit of an interval on the scale on which it is compared with the grid `10 ^ k`. -/
def unit (n : Neighbourhood) (k : Int) : Nat :=
  (if 0 ≤ n.exponent then Nat.pow 2 n.exponent.toNat else 1) *
    (if 0 ≤ k then 1 else Nat.pow 10 (-k).toNat)

/-- The grid on that scale. -/
def grid (n : Neighbourhood) (k : Int) : Nat :=
  (if 0 ≤ n.exponent then 1 else Nat.pow 2 (-n.exponent).toNat) *
    (if 0 ≤ k then Nat.pow 10 k.toNat else 1)

/-- The last point of the grid that is not above the middle. -/
def below (n : Neighbourhood) (k : Int) : Nat := n.middle * n.unit k / n.grid k

/-- Units are positive. -/
lemma unit_pos (n : Neighbourhood) (k : Int) : 0 < n.unit k := by
  apply Nat.mul_pos
  · split
    · exact Nat.pow_pos (by decide)
    · decide
  · split
    · decide
    · exact Nat.pow_pos (by decide)

/-- Grids are positive. -/
lemma grid_pos (n : Neighbourhood) (k : Int) : 0 < n.grid k := by
  apply Nat.mul_pos
  · split
    · decide
    · exact Nat.pow_pos (by decide)
  · split
    · exact Nat.pow_pos (by decide)
    · decide

/-- The point that is found on a grid is one of the interval. -/
lemma contains_of_pointOn? (h : n.pointOn? k = some point) :
    n.contains (n.unit k) (n.grid k) point = true := by
  unfold pointOn? at h
  extract_lets unit grid target below above down up at h
  split at h
  · cases h
  · next inside _ => rwa [← Option.some.inj h]
  · next inside => rwa [← Option.some.inj h]
  · next insideBelow insideAbove =>
    split at h
    · rwa [← Option.some.inj h]
    · rwa [← Option.some.inj h]

/-- The point above the middle is found unless the one below it is nearer. -/
lemma isSome_pointOn? (h : n.contains (n.unit k) (n.grid k) (n.below k + 1) = true) :
    (n.pointOn? k).isSome = true := by
  unfold pointOn?
  extract_lets unit grid target below above down up
  have inside : n.contains unit grid above = true := h
  rw [inside]
  cases n.contains unit grid below with
  | false => rfl
  | true =>
    dsimp only
    split
    · rfl
    · rfl

/-- An interval of positive numbers does not hold the point zero. -/
lemma pos_of_pointOn? (low : 0 < n.low) (h : n.pointOn? k = some point) : 0 < point := by
  have inside := contains_of_pointOn? h
  have start : 0 < n.low * n.unit k := Nat.mul_pos low (n.unit_pos k)
  rcases Nat.eq_zero_or_pos point with rfl | pos
  · unfold contains at inside
    simp only [Nat.zero_mul] at inside
    split at inside
    · simp only [Bool.and_eq_true, decide_eq_true_eq] at inside
      omega
    · simp only [Bool.and_eq_true, decide_eq_true_eq] at inside
      omega
  · exact pos

/-- A grid no coarser than a unit has a point between the middle and the end two units above it. -/
lemma isSome_pointOn?_of_grid_le (around : n.low ≤ n.middle) (wide : n.middle + 2 ≤ n.high)
    (fine : n.grid k ≤ n.unit k) : (n.pointOn? k).isSome = true := by
  apply isSome_pointOn?
  have unitPos := n.unit_pos k
  have lower : n.low * n.unit k ≤ n.middle * n.unit k := Nat.mul_le_mul_right _ around
  have upper : n.middle * n.unit k + 2 * n.unit k ≤ n.high * n.unit k := by
    rw [← Nat.add_mul]
    exact Nat.mul_le_mul_right _ wide
  have above : n.middle * n.unit k < (n.below k + 1) * n.grid k := by
    rw [Nat.mul_comm (n.below k + 1)]
    exact Nat.lt_mul_div_succ _ (n.grid_pos k)
  have next : (n.below k + 1) * n.grid k ≤ n.middle * n.unit k + n.grid k := by
    rw [Nat.add_mul, Nat.one_mul]
    exact Nat.add_le_add_right (Nat.div_mul_le_self _ _) _
  unfold contains
  split
  · simp only [Bool.and_eq_true, decide_eq_true_eq]
    omega
  · simp only [Bool.and_eq_true, decide_eq_true_eq]
    omega

/-- A search that ends on a grid with a point finds a point other than zero. -/
lemma search_pos (low : 0 < n.low) {grids : Nat}
    (last : (n.pointOn? (k - grids)).isSome = true) : 0 < (n.search (grids + 1) k).1 := by
  -- A grid on the way either has a point or is passed, and the last one is not passed.
  induction grids generalizing k with
  | zero =>
    rw [Int.natCast_zero, Int.sub_zero] at last
    obtain ⟨point, found⟩ := Option.isSome_iff_exists.1 last
    simp only [search, found]
    exact pos_of_pointOn? low found
  | succ grids ih =>
    rw [search]
    split
    · next point found => exact pos_of_pointOn? low found
    · apply ih
      rw [Int.natCast_succ] at last
      rwa [Int.sub_sub, Int.add_comm 1]

end Neighbourhood

/-- One power is below another if powers of the bases and the exponents say so. -/
lemma pow_le_pow_of_pow_le {a b p q x y : Nat} (filled : p ≠ 0) (pos : 0 < b)
    (bases : a ^ p ≤ b ^ q) (exponents : q * x ≤ p * y) : a ^ x ≤ b ^ y := by
  rw [← Nat.pow_le_pow_iff_left filled]
  calc (a ^ x) ^ p = (a ^ p) ^ x := by rw [← Nat.pow_mul, ← Nat.pow_mul, Nat.mul_comm]
    _ ≤ (b ^ q) ^ x := Nat.pow_le_pow_left bases x
    _ = b ^ (q * x) := (Nat.pow_mul b q x).symm
    _ ≤ b ^ (p * y) := Nat.pow_le_pow_right pos exponents
    _ = (b ^ y) ^ p := by rw [← Nat.pow_mul, Nat.mul_comm]

namespace Binary64

/-- A significand of at most 54 bits and an exponent that finite doubles have. -/
structure InRange (x : Binary64) : Prop where
  significand : x.significand ≤ 2 ^ 54
  least : leastExponent ≤ x.exponent
  greatest : x.exponent ≤ greatestExponent

variable {x : Binary64}

/-- Nineteen grids below the place of the first digit a grid is no coarser than a quarter of the last
place. -/
lemma grid_le_unit (h : x.InRange) {k : Int}
    (late : k + 19 ≤ ((x.significand.log2 : Int) + 1 + x.exponent) * 30103 / 100000) :
    x.neighbourhood.grid k ≤ x.neighbourhood.unit k := by
  have bits : x.significand.log2 ≤ 54 := by
    by_cases zero : x.significand = 0
    · rw [zero]
      decide
    · have le : 2 ^ x.significand.log2 ≤ 2 ^ 54 :=
        Nat.le_trans (Nat.log2_self_le zero) h.significand
      exact (Nat.pow_le_pow_iff_right (by decide)).1 le
  obtain ⟨-, least, greatest⟩ := h
  simp only [leastExponent] at least
  simp only [greatestExponent] at greatest
  -- Both sides are integers: each power stands on the side on which its exponent is not negative.
  change (if 0 ≤ x.exponent - 2 then 1 else Nat.pow 2 (-(x.exponent - 2)).toNat) *
      (if 0 ≤ k then Nat.pow 10 k.toNat else 1)
    ≤ (if 0 ≤ x.exponent - 2 then Nat.pow 2 (x.exponent - 2).toNat else 1) *
      (if 0 ≤ k then 1 else Nat.pow 10 (-k).toNat)
  by_cases whole : 0 ≤ x.exponent - 2
  · rw [if_pos whole, if_pos whole, Nat.one_mul]
    by_cases coarse : 0 ≤ k
    · rw [if_pos coarse, if_pos coarse, Nat.mul_one]
      exact pow_le_pow_of_pow_le (p := 3) (q := 10) (by decide) (by decide) (by decide) (by omega)
    · rw [if_neg coarse, if_neg coarse]
      exact Nat.mul_pos (Nat.pow_pos (by decide)) (Nat.pow_pos (by decide))
  · have fine : ¬ 0 ≤ k := by omega
    rw [if_neg whole, if_neg whole, if_neg fine, if_neg fine, Nat.mul_one, Nat.one_mul]
    -- Ninety-three binary places are worth at most twenty-eight decimal ones.
    exact pow_le_pow_of_pow_le (p := 93) (q := 28) (by decide) (by decide) (by decide) (by omega)

/-- The digits of the shortest decimal are not zero. -/
theorem shortest_pos (h : x.InRange) (notZero : x.isZero = false) : 0 < x.shortest.1 := by
  have filled : x.significand ≠ 0 := by
    intro zero
    rw [isZero, zero] at notZero
    cases notZero
  have low : 0 < x.neighbourhood.low := by
    simp only [neighbourhood]
    split <;> omega
  have around : x.neighbourhood.low ≤ x.neighbourhood.middle := by
    simp only [neighbourhood]
    split <;> omega
  have late (first : Int) : first + 2 - (21 : Nat) + 19 ≤ first := by omega
  exact x.neighbourhood.search_pos low
    (Neighbourhood.isSome_pointOn?_of_grid_le around (Nat.le_refl _) (grid_le_unit h (late _)))

/-! ## Doubles that were rounded -/

/-- Zero is in range. -/
lemma inRange_zero (negative : Bool) : (zero negative).InRange where
  significand := Nat.zero_le _
  least := Int.le_refl _
  greatest := by
    change leastExponent ≤ greatestExponent
    decide

end Binary64

/-- Rounding a quotient adds no more than one to its whole part. -/
lemma roundDiv_le (num den : Nat) : roundDiv num den ≤ num / den + 1 := by
  unfold roundDiv
  extract_lets q r
  have bit : q % 2 < 2 := Nat.mod_lt _ (by decide)
  split
  · omega
  · split <;> omega

/-- A quotient is below the power of two that the logarithms tell. -/
lemma unscale_lt {num den : Nat} {e : Int} (pos : 0 < den)
    (scaled : (num.log2 : Int) + 1 ≤ 54 + den.log2 + e) :
    (unscale num den e).1 / (unscale num den e).2 < 2 ^ 54 := by
  have numBelow : num < 2 ^ (num.log2 + 1) := Nat.lt_log2_self
  have denAbove : 2 ^ den.log2 ≤ den := Nat.log2_self_le (Nat.ne_of_gt pos)
  unfold unscale
  split
  · next whole =>
    obtain ⟨f, rfl⟩ := Int.eq_ofNat_of_zero_le whole
    apply Nat.div_lt_of_lt_mul
    calc num < 2 ^ (num.log2 + 1) := numBelow
      _ ≤ 2 ^ (den.log2 + f + 54) := Nat.pow_le_pow_right (by decide) (by omega)
      _ = 2 ^ den.log2 * 2 ^ f * 2 ^ 54 := by rw [Nat.pow_add, Nat.pow_add]
      _ ≤ den * 2 ^ f * 2 ^ 54 := Nat.mul_le_mul_right _ (Nat.mul_le_mul_right _ denAbove)
  · next fine =>
    apply Nat.div_lt_of_lt_mul
    calc num * 2 ^ (-e).toNat < 2 ^ (num.log2 + 1) * 2 ^ (-e).toNat :=
          Nat.mul_lt_mul_of_pos_right numBelow (Nat.pow_pos (by decide))
      _ = 2 ^ (num.log2 + 1 + (-e).toNat) := (Nat.pow_add _ _ _).symm
      _ ≤ 2 ^ (den.log2 + 54) := Nat.pow_le_pow_right (by decide) (by omega)
      _ = 2 ^ den.log2 * 2 ^ 54 := Nat.pow_add _ _ _
      _ ≤ den * 2 ^ 54 := Nat.mul_le_mul_right _ denAbove

/-- A denominator of zero stays zero on any scale. -/
lemma unscale_zero (num : Nat) (e : Int) : (unscale num 0 e).2 = 0 := by
  unfold unscale
  split
  · exact Nat.zero_mul _
  · rfl

namespace Binary64

variable {negative : Bool} {num den : Nat} {x y z : Binary64}

/-- The exponent for a quotient is not too small, neither for a double nor for the quotient. -/
lemma exponentFor_bounds (num den : Nat) : leastExponent ≤ exponentFor num den ∧
    (num.log2 : Int) + 1 ≤ 54 + den.log2 + exponentFor num den := by
  unfold exponentFor
  extract_lets guess
  split
  split <;> omega

/-- The nearest double of a quotient is in range. -/
lemma inRange_nearest? (h : nearest? negative num den = some x) : x.InRange := by
  unfold nearest? at h
  split at h
  · cases h
    exact inRange_zero negative
  · next filled =>
    extract_lets e at h
    obtain ⟨least, scaled⟩ : leastExponent ≤ e ∧ (num.log2 : Int) + 1 ≤ 54 + den.log2 + e :=
      exponentFor_bounds num den
    have quotient : (unscale num den e).1 / (unscale num den e).2 < 2 ^ 54 := by
      rcases Nat.eq_zero_or_pos den with rfl | pos
      · rw [unscale_zero, Nat.div_zero]
        exact Nat.pow_pos (by decide)
      · exact unscale_lt pos scaled
    have normal : significandBound ≤ 2 ^ 54 := by decide
    clear_value e
    generalize unscale num den e = fraction at h quotient
    obtain ⟨n, d⟩ := fraction
    dsimp only at h quotient
    have bound : roundDiv n d ≤ 2 ^ 54 :=
      Nat.le_trans (roundDiv_le n d) (Nat.succ_le_of_lt quotient)
    generalize roundDiv n d = m at h bound
    generalize significandBound = half at h normal
    -- A significand that is rounded up to 54 bits is halved.
    by_cases carry : m = 2 * half
    · rw [if_pos carry] at h
      split at h
      · cases h
      · next finite =>
        cases h
        exact ⟨normal, Int.le_add_one least, Int.not_lt.1 finite⟩
    · rw [if_neg carry] at h
      split at h
      · cases h
      · next finite =>
        cases h
        exact ⟨bound, least, Int.not_lt.1 finite⟩

/-- The double of a number is in range. -/
lemma inRange_ofNat? {n : Nat} (h : ofNat? negative n = some x) : x.InRange := inRange_nearest? h

/-- A product is in range. -/
lemma inRange_mul? (h : x.mul? y = some z) : z.InRange := inRange_nearest? h

/-- A quotient is in range. -/
lemma inRange_div? (h : x.div? y = some z) : z.InRange := inRange_nearest? h

/-- What a double in range is multiplied to by powers of ten is in range. -/
lemma inRange_timesTen? {k : Nat} (range : x.InRange) (h : x.timesTen? k = some z) : z.InRange := by
  unfold timesTen? at h
  split at h
  · split at h
    · cases h
      exact range
    · cases h
  · obtain ⟨y, -, product⟩ := Option.bind_eq_some_iff.1 h
    exact inRange_mul? product

/-- What is divided by powers of ten is in range. -/
lemma inRange_overTen? {k : Nat} (h : x.overTen? k = some z) : z.InRange := by
  obtain ⟨y, -, rest⟩ := Option.bind_eq_some_iff.1 h
  obtain ⟨power, -, quotient⟩ := Option.bind_eq_some_iff.1 rest
  exact inRange_div? quotient

/-- The double of a decimal number is in range. -/
lemma inRange_ofScientific? {significand : Nat} {exponent : Int}
    (h : ofScientific? negative significand exponent = some z) : z.InRange := by
  obtain ⟨x, first, scaled⟩ := Option.bind_eq_some_iff.1 h
  split at scaled
  · exact inRange_timesTen? (inRange_ofNat? first) scaled
  · exact inRange_overTen? scaled

end Binary64

end ProxyChain.Decimal
