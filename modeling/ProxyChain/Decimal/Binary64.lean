/-!
# Finite binary64 numbers

A finite double as exact data: a sign, a natural significand and a power of two. Arithmetic forms
the exact result as a quotient of natural numbers and rounds it once, to the nearest double, a half
going to the even neighbour. A result beyond the largest finite double is `none`.
-/

namespace ProxyChain.Decimal

/-- The number `± significand * 2 ^ exponent`. -/
structure Binary64 where
  negative : Bool
  significand : Nat
  exponent : Int
  deriving DecidableEq, Repr

/-- The quotient rounded to the nearest natural number, a half to the even one. -/
def roundDiv (num den : Nat) : Nat :=
  let q := num / den
  let r := num % den
  if 2 * r < den then q else if den < 2 * r then q + 1 else q + q % 2

/-- Numerator and denominator of `num / den / 2 ^ e`. -/
def unscale (num den : Nat) (e : Int) : Nat × Nat :=
  if 0 ≤ e then (num, den * Nat.pow 2 e.toNat) else (num * Nat.pow 2 (-e).toNat, den)

namespace Binary64

/-- Normal significands reach from this bound up to twice it. -/
def significandBound : Nat := Nat.pow 2 52

/-- The exponent of zero, of the subnormal numbers and of the least normal ones. -/
def leastExponent : Int := -1074

/-- The exponent of the largest finite numbers. -/
def greatestExponent : Int := 971

/-- A zero of either sign. -/
def zero (negative : Bool) : Binary64 := ⟨negative, 0, leastExponent⟩

/-- Whether the number is a zero. -/
def isZero (x : Binary64) : Bool := x.significand == 0

/-- The exponent that gives `num / den` a significand of 53 bits, or the least one. -/
def exponentFor (num den : Nat) : Int :=
  let guess : Int := (num.log2 : Int) - (den.log2 : Int) - 52
  let (n, d) := unscale num den guess
  max leastExponent (if d * significandBound ≤ n then guess else guess - 1)

/-- The double nearest to `± num / den`, unless that is too large. -/
def nearest? (negative : Bool) (num den : Nat) : Option Binary64 :=
  if num = 0 then some (zero negative)
  else
    let e := exponentFor num den
    let (n, d) := unscale num den e
    let m := roundDiv n d
    let (m, e) := if m = 2 * significandBound then (significandBound, e + 1) else (m, e)
    if greatestExponent < e then none else some ⟨negative, m, e⟩

/-- The product, rounded. -/
def mul? (x y : Binary64) : Option Binary64 :=
  let (num, den) := unscale (x.significand * y.significand) 1 (-(x.exponent + y.exponent))
  nearest? (x.negative != y.negative) num den

/-- The quotient, rounded. -/
def div? (x y : Binary64) : Option Binary64 :=
  let (num, den) := unscale x.significand y.significand (y.exponent - x.exponent)
  nearest? (x.negative != y.negative) num den

/-- The double nearest to a natural number. -/
def ofNat? (negative : Bool) (n : Nat) : Option Binary64 := nearest? negative n 1

/-- The largest power of ten below the largest finite double. -/
def greatestTenPower : Nat := 308

/-- The double nearest to `10 ^ k`. -/
def tenPower? (k : Nat) : Option Binary64 := ofNat? false (Nat.pow 10 k)

/-- Multiplies by the double nearest to `10 ^ k`. -/
def timesTen? (x : Binary64) (k : Nat) : Option Binary64 :=
  if greatestTenPower < k then (if x.isZero then some x else none)
  else (tenPower? k).bind x.mul?

/-- Divides by the greatest power of ten, `times` times or until nothing is left. -/
def overGreatest? (x : Binary64) : (times : Nat) → Option Binary64
  | 0 => some x
  | times + 1 =>
    if x.isZero then some x
    else ((tenPower? greatestTenPower).bind x.div?).bind fun y => y.overGreatest? times

/-- Divides by doubles nearest to powers of ten whose exponents add up to `k`, the greatest power
first. -/
def overTen? (x : Binary64) (k : Nat) : Option Binary64 :=
  let times := (k - 1) / greatestTenPower
  (x.overGreatest? times).bind fun y => (tenPower? (k - times * greatestTenPower)).bind y.div?

/-- `± significand * 10 ^ exponent`, rounded when the significand becomes a double and again at each
scaling step. -/
def ofScientific? (negative : Bool) (significand : Nat) (exponent : Int) : Option Binary64 :=
  (ofNat? negative significand).bind fun x =>
    if 0 ≤ exponent then x.timesTen? exponent.toNat else x.overTen? (-exponent).toNat

end Binary64

end ProxyChain.Decimal
