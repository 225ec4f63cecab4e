import ProxyChain.Decimal.Binary64

/-!
# The shortest decimal of a double

Every double owns the interval of reals that round to it; the ends belong to it when its significand
is even. The shortest decimal is the coarsest power-of-ten grid's point in that interval, and of two
such points the one nearer to the double.
-/

namespace ProxyChain.Decimal

/-- A positive real between two others, as multiples of one unit `2 ^ exponent`. -/
structure Neighbourhood where
  low : Nat
  middle : Nat
  high : Nat
  exponent : Int
  /-- Whether the ends belong to it. -/
  closed : Bool
  deriving DecidableEq, Repr

namespace Binary64

/-- The reals that round to `x`, in quarters of its last place. Below a power of two the doubles lie
twice as close. -/
def neighbourhood (x : Binary64) : Neighbourhood where
  low := if x.significand = significandBound ∧ leastExponent < x.exponent then 4 * x.significand - 1
    else 4 * x.significand - 2
  middle := 4 * x.significand
  high := 4 * x.significand + 2
  exponent := x.exponent - 2
  closed := x.significand % 2 == 0

end Binary64

namespace Neighbourhood

/-- Whether `point` multiples of `grid` lie in the interval whose multiples of `unit` are given. -/
def contains (n : Neighbourhood) (unit grid point : Nat) : Bool :=
  let p := point * grid
  if n.closed then n.low * unit ≤ p && p ≤ n.high * unit
  else n.low * unit < p && p < n.high * unit

/-- The point of the grid `10 ^ k` in the interval, the nearer one if there are two neighbours. -/
def pointOn? (n : Neighbourhood) (k : Int) : Option Nat :=
  let unit := (if 0 ≤ n.exponent then Nat.pow 2 n.exponent.toNat else 1) *
    (if 0 ≤ k then 1 else Nat.pow 10 (-k).toNat)
  let grid := (if 0 ≤ n.exponent then 1 else Nat.pow 2 (-n.exponent).toNat) *
    (if 0 ≤ k then Nat.pow 10 k.toNat else 1)
  let target := n.middle * unit
  let below := target / grid
  let above := below + 1
  match n.contains unit grid below, n.contains unit grid above with
  | false, false => none
  | true, false => some below
  | false, true => some above
  | true, true =>
    let down := target - below * grid
    let up := above * grid - target
    if down < up ∨ (down = up ∧ below % 2 = 0) then some below else some above

/-- The first grid with a point, from `10 ^ k` on towards finer ones. -/
def search (n : Neighbourhood) : (grids : Nat) → (k : Int) → Nat × Int
  | 0, k => (0, k)
  | grids + 1, k =>
    match n.pointOn? k with
    | some point => (point, k)
    | none => n.search grids (k - 1)

end Neighbourhood

/-- Digits and power of ten of the shortest decimal of a double other than zero. A double has at most
seventeen digits, and the first grid is at most two digits too coarse. -/
def Binary64.shortest (x : Binary64) : Nat × Int :=
  let bits : Int := (x.significand.log2 : Int) + 1 + x.exponent
  x.neighbourhood.search 22 (bits * 30103 / 100000 + 2)

end ProxyChain.Decimal
