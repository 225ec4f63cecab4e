import ProxyChain.Decimal.Shortest
import ProxyChain.Json.Basic
import ProxyChain.Text.Integer

/-!
# Numbers as text

An integer is written in decimal. A double is written with its shortest digits: positionally with at
least one digit after the point from `10 ^ -5` up to but not including `10 ^ 16`, else in scientific
notation with a sign on every exponent.

A literal without fraction and exponent whose value fits 64 bits is an integer; minus zero is not.
Any other literal is a double. Its significand keeps digits from the front as long as they fit 64
bits.
-/

namespace ProxyChain.Number

open Decimal Text

/-- How many digits before the point the positional notation has at most. -/
def mostWholeDigits : Int := 16

/-- How many zeros it has at most between the point and the first other digit. -/
def mostLeadingZeros : Int := 4

/-- The text of `digits * 10 ^ exponent`. -/
def decimalChars (digits : Nat) (exponent : Int) : List Char :=
  let ds := decimal digits
  let point : Int := ds.length + exponent
  if -mostLeadingZeros ≤ point ∧ point ≤ mostWholeDigits then
    if 0 ≤ exponent then ds ++ List.replicate exponent.toNat '0' ++ ".0".toList
    else if 0 < point then ds.take point.toNat ++ '.' :: ds.drop point.toNat
    else "0.".toList ++ List.replicate (-point).toNat '0' ++ ds
  else
    let mantissa := if ds.length ≤ 1 then ds else ds.take 1 ++ '.' :: ds.drop 1
    let power := point - 1
    mantissa ++ 'e' :: (if 0 < power then ['+'] else []) ++ signedDecimal power

/-- The text of a double. -/
def doubleChars (x : Binary64) : List Char :=
  let magnitude :=
    if x.isZero then "0.0".toList
    else
      let (digits, exponent) := x.shortest
      decimalChars digits exponent
  if x.negative then '-' :: magnitude else magnitude

/-- The text of a number. -/
def chars : Number → List Char
  | .integer n => signedDecimal n
  | .double x => doubleChars x

/-- A number literal taken apart: digits as values, the exponent with its sign. -/
structure Literal where
  negative : Bool
  whole : List Nat
  fraction : Option (List Nat)
  exponent : Option (Bool × List Nat)
  deriving DecidableEq, Repr

/-- The significand stays below this bound. -/
def significandBound : Nat := UInt64.size

/-- Takes digits on while the significand stays below its bound; gives back those not taken. -/
def takeDigits (significand : Nat) : List Nat → Nat × List Nat
  | [] => (significand, [])
  | d :: ds =>
    if significand * 10 + d < significandBound then takeDigits (significand * 10 + d) ds
    else (significand, d :: ds)

/-- The value of digits, most significant first. -/
def digitsValue (ds : List Nat) : Nat := ds.foldl (fun n d => n * 10 + d) 0

/-- The number that a literal stands for, unless it is too large for a double. Whole digits not
taken still count as places, fraction digits not taken do not. -/
def ofLiteral? (l : Literal) : Option Number :=
  let (whole, wholeLeft) := takeDigits 0 l.whole
  match l.fraction, l.exponent, wholeLeft with
  | none, none, [] =>
    if !l.negative then some (.integer whole)
    else if 1 ≤ whole ∧ Int64.minValue.toInt ≤ -(whole : Int) then some (.integer (-(whole : Int)))
    else (Binary64.ofNat? true whole).map .double
  | fraction, exponent, wholeLeft =>
    let fraction := fraction.getD []
    let (significand, fractionLeft) := takeDigits whole fraction
    let places : Int := (wholeLeft.length : Int) - (fraction.length - fractionLeft.length : Nat)
    let power : Int :=
      match exponent with
      | none => 0
      | some (false, ds) => digitsValue ds
      | some (true, ds) => -(digitsValue ds : Int)
    (Binary64.ofScientific? l.negative significand (places + power)).map .double

end ProxyChain.Number
