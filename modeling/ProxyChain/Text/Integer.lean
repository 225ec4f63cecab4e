/-!
# Decimal integers

Reading takes an optional sign and at least one ASCII digit, nothing else, and refuses a value
that does not fit the wanted width. A minus sign belongs to signed widths only.
-/

namespace ProxyChain.Text

/-- The value of a digit. -/
def digit? (c : Char) : Option Nat :=
  if '0' ≤ c ∧ c ≤ '9' then some (c.toNat - '0'.toNat) else none

/-- Reads digits on from the value `acc`. -/
def digits? (acc : Nat) : List Char → Option Nat
  | [] => some acc
  | c :: rest => (digit? c).bind fun d => digits? (acc * 10 + d) rest

/-- A number written with at least one digit and no sign. -/
def natural? : List Char → Option Nat
  | [] => none
  | cs => digits? 0 cs

/-- A number with an optional sign. -/
def integer? : List Char → Option Int
  | '-' :: cs => (natural? cs).map fun n => -(n : Int)
  | '+' :: cs => (natural? cs).map Int.ofNat
  | cs => (natural? cs).map Int.ofNat

/-- `n`, if it fits 64 bits with a sign. -/
def fitInt64? (n : Int) : Option Int64 :=
  if Int64.minValue.toInt ≤ n ∧ n ≤ Int64.maxValue.toInt then some (Int64.ofInt n) else none

/-- `n`, if it fits 32 bits with a sign. -/
def fitInt32? (n : Int) : Option Int32 :=
  if Int32.minValue.toInt ≤ n ∧ n ≤ Int32.maxValue.toInt then some (Int32.ofInt n) else none

/-- `n`, if it fits 16 bits without a sign. -/
def fitUInt16? (n : Int) : Option UInt16 :=
  if 0 ≤ n ∧ n < UInt16.size then some (UInt16.ofNat n.toNat) else none

/-- A signed integer of 64 bits. -/
def int64? (cs : List Char) : Option Int64 := (integer? cs).bind fitInt64?

/-- An unsigned integer of 16 bits. A plus sign may stand in front, a minus sign not. -/
def uint16? : List Char → Option UInt16
  | '-' :: _ => none
  | cs => (integer? cs).bind fitUInt16?

/-- The decimal digits of a natural number. -/
def decimal (n : Nat) : List Char := Nat.toDigits 10 n

/-- An integer in decimal, a minus sign in front when it is negative. -/
def signedDecimal (n : Int) : List Char :=
  if n < 0 then '-' :: decimal n.natAbs else decimal n.natAbs

/-- An integer in decimal as a string. -/
def showInt (n : Int) : String := String.ofList (signedDecimal n)

/-- A natural number in decimal as a string. -/
def showNat (n : Nat) : String := String.ofList (decimal n)

end ProxyChain.Text
