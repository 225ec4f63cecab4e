import ProxyChain.Json.Number
import ProxyChain.Rounds

/-!
# Scanning JSON text

A scanner reads from the front of the text that is left and fails with one of three faults. Loops
over elements are bounded by the number of characters left, since each round reads at least one.
-/

namespace ProxyChain

/-- Why a text is not the JSON that was wanted. -/
inductive TextError where
  /-- The text ends too early. -/
  | endOfInput
  /-- The text breaks the JSON grammar, nests too deeply or holds a number that is too large. -/
  | malformed
  /-- The text is JSON so far, but a value of another type, range or name was wanted. -/
  | mismatch
  deriving DecidableEq, Repr

/-- The class of the fault, in angle brackets. -/
def TextError.message : TextError → String
  | .endOfInput => "<json eof>"
  | .malformed => "<json syntax>"
  | .mismatch => "<json data>"

/-- A reader of the text that is left. -/
abbrev Scan := StateT (List Char) (Except TextError)

namespace Scan

/-- Gives up. -/
def fail {α : Type} (e : TextError) : Scan α := fun _ => .error e

/-- The white space of JSON. -/
def isSpace (c : Char) : Bool := c == ' ' || c == '\n' || c == '\t' || c == '\r'

/-- Drops white space. -/
def skipSpace : Scan Unit := fun text => .ok ((), text.dropWhile isSpace)

/-- The next character, left where it is. -/
def peek? : Scan (Option Char) := fun text => .ok (text.head?, text)

/-- Reads one character. -/
def next : Scan Char
  | [] => .error .endOfInput
  | c :: text => .ok (c, text)

/-- Reads the character `c`. -/
def expect (c : Char) : Scan Unit
  | [] => .error .endOfInput
  | d :: text => if d = c then .ok ((), text) else .error .malformed

/-- Reads the character `c` if it is next. -/
def accept (c : Char) : Scan Bool
  | [] => .ok (false, [])
  | d :: text => if d = c then .ok (true, text) else .ok (false, d :: text)

/-- Reads the characters of `word`. -/
def word : List Char → Scan Unit
  | [] => pure ()
  | c :: cs => do
    expect c
    word cs

/-- Repeats `step` until it gives a result. Each round has to read something. -/
def loop {σ β : Type} (step : σ → Scan (σ ⊕ β)) (s : σ) : Scan β :=
  fun text => rounds (fail .malformed) step (text.length + 1) s text

/-- The rest of an array after its opening bracket. -/
def items {α : Type} (item : Scan α) : Scan (List α) := do
  skipSpace
  if ← accept ']' then return []
  loop (fun done => do
    let x ← item
    skipSpace
    match ← next with
    | ',' => return .inl (x :: done)
    | ']' => return .inr (x :: done).reverse
    | _ => fail .malformed) []

/-- The rest of an object after its opening brace. -/
def fields {κ α : Type} (key : Scan κ) (item : Scan α) : Scan (List (κ × α)) := do
  skipSpace
  if ← accept '}' then return []
  loop (fun done => do
    skipSpace
    expect '"'
    let k ← key
    skipSpace
    expect ':'
    let x ← item
    skipSpace
    match ← next with
    | ',' => return .inl ((k, x) :: done)
    | '}' => return .inr ((k, x) :: done).reverse
    | _ => fail .malformed) []

/-! ## Strings -/

/-- The value of a hexadecimal digit. -/
def hexDigit? (c : Char) : Option Nat :=
  if '0' ≤ c ∧ c ≤ '9' then some (c.toNat - '0'.toNat)
  else if 'a' ≤ c ∧ c ≤ 'f' then some (c.toNat - 'a'.toNat + 10)
  else if 'A' ≤ c ∧ c ≤ 'F' then some (c.toNat - 'A'.toNat + 10)
  else none

/-- What a one-letter escape stands for. -/
def escaped? : Char → Option Char
  | '"' => some '"'
  | '\\' => some '\\'
  | '/' => some '/'
  | 'b' => some '\x08'
  | 'f' => some '\x0c'
  | 'n' => some '\n'
  | 'r' => some '\r'
  | 't' => some '\t'
  | _ => none

/-- Whether fewer than four bytes are left, too few for a code unit. -/
def endsWithinUnit (text : List Char) : Bool :=
  (text.take 4).foldl (fun bytes c => bytes + c.utf8Size) 0 < 4

/-- The first half of a surrogate pair. -/
def isHighSurrogate (n : Nat) : Bool := 0xD800 ≤ n && n ≤ 0xDBFF

/-- The second half of a surrogate pair. -/
def isLowSurrogate (n : Nat) : Bool := 0xDC00 ≤ n && n ≤ 0xDFFF

/-- The character of a surrogate pair. -/
def pairChar (high low : Nat) : Char :=
  Char.ofNat ((high - 0xD800) * 0x400 + (low - 0xDC00) + 0x10000)

/-- Where a scanner stands inside a string. -/
inductive Inside where
  /-- Between characters. -/
  | plain
  /-- After a backslash. -/
  | escape
  /-- Within a code unit, `left` digits short; `high` is the first half of a pair. -/
  | unit (high : Option Nat) (left value : Nat)
  /-- After the first half of a pair, before the backslash of the second. -/
  | pair (high : Nat)
  /-- After that backslash. -/
  | pairEscape (high : Nat)
  deriving DecidableEq, Repr

/-- The rest of a string after its opening quote. The halves of a surrogate pair have to stand
together. -/
def stringFrom : Inside → Scan (List Char)
  | _, [] => .error .endOfInput
  | .plain, c :: text =>
    if c = '"' then .ok ([], text)
    else if c = '\\' then stringFrom .escape text
    else if c.toNat < 0x20 then .error .malformed
    else (stringFrom .plain text).map fun (cs, rest) => (c :: cs, rest)
  | .escape, c :: text =>
    if c = 'u' then
      if endsWithinUnit text then .error .endOfInput else stringFrom (.unit none 4 0) text
    else
      match escaped? c with
      | none => .error .malformed
      | some e => (stringFrom .plain text).map fun (cs, rest) => (e :: cs, rest)
  | .unit high left value, c :: text =>
    match hexDigit? c with
    | none => .error .malformed
    | some d =>
      let value := value * 16 + d
      if 1 < left then stringFrom (.unit high (left - 1) value) text
      else
        match high with
        | some h =>
          if isLowSurrogate value then
            (stringFrom .plain text).map fun (cs, rest) => (pairChar h value :: cs, rest)
          else .error .malformed
        | none =>
          if isLowSurrogate value then .error .malformed
          else if isHighSurrogate value then stringFrom (.pair value) text
          else (stringFrom .plain text).map fun (cs, rest) => (Char.ofNat value :: cs, rest)
  | .pair high, c :: text =>
    if c = '\\' then stringFrom (.pairEscape high) text else .error .malformed
  | .pairEscape high, c :: text =>
    if c = 'u' then
      if endsWithinUnit text then .error .endOfInput else stringFrom (.unit (some high) 4 0) text
    else .error .malformed

/-- The rest of a string after its opening quote. -/
def string : Scan String := fun text =>
  (stringFrom .plain text).map fun (cs, rest) => (String.ofList cs, rest)

/-! ## Numbers -/

/-- The digits at the front of the text, as values. -/
def digits : Scan (List Nat) := fun text =>
  .ok ((text.takeWhile Char.isDigit).map fun c => c.toNat - '0'.toNat, text.dropWhile Char.isDigit)

/-- At least one digit; `short` is the fault of a text that ends before it. -/
def someDigits (short : TextError) : Scan (List Nat) := do
  match ← peek? with
  | none => fail short
  | some c => if c.isDigit then digits else fail .malformed

/-- Digits of a whole part, which starts with zero only if it is zero. -/
def wholeDigits (short : TextError) : Scan (List Nat) := do
  match ← someDigits short with
  | 0 :: _ :: _ => fail .malformed
  | ds => pure ds

/-- The digits after a point, if there is one. -/
def fractionDigits (short : TextError) : Scan (Option (List Nat)) := do
  if ← accept '.' then some <$> someDigits short else pure none

/-- Whether a character marks an exponent. -/
def isExponentMark (c : Char) : Bool := c == 'e' || c == 'E'

/-- The sign and digits after an exponent mark, if there is one. -/
def exponentDigits (short : TextError) : Scan (Option (Bool × List Nat)) := do
  match ← peek? with
  | none => pure none
  | some c =>
    if isExponentMark c then
      discard next
      let negative ← accept '-'
      unless negative do discard (accept '+')
      let ds ← someDigits short
      pure (some (negative, ds))
    else pure none

/-- A number literal; `short` is the fault of a text that ends within it. -/
def literal (short : TextError) : Scan Number.Literal := do
  let negative ← accept '-'
  let whole ← wholeDigits short
  let fraction ← fractionDigits short
  let exponent ← exponentDigits short
  pure { negative, whole, fraction, exponent }

/-- A number. -/
def number : Scan Number := do
  match Number.ofLiteral? (← literal .endOfInput) with
  | some n => pure n
  | none => fail .malformed

end Scan

end ProxyChain
