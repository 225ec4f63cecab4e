/-!
# Blank characters

The characters with Unicode's `White_Space` property, and what cutting them off the ends of a text
leaves. All functions here are on lists of characters.
-/

namespace ProxyChain.Text

/-- The twenty-five characters with the `White_Space` property. -/
def isBlank (c : Char) : Bool :=
  let n := c.toNat
  (0x09 ≤ n && n ≤ 0x0D) || n == 0x20 || n == 0x85 || n == 0xA0 || n == 0x1680 ||
    (0x2000 ≤ n && n ≤ 0x200A) || n == 0x2028 || n == 0x2029 || n == 0x202F || n == 0x205F ||
    n == 0x3000

/-- Drops the longest suffix whose characters all satisfy `p`. -/
def dropEndWhile (p : Char → Bool) (cs : List Char) : List Char :=
  (cs.reverse.dropWhile p).reverse

/-- Drops blank characters at both ends. -/
def strip (cs : List Char) : List Char :=
  dropEndWhile isBlank (cs.dropWhile isBlank)

/-- A text that holds nothing but blank characters. -/
def isAllBlank (cs : List Char) : Bool := cs.all isBlank

end ProxyChain.Text
