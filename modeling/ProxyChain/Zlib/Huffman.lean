import ProxyChain.Zlib.Bits

/-!
# Canonical Huffman codes

A code is given by the length of each symbol's codeword, zero for a symbol without one. Codewords are
handed out in the order of their lengths, among equal lengths in the order of the symbols, each as the
next number of that length.
-/

namespace ProxyChain.Zlib

/-- A code as a tree: a codeword is the way from the root to its symbol. -/
inductive CodeTree where
  | vacant
  | leaf (symbol : Nat)
  | node (zero one : CodeTree)
  deriving DecidableEq, Repr

namespace CodeTree

/-- Puts a symbol at the end of a codeword. -/
def insert (symbol : Nat) : (codeword : List Bool) → CodeTree → CodeTree
  | [], _ => leaf symbol
  | b :: codeword, node zero one =>
    if b then node zero (insert symbol codeword one) else node (insert symbol codeword zero) one
  | b :: codeword, _ =>
    if b then node vacant (insert symbol codeword vacant)
    else node (insert symbol codeword vacant) vacant

/-- Reads a symbol. -/
def read : CodeTree → BitReader Nat
  | vacant => failure
  | leaf symbol => pure symbol
  | node zero one => do
    if ← BitReader.bit then one.read else zero.read

end CodeTree

/-- The longest codeword of any code. -/
def longestCodeword : Nat := 15

/-- The `n` low bits of `value`, most significant first. -/
def codewordBits (n value : Nat) : List Bool :=
  (List.range n).reverse.map fun i => value.testBit i

/-- Hands out codewords of the lengths from `length` on, the first being `next`; gives the tree and
how much of the space of codewords of the longest length is used. -/
def assign (lengths : List Nat) : (steps length next : Nat) → CodeTree → CodeTree × Nat
  | 0, _, next, tree => (tree, next)
  | steps + 1, length, next, tree =>
    let symbols := (lengths.zipIdx.filter fun (l, _) => l == length).map Prod.snd
    let tree := symbols.zipIdx.foldl (fun t (s, i) => t.insert s (codewordBits length (next + i))) tree
    let next := next + symbols.length
    assign lengths steps (length + 1) (if steps = 0 then next else 2 * next) tree

/-- The code with the given codeword lengths. Its codewords have to use up all codewords of the
longest length, unless `partialAllowed` and there is none or a single one of one bit. -/
def codeOf? (partialAllowed : Bool) (lengths : List Nat) : Option CodeTree :=
  let (tree, used) := assign lengths longestCodeword 1 0 .vacant
  let given := lengths.filter (· != 0)
  if used = Nat.pow 2 longestCodeword ∨ (partialAllowed = true ∧ (given = [] ∨ given = [1])) then
    some tree
  else none

end ProxyChain.Zlib
