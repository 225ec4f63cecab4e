import ProxyChain.Link.Base64Url
import ProxyChain.Text.Blank
import Mathlib.Tactic.Common

/-!
# Base64 letters give their bytes back

Whatever the number of bytes is modulo three, their letters are decoded to them (`decode?_encode`), and
all of these are letters of the URL alphabet (`isLetter_of_mem_encode`).
-/

namespace ProxyChain.Base64Url

open Wire

/-- The letters of the URL alphabet. -/
def IsLetter (c : Char) : Prop :=
  'A' ≤ c ∧ c ≤ 'Z' ∨ 'a' ≤ c ∧ c ≤ 'z' ∨ '0' ≤ c ∧ c ≤ '9' ∨ c = '-' ∨ c = '_'
  deriving Decidable

/-- Numbers below 64 have letters. -/
lemma isLetter_letter : ∀ n < 64, IsLetter (letter n) := by decide

/-- A letter stands for its number. -/
lemma value?_letter : ∀ n < 64, value? (letter n) = some n := by decide

/-- Every value of a letter takes six bits. -/
lemma lt_of_mem_split {bytes : Bytes} {n : Nat} (mem : n ∈ split bytes) : n < 64 := by
  fun_induction split bytes with
  | case1 => cases mem
  | case2 a =>
    have := a.toNat_lt
    simp only [List.mem_cons, List.not_mem_nil, or_false] at mem
    omega
  | case3 a b =>
    have := a.toNat_lt
    have := b.toNat_lt
    simp only [List.mem_cons, List.not_mem_nil, or_false] at mem
    omega
  | case4 a b c rest ih =>
    have := a.toNat_lt
    have := b.toNat_lt
    have := c.toNat_lt
    simp only [List.mem_cons] at mem
    obtain rfl | rfl | rfl | rfl | mem := mem
    · omega
    · omega
    · omega
    · omega
    · exact ih mem

/-- A byte is known by its number. -/
lemma ofNat_eq {n : Nat} {b : UInt8} (h : n = b.toNat) : UInt8.ofNat n = b := by
  rw [h, UInt8.ofNat_toNat]

/-- The values of letters are joined to the bytes that were split. -/
lemma join?_split (bytes : Bytes) : join? (split bytes) = some bytes := by
  fun_induction split bytes with
  | case1 => rfl
  | case2 a =>
    have first : UInt8.ofNat (a.toNat / 4 * 4 + a.toNat % 4 * 16 / 16) = a := ofNat_eq (by omega)
    rw [join?, if_pos (by omega), first]
  | case3 a b =>
    have := b.toNat_lt
    have first : UInt8.ofNat (a.toNat / 4 * 4 + (a.toNat % 4 * 16 + b.toNat / 16) / 16) = a :=
      ofNat_eq (by omega)
    have second : UInt8.ofNat ((a.toNat % 4 * 16 + b.toNat / 16) % 16 * 16
        + b.toNat % 16 * 4 / 4) = b := ofNat_eq (by omega)
    rw [join?, if_pos (by omega), first, second]
  | case4 a b c rest ih =>
    have := b.toNat_lt
    have := c.toNat_lt
    have first : UInt8.ofNat (a.toNat / 4 * 4 + (a.toNat % 4 * 16 + b.toNat / 16) / 16) = a :=
      ofNat_eq (by omega)
    have second : UInt8.ofNat ((a.toNat % 4 * 16 + b.toNat / 16) % 16 * 16
        + (b.toNat % 16 * 4 + c.toNat / 64) / 4) = b := ofNat_eq (by omega)
    have third : UInt8.ofNat ((b.toNat % 16 * 4 + c.toNat / 64) % 4 * 64 + c.toNat % 64) = c :=
      ofNat_eq (by omega)
    rw [join?, ih, Option.map_some, first, second, third]

/-- Letters stand for their numbers. -/
lemma mapM_value?_letter {ns : List Nat} (small : ∀ n ∈ ns, n < 64) :
    (ns.map letter).mapM value? = some ns := by
  induction ns with
  | nil => rfl
  | cons n ns ih =>
    rw [List.map_cons, List.mapM_cons, value?_letter n (small n List.mem_cons_self),
      ih fun m mem => small m (List.mem_cons_of_mem n mem)]
    rfl

/-- The letters of bytes stand for these bytes. -/
theorem decode?_encode (bytes : Bytes) : decode? (encode bytes) = some bytes := by
  have values : (encode bytes).mapM value? = some (split bytes) :=
    mapM_value?_letter fun _ => lt_of_mem_split
  rw [decode?, values]
  exact join?_split bytes

/-- Bytes are encoded in letters of the alphabet. -/
lemma exists_letter_of_mem_encode {bytes : Bytes} {c : Char} (mem : c ∈ encode bytes) :
    ∃ n < 64, letter n = c := by
  obtain ⟨n, memSplit, is⟩ := List.mem_map.1 mem
  exact ⟨n, lt_of_mem_split memSplit, is⟩

/-- Bytes are written in the URL alphabet. -/
theorem isLetter_of_mem_encode {bytes : Bytes} {c : Char} (mem : c ∈ encode bytes) : IsLetter c := by
  obtain ⟨n, small, rfl⟩ := exists_letter_of_mem_encode mem
  exact isLetter_letter n small

end ProxyChain.Base64Url
