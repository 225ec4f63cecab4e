import ProxyChain.Chain.CoreConfig
import Mathlib.Data.List.Nodup

/-!
# Tags tell hops apart

A hop's tag ends in its place in the chain, so that hops at different places have different tags,
whatever the ids of their records (`hopTag_inj`). No hop has the tag of the direct outbound, and no
forwarding inbound that of the local one.
-/

namespace ProxyChain

/-- Decimal digits give their number back. -/
lemma Text.decimal_injective {m n : Nat} (h : Text.decimal m = Text.decimal n) : m = n := by
  have value := congrArg (Nat.ofDigitChars 10 · 0) h
  simpa only [Text.decimal, Nat.ofDigitChars_ten_toDigits] using value

/-- No number has a hyphen in its digits. -/
lemma Text.hyphen_notMem_decimal (n : Nat) : '-' ∉ Text.decimal n := by
  intro mem
  have digit := Nat.isDigit_of_mem_toDigits (by decide) (by decide) mem
  exact absurd digit (by decide)

/-- What follows the last occurrence of a character is determined by the whole text. -/
lemma Text.after_last_inj {c : Char} {before before' after after' : List Char} (h : c ∉ after)
    (h' : c ∉ after') (e : before ++ c :: after = before' ++ c :: after') : after = after' := by
  -- Wherever one text goes on behind the separator of the other, its own separator is not the last.
  rcases List.append_eq_append_iff.1 e with ⟨between, -, right⟩ | ⟨between, -, right⟩
  · cases between with
    | nil => exact (List.cons.inj right).2
    | cons d between =>
      have inside : after = between ++ c :: after' := (List.cons.inj right).2
      exact absurd (inside ▸ List.mem_append_right between List.mem_cons_self) h
  · cases between with
    | nil => exact (List.cons.inj right).2.symm
    | cons d between =>
      have inside : after' = between ++ c :: after := (List.cons.inj right).2
      exact absurd (inside ▸ List.mem_append_right between List.mem_cons_self) h'

/-- The tag of a hop is spelled with the number of its record and its place. -/
lemma toList_hopTag (r : Record) (index : Nat) :
    (hopTag r index).toList
      = ("proxy-".toList ++ Text.signedDecimal r.id.toInt) ++ '-' :: Text.decimal index := by
  simp [hopTag, Text.showInt, Text.showNat, toString]

/-- Hops with the same tag stand at the same place. -/
lemma hopTag_inj {r r' : Record} {i j : Nat} (h : hopTag r i = hopTag r' j) : i = j := by
  have e := congrArg String.toList h
  rw [toList_hopTag, toList_hopTag] at e
  exact Text.decimal_injective
    (Text.after_last_inj (Text.hyphen_notMem_decimal i) (Text.hyphen_notMem_decimal j) e)

/-- The tags of the hops of a chain, first hop first. -/
def hopTags (chain : List Record) : List String := chain.mapIdx fun i r => hopTag r i

/-- The tags of the hops of a chain are different. -/
lemma nodup_hopTags (chain : List Record) : (hopTags chain).Nodup := by
  rw [List.nodup_iff_injective_getElem]
  intro i j same
  simp only [hopTags, List.getElem_mapIdx] at same
  exact Fin.ext (hopTag_inj same)

/-- No hop has the tag of the direct outbound. -/
lemma hopTag_ne_directTag (r : Record) (index : Nat) : hopTag r index ≠ directTag := by
  intro h
  have e := congrArg (fun s => s.toList.head?) h
  simp [toList_hopTag, directTag] at e

namespace Hop

/-- The tag of a relay tells whose it is. -/
lemma relayTag_inj {h h' : Hop} (e : h.relayTag = h'.relayTag) : h.tag = h'.tag :=
  String.append_left_inj "-upstream" |>.1 e

/-- No forwarding inbound has the tag of the local one. -/
lemma relayTag_ne_mixedTag (h : Hop) : h.relayTag ≠ mixedTag := by
  intro e
  have heads := congrArg (fun s => s.toList.head?) e
  simp [relayTag, tag, toList_hopTag, mixedTag] at heads

end Hop

end ProxyChain
