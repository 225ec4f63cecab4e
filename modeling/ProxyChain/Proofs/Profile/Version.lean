import ProxyChain.Proofs.Profile.Payload

/-!
# Payloads of every version

Payloads that were stored by older versions stay readable, and so do those of later ones: a payload that
says any version is read as that version has it, `decode_encodeWith`. Only Hysteria's settings have
fields that not every version has. A payload may end behind the last field of its version; what follows
is not looked at.
-/

namespace ProxyChain

open Wire

namespace Hysteria

/-- The fields that a version has are the first ones. -/
lemma carried_prefix (version : Int32) (h : Hysteria) : h.carried version <+: h.write := by
  unfold carried write
  by_cases newest : 2 ≤ version
  · have earlier : 1 ≤ version := Int32.le_trans (by decide) newest
    simp only [if_pos newest, if_pos earlier, List.prefix_refl]
  · rw [if_neg newest, List.append_nil]
    split
    · exact List.prefix_append _ _
    · rw [List.append_nil, List.append_assoc]
      exact List.prefix_append _ _

end Hysteria

namespace Profile

/-- The payload of a profile with another version in front. -/
def encodeWith (version : Int32) (p : Profile) : Bytes := writeInt32 version ++ p.encode.drop 4

/-- A payload is its version and its body. -/
lemma encodeWith_eq (version : Int32) (p : Profile) :
    p.encodeWith version = writeInt32 version ++ p.writeBody := by
  have four : (writeInt32 p.kind.payloadVersion).length = 4 := length_bigEndian 4 _
  rw [encodeWith, encode, List.drop_left' four]

/-- What a version carries of settings comes first in what is written of them. -/
lemma Variant.carried_prefix (version : Int32) (v : Variant) : v.carried version <+: v.write := by
  cases v with
  | hysteria h => exact h.carried_prefix version
  | trojan _ | naive _ | direct | config _ => exact List.prefix_refl _

/-- What a version carries of a profile comes first in its payload. -/
lemma carried_prefix (version : Int32) (p : Profile) : p.carried version <+: p.encodeWith version := by
  rw [encodeWith_eq, carried, writeBody, List.append_assoc]
  exact (List.prefix_append_right_inj _).2
    ((List.prefix_append_right_inj _).2 (p.variant.carried_prefix version))

/-- A payload in which any version stands in front in place of its own is read as that version has it,
also if it is cut off behind the last field that the version has: settings of a Hysteria server without
the hop interval and the encrypted client hello in a version before 1, without the latter in version 1,
and everything else as it was written. -/
theorem decode_encodeWith {p : Profile} (fits : ∀ s ∈ p.texts, Writable s) (version : Int32) :
    Profile.decode p.tag (p.encodeWith version) = .ok (p.asOf version) ∧
      p.carried version <+: p.encodeWith version ∧
        Profile.decode p.tag (p.carried version) = .ok (p.asOf version) := by
  have part := carried_prefix version p
  have decoded := decode_carried_append version fits
  refine ⟨?_, part, ?_⟩
  · obtain ⟨slack, whole⟩ := part
    rw [← whole]
    exact decoded slack
  · have exactly := decoded []
    rwa [List.append_nil] at exactly

/-- Settings with all of the later fields, as a payload of version 1 and as one without a version of
their own. -/
theorem decode_encodeWith_hysteria :
    let h : Hysteria := { sni := "東京", hopInterval := 30, ech := true, echConfig := "c" }
    let p : Profile := ⟨{}, .hysteria h⟩
    (∀ s ∈ p.texts, Writable s) ∧
      Profile.decode p.tag (p.encodeWith 1)
        = .ok ⟨{}, .hysteria { h with ech := false, echConfig := "" }⟩ ∧
      (p.carried (-5)).length < (p.encodeWith (-5)).length ∧
      Profile.decode p.tag (p.carried (-5))
        = .ok ⟨{}, .hysteria { h with hopInterval := 10, ech := false, echConfig := "" }⟩ := by
  intro h p
  have fits : ∀ s ∈ p.texts, Writable s := by
    unfold Writable
    decide
  obtain ⟨first, -, -⟩ := decode_encodeWith fits 1
  obtain ⟨-, -, negative⟩ := decode_encodeWith fits (-5)
  exact ⟨fits, first, by decide, negative⟩

end Profile

end ProxyChain
