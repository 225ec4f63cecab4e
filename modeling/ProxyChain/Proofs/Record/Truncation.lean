import ProxyChain.Proofs.Record.Extension
import ProxyChain.Proofs.Record.Layout

/-!
# Cut off bytes are told

The bytes of a record or of a profile cannot be read when any of them are missing at the end, wherever
the cut falls: inside an integer, a length, a character, or the payload. What is then reported is that
bytes are missing, never anything else, and no more bytes are asked for than were cut off
(`decode_truncated`). Every reader is candid, so that only the three parts of a record need to be told
apart: what comes up to the end of the payload, the payload itself, and the flag behind it.
-/

namespace ProxyChain

open Wire Reader

/-- Of `whole` only `cut` was there: what is found says where in it bytes are missing, and asks for some
of the others. -/
def Truncated {α : Type} (found : Except PayloadError α) (cut whole : Bytes) : Prop :=
  ∃ offset needed, found = .error (.read (.truncated offset needed)) ∧
    offset ≤ cut.length ∧ 1 ≤ needed ∧ cut.length + needed ≤ whole.length

/-- A part that is not the whole lacks some bytes at its end. -/
lemma exists_rest_of_prefix {cut whole : Bytes} (part : cut <+: whole) (proper : cut ≠ whole) :
    ∃ rest, whole = cut ++ rest ∧ rest ≠ [] := by
  obtain ⟨rest, rfl⟩ := part
  refine ⟨rest, rfl, ?_⟩
  rintro rfl
  exact proper (List.append_nil cut).symm

/-- A cut through two strings of bytes goes through the first one or through the second one. -/
lemma cut_of_append_eq {bytes bytes' cut rest : Bytes} (whole : bytes ++ bytes' = cut ++ rest) :
    (∃ rest', rest' ≠ [] ∧ bytes = cut ++ rest' ∧ rest = rest' ++ bytes') ∨
      ∃ cut', cut = bytes ++ cut' ∧ bytes' = cut' ++ rest := by
  obtain ⟨rest', first, second⟩ | found := List.append_eq_append_iff.1 whole.symm
  · cases rest' with
    | nil => exact .inr ⟨[], by rw [first, List.append_nil, List.append_nil], second.symm⟩
    | cons b rest' => exact .inl ⟨b :: rest', List.cons_ne_nil _ _, first, second⟩
  · exact .inr found

/-- The first bytes of a payload, not all and not none of them, are told to be cut off. -/
lemma Profile.decode_cut {p : Profile} (fits : ∀ s ∈ p.texts, Writable s) {cut rest : Bytes}
    (whole : p.encode = cut ++ rest) (some : cut ≠ []) (missing : rest ≠ []) :
    Truncated (Profile.decode p.tag cut) cut p.encode := by
  have read := yields_read fits
  rw [whole] at read ⊢
  obtain ⟨offset, needed, failed, inside, one, enough⟩ :=
    (candid_read p.kind).cut read missing 0
  refine ⟨offset, needed, ?_, by omega, one, ?_⟩
  · simp only [Profile.decode, ofTag?_tag, List.isEmpty_eq_false_iff.2 some, Cursor.start, failed,
      Bool.false_eq_true, if_false]
  · rw [List.length_append]
    omega

namespace Record

/-- The first bytes of a record, not all of them, are told to be cut off. -/
lemma decode_cut {r : Record} (fits : ∀ s ∈ r.texts, Writable s)
    (small : r.profile.encode.length < 2 ^ 32) {cut rest : Bytes} (whole : r.encode = cut ++ rest)
    (missing : rest ≠ []) : Truncated (decode cut) cut r.encode := by
  have header := yields_readHeader fits version small
  rw [whole]
  obtain ⟨rest', missing', inHeader, rfl⟩ | ⟨cut', rfl, inFlag⟩ := cut_of_append_eq whole
  · rw [inHeader] at header
    obtain ⟨offset, needed, failed, inside, one, enough⟩ := candid_readHeader.cut header missing' 0
    refine ⟨offset, needed, ?_, by omega, one, ?_⟩
    · simp only [decode, Cursor.start, failed]
    · rw [List.length_append, List.length_append]
      omega
  · have profile : Profile.decode r.header.tag r.profile.encode = .ok r.profile := by
      have texts : ∀ s ∈ r.profile.texts, Writable s := fun s mem =>
        fits s (List.mem_append_right _ mem)
      have decoded := Profile.decode_encode_append texts []
      rwa [List.append_nil] at decoded
    have flag := yields_bool r.dirty
    rw [inFlag] at flag
    have read := header.parse_eq 0 cut'
    obtain ⟨offset, needed, failed, inside, one, enough⟩ := candid_bool.cut flag missing
      (0 + (writeInt32 version ++ r.header.write ++ writeBlob r.profile.encode).length)
    refine ⟨offset, needed, ?_, ?_, one, ?_⟩
    · simp only [decode, Cursor.start, read, profile, failed]
    · rw [List.length_append]
      omega
    · simp only [List.length_append]
      omega

/-- The first bytes of a record, unless they are all of them, are never taken for a record: decoding says
that bytes are missing, where they are missing, and asks for some of those that were cut off. So it is
with the first bytes of a payload, of which there has to be one at least. -/
theorem decode_truncated :
    (∀ r : Record, (∀ s ∈ r.texts, Writable s) → r.profile.encode.length < 2 ^ 32 →
      ∀ cut, cut <+: r.encode → cut ≠ r.encode → Truncated (decode cut) cut r.encode) ∧
    ∀ p : Profile, (∀ s ∈ p.texts, Writable s) →
      Profile.decode p.tag [] = .error (.empty p.tag) ∧
        ∀ cut, cut ≠ [] → cut <+: p.encode → cut ≠ p.encode →
          Truncated (Profile.decode p.tag cut) cut p.encode := by
  refine ⟨?_, ?_⟩
  · intro r fits small cut part proper
    obtain ⟨rest, whole, missing⟩ := exists_rest_of_prefix part proper
    exact decode_cut fits small whole missing
  · intro p fits
    refine ⟨?_, ?_⟩
    · simp only [Profile.decode, Profile.ofTag?_tag, List.isEmpty_nil, if_true]
    · intro cut some part proper
      obtain ⟨rest, whole, missing⟩ := exists_rest_of_prefix part proper
      exact Profile.decode_cut fits whole some missing

/-- A record with a text beyond ASCII that is cut off inside a character, and its payload that is cut off
inside the version. -/
theorem decode_truncated_naive :
    let r : Record := { uuid := "ü✓", profile := ⟨{ name := "東京" }, .naive { username := "u" }⟩ }
    (∀ s ∈ r.texts, Writable s) ∧ r.profile.encode.length < 2 ^ 32 ∧
      Truncated (decode (r.encode.take 60)) (r.encode.take 60) r.encode ∧
        Truncated (Profile.decode r.profile.tag (r.profile.encode.take 3)) (r.profile.encode.take 3)
          r.profile.encode := by
  intro r
  have fits : ∀ s ∈ r.texts, Writable s := by
    unfold Writable
    decide
  have small : r.profile.encode.length < 2 ^ 32 := by decide
  have profile : ∀ s ∈ r.profile.texts, Writable s := fun s mem =>
    fits s (List.mem_append_right _ mem)
  obtain ⟨records, profiles⟩ := decode_truncated
  refine ⟨fits, small, ?_, ?_⟩
  · exact records r fits small _ (List.take_prefix _ _) (by decide)
  · exact (profiles r.profile profile).2 _ (by decide) (List.take_prefix _ _) (by decide)

end Record

end ProxyChain
