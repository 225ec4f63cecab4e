import ProxyChain.Proofs.Profile.Extension
import ProxyChain.Record.Layout

/-!
# Bytes behind any record

Decoding looks at no byte behind what it decodes, also when the bytes were written by nobody. Bytes
behind a payload or a record change neither what is in it nor what is wrong with it, unless what was
wrong is that bytes were missing (`decode_append`).
-/

namespace ProxyChain.Record

open Wire Reader

/-- The header of a record is read candidly. -/
lemma Header.candid_read : Candid Header.read := by
  refine .bind candid_int64 fun id => ?_
  refine .bind candid_int64 fun groupId => ?_
  refine .bind candid_int32 fun tag => ?_
  refine .bind candid_int64 fun userOrder => ?_
  refine .bind candid_int64 fun tx => ?_
  refine .bind candid_int64 fun rx => ?_
  refine .bind (candid_codedField _) fun status => ?_
  refine .bind candid_int32 fun ping => ?_
  refine .bind candid_string fun uuid => ?_
  exact .bind candid_string? fun error => .pure _

/-- The version, the header and the payload are read candidly. -/
lemma candid_readHeader : Candid readHeader := by
  refine .bind (.map candid_int32 _) fun _ => ?_
  refine .bind Header.candid_read fun header => ?_
  exact .bind candid_blob fun payload => .pure _

/-- The record in bytes is the same with bytes behind it. -/
lemma decode_append_ok {bytes : Bytes} {r : Record} (h : decode bytes = .ok r) (more : Bytes) :
    decode (bytes ++ more) = .ok r := by
  unfold decode at h ⊢
  split at h
  · cases h
  · next header payload c read =>
    have again := candid_readHeader.parse_ok read more
    rw [Cursor.start, again]
    dsimp only
    split at h
    · cases h
    · next profile decoded =>
      split at h
      · cases h
      · next dirty c' last =>
        cases h
        have again' := candid_bool.parse_ok last more
        simp only [again']

/-- What is wrong with a record is the same with bytes behind it. The payload of a record ends inside
it, so that no payload is empty for lack of bytes. -/
lemma decode_append_error {bytes : Bytes} {e : PayloadError} (h : decode bytes = .error e)
    (final : e.isTruncated = false) (more : Bytes) : decode (bytes ++ more) = .error e := by
  unfold decode at h ⊢
  split at h
  · next e' read =>
    cases h
    have again := candid_readHeader.parse_error read final more
    rw [Cursor.start, again]
  · next header payload c read =>
    have again := candid_readHeader.parse_ok read more
    rw [Cursor.start, again]
    dsimp only
    split at h
    · exact h
    · next profile decoded =>
      split at h
      · next e' last =>
        cases h
        have again' := candid_bool.parse_error last final more
        simp only [again']
      · cases h

/-- Bytes behind a payload or a record do not change the profile or the record in it, and not what is
wrong with it either, unless bytes were missing. -/
theorem decode_append (more : Bytes) :
    (∀ tag bytes p, Profile.decode tag bytes = .ok p →
      Profile.decode tag (bytes ++ more) = .ok p) ∧
    (∀ tag bytes e, Profile.decode tag bytes = .error e → e.isTruncated = false →
      (∀ tag', e ≠ .empty tag') → Profile.decode tag (bytes ++ more) = .error e) ∧
    (∀ bytes r, decode bytes = .ok r → decode (bytes ++ more) = .ok r) ∧
    ∀ bytes e, decode bytes = .error e → e.isTruncated = false →
      decode (bytes ++ more) = .error e := by
  refine ⟨?_, ?_, ?_, ?_⟩
  · intro tag bytes p h
    exact Profile.decode_append_ok h more
  · intro tag bytes e h final nonempty
    exact Profile.decode_append_error h final (nonempty tag) more
  · intro bytes r h
    exact decode_append_ok h more
  · intro bytes e h final
    exact decode_append_error h final more

/-- The payload of a direct hop named `ab`, a name that no writer writes in this form. -/
def compactPayload (port : UInt8) : Bytes :=
  [0, 0, 0, 0, 0x61, 0xE2, 0x81, port, 0, 1, 187, 0, 0, 0, 0, 0, 0, 0, 0, 0, 0, 0, 0, 0, 8, 0]

/-- The start of a record of a kind, up to the length of its payload. -/
def bareHeader (tag : UInt8) : Bytes :=
  List.replicate 23 0 ++ tag :: List.replicate 32 0 ++ [0x81, 0x80]

/-- The record with that payload. -/
def compactRecord : Record :=
  { uuid := "", profile := ⟨{ name := "ab", address := "" }, .direct⟩, dirty := true }

/-- A payload, a payload with a negative port, a record, and a record of no known kind whose payload has
no bytes: with a byte behind each they are what they were. -/
theorem decode_append_compact :
    Profile.decode 23 (compactPayload 0 ++ [7]) = .ok compactRecord.profile ∧
      Profile.decode 23 (compactPayload 0xFF ++ [7])
        = .error (.read (.invalidField "server port" (-16776773))) ∧
      decode (bareHeader 23 ++ 26 :: compactPayload 0 ++ [2] ++ [7]) = .ok compactRecord ∧
      decode (bareHeader 0 ++ [0] ++ [7]) = .error (.unknownTag 0) := by
  obtain ⟨payload, brokenPayload, record, brokenRecord⟩ := decode_append [7]
  refine ⟨payload 23 _ _ (by decide), ?_, record _ _ (by decide), ?_⟩
  · exact brokenPayload 23 _ _ (by decide) rfl (fun _ => nofun)
  · exact brokenRecord _ _ (by decide) rfl

end ProxyChain.Record
