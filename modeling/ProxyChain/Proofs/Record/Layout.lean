import ProxyChain.Proofs.Profile.Payload
import ProxyChain.Record.Layout

/-!
# Records are read back

A record is read back from its bytes as it was, in every field (`decode_encode`). The layout
leaves three places open to later versions: the reserved version in front, room behind the payload
inside the blob, and whatever follows the record. `encodeWith` is the layout with the first two filled
in any way, and what is read from it does not depend on them.
-/

namespace ProxyChain.Record

open Wire Reader

instance : LawfulCoded Status where
  ofCode?_code s := by cases s <;> rfl

/-- The texts of a record. -/
def texts (r : Record) : List String := r.uuid :: r.error.toList ++ r.profile.texts

/-- The bytes of a record with any version in front and any bytes behind its payload. -/
def encodeWith (version : Int32) (slack : Bytes) (r : Record) : Bytes :=
  writeInt32 version ++ r.header.write ++ writeBlob (r.profile.encode ++ slack) ++ writeBool r.dirty

/-- A record is written with the reserved version and nothing behind its payload. -/
lemma encode_eq_encodeWith (r : Record) : r.encode = r.encodeWith version [] := by
  rw [encode, encodeWith, List.append_nil]

/-- The header of a record is read as it is written. -/
lemma Header.yields_read {r : Record} (fits : ∀ s ∈ r.texts, Writable s) :
    Yields Header.read r.header.write r.header := by
  have uuid : Writable r.uuid := fits _ (by simp [texts])
  have error : ∀ s ∈ r.error, Writable s := fun s mem => fits s (by simp_all [texts])
  simp only [write, List.append_assoc]
  apply (yields_int64 _).bind
  apply (yields_int64 _).bind
  apply (yields_int32 _).bind
  apply (yields_int64 _).bind
  apply (yields_int64 _).bind
  apply (yields_int64 _).bind
  apply (yields_codedField _ _).bind
  apply (yields_int32 _).bind
  apply (yields_string uuid).bind
  exact (yields_string? error).bind_pure

/-- Everything up to the end of the payload is read back, whatever the version. -/
lemma yields_readHeader {r : Record} (fits : ∀ s ∈ r.texts, Writable s) (version : Int32)
    {payload : Bytes} (small : payload.length < 2 ^ 32) :
    Yields readHeader (writeInt32 version ++ r.header.write ++ writeBlob payload)
      (r.header, payload) := by
  rw [List.append_assoc]
  apply ((yields_int32 version).map fun _ => ()).bind
  apply (Header.yields_read fits).bind
  exact (yields_blob small).bind_pure

/-- A record is made of its header and its profile. -/
lemma toRecord_header (r : Record) : r.header.toRecord r.profile r.dirty = r := rfl

/-- A record is found in its bytes, whatever the version, whatever stands behind the payload and
whatever follows. -/
lemma decode_encodeWith_append {r : Record} (fits : ∀ s ∈ r.texts, Writable s) (version : Int32)
    {slack : Bytes} (small : (r.profile.encode ++ slack).length < 2 ^ 32) (tail : Bytes) :
    decode (r.encodeWith version slack ++ tail) = .ok r := by
  have profile : ∀ s ∈ r.profile.texts, Writable s := fun s mem =>
    fits s (List.mem_append_right _ mem)
  have header := (yields_readHeader fits version small).parse_eq 0 (writeBool r.dirty ++ tail)
  have dirty := (yields_bool r.dirty).parse_eq
    (0 + (writeInt32 version ++ r.header.write ++ writeBlob (r.profile.encode ++ slack)).length) tail
  -- The payload is decoded by the tag in the header, which is that of the profile.
  have tag : r.header.tag = r.profile.tag := rfl
  rw [encodeWith, List.append_assoc, decode, Cursor.start, header]
  dsimp only
  rw [tag, Profile.decode_encode_append profile slack]
  simp only [dirty, toRecord_header]

/-- A record is read back from its bytes in every field, and it stays so when the reserved version is
any number, when bytes stand behind the payload inside its blob, and when bytes follow the record. -/
theorem decode_encode {r : Record} (fits : ∀ s ∈ r.texts, Writable s)
    (small : r.profile.encode.length < 2 ^ 32) :
    decode r.encode = .ok r ∧
      ∀ version slack tail, (r.profile.encode ++ slack).length < 2 ^ 32 →
        decode (r.encodeWith version slack ++ tail) = .ok r := by
  refine ⟨?_, fun version slack tail small => decode_encodeWith_append fits version small tail⟩
  have small' : (r.profile.encode ++ []).length < 2 ^ 32 := by rwa [List.append_nil]
  have read := decode_encodeWith_append fits version small' []
  rwa [List.append_nil, ← encode_eq_encodeWith] at read

/-- A Hysteria record with edits, an empty error and texts beyond ASCII meets both conditions: it is
read back, also from a later version with two bytes behind the payload and one behind the record. -/
theorem decode_encode_hysteria :
    let r : Record :=
      { id := -7, uuid := "ü✓😀", error := some "", dirty := true,
        profile := ⟨{ name := "東京", port := 8443 }, .hysteria { protocolVersion := 1, ech := true }⟩ }
    (∀ s ∈ r.texts, Writable s) ∧ r.profile.encode.length < 2 ^ 32 ∧ decode r.encode = .ok r ∧
      decode (r.encodeWith 9 [1, 2] ++ [3]) = .ok r := by
  intro r
  have fits : ∀ s ∈ r.texts, Writable s := by
    unfold Writable
    decide
  have small : (r.profile.encode ++ [1, 2]).length < 2 ^ 32 := by decide
  have small' : r.profile.encode.length < 2 ^ 32 := by decide
  have read := decode_encode fits small'
  exact ⟨fits, small', read.1, read.2 9 [1, 2] [3] small⟩

end ProxyChain.Record
