import ProxyChain.Proofs.Link.Spelling
import ProxyChain.Proofs.Zlib.Stored

/-!
# Links convey profiles

The link of a profile is read back as that profile, also between blanks, and it is spelled in plain
letters behind its question mark (`Conveys`). That needs nothing of the compression but that the payload
is decompressed to what it was (`conveys_encode`).
-/

namespace ProxyChain.Link

open Wire

/-- The link of a profile whose payload was compressed by `deflate`. -/
def encodeWith (deflate : Bytes → Bytes) (p : Profile) : String :=
  start p.kind ++ String.ofList (Base64Url.encode (deflate p.encode))

/-- A link that is read as a profile, whatever blanks stand around it, and that is spelled with the name
of the profile's kind and letters of the URL alphabet. -/
structure Conveys (link : String) (p : Profile) : Prop where
  read (before after : List Char) (blankBefore : Text.isAllBlank before = true)
    (blankAfter : Text.isAllBlank after = true) :
    decode (String.ofList before ++ link ++ String.ofList after) = .ok p
  spelling : ∃ letters : List Char,
    link = "husi://" ++ p.kind.name ++ "?" ++ String.ofList letters ∧
      ∀ c ∈ letters, Base64Url.IsLetter c

/-- The bytes of a payload are found again in its letters. -/
lemma payloadBytes_encode (bytes : Bytes) : payloadBytes (Base64Url.encode bytes) = .ok bytes := by
  rw [payloadBytes, normalize_letters fun _ => Base64Url.isLetter_of_mem_encode,
    Base64Url.decode?_encode]

/-- What is behind the name is read back. -/
lemma decodeCompressed_encode {deflate : Bytes → Bytes} {p : Profile} (fits : ∀ s ∈ p.texts, Writable s)
    (inflates : Zlib.decompress? (deflate p.encode) = some p.encode) :
    decodeCompressed p.kind.name.toList (Base64Url.encode (deflate p.encode)) = .ok p := by
  rw [decodeCompressed, kindOf_name, payloadBytes_encode]
  dsimp only [bind, Except.bind]
  rw [inflates]
  exact profileOf_encode fits

/-- A link conveys its profile if its payload is decompressed to what it was. -/
lemma conveys_encodeWith {deflate : Bytes → Bytes} {p : Profile} (fits : ∀ s ∈ p.texts, Writable s)
    (inflates : Zlib.decompress? (deflate p.encode) = some p.encode) :
    Conveys (encodeWith deflate p) p where
  read _ _ blankBefore blankAfter :=
    (decode_of_spelling_start (fun _ => Base64Url.isLetter_of_mem_encode)
      (.around blankBefore blankAfter _ _)).trans (decodeCompressed_encode fits inflates)
  spelling :=
    ⟨Base64Url.encode (deflate p.encode), rfl, fun _ mem => Base64Url.isLetter_of_mem_encode mem⟩

/-- The link of every profile conveys it, and so does any that was compressed in another way, as long as
what is compressed is decompressed to what it was. -/
theorem conveys_encode {p : Profile} (fits : ∀ s ∈ p.texts, Writable s) :
    Conveys (encode p) p ∧
      ∀ deflate : Bytes → Bytes, (∀ bytes, Zlib.decompress? (deflate bytes) = some bytes) →
        Conveys (encodeWith deflate p) p :=
  ⟨conveys_encodeWith fits (Zlib.decompress?_compress _),
    fun _ inflates => conveys_encodeWith fits (inflates _)⟩

/-- The link of a profile whose texts are not all plain, between a wide blank, a line's end and a blank
that does not break. -/
theorem conveys_encode_hysteria :
    let p : Profile := ⟨{ name := "東京 ?:" }, .hysteria { obfuscation := "ü✓😀", ech := true }⟩
    (∀ s ∈ p.texts, Writable s) ∧ decode ("\u3000\n" ++ encode p ++ "\u00a0") = .ok p ∧
      (∀ bytes, Zlib.decompress? (Zlib.compress bytes) = some bytes) ∧
        Conveys (encodeWith Zlib.compress p) p := by
  intro p
  have fits : ∀ s ∈ p.texts, Writable s := by
    unfold Writable
    decide
  have conveys := conveys_encode fits
  have read := conveys.1.read ['\u3000', '\n'] ['\u00a0'] (by decide) (by decide)
  exact ⟨fits, read, Zlib.decompress?_compress, conveys.2 _ Zlib.decompress?_compress⟩

end ProxyChain.Link
