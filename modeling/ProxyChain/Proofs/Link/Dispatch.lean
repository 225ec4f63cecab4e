import ProxyChain.Link.Basic
import ProxyChain.Proofs.Profile.Kind
import ProxyChain.Proofs.Record.Extension
import ProxyChain.Proofs.Text.Cut
import ProxyChain.Proofs.Wire.Integer

/-!
# What decides the kind of a profile

The kind of what is decoded is the one that was asked for, by a tag, by the header of a record or by the
name in a link, and nothing else in the input has a say in it. A tag or a name of no kind is an error
that names it (`decode_dispatched`).
-/

namespace ProxyChain

open Wire Reader

namespace Record

/-- The tag of a header is read from behind two other numbers. -/
lemma Header.take_of_read {c c' : Cursor} {header : Header} (made : Header.read c = .ok header c') :
    (c.rest.drop 16).take 4 = writeInt32 header.tag := by
  obtain ⟨_, c₁, id, made⟩ := of_bind made
  obtain ⟨_, c₂, groupId, made⟩ := of_bind made
  obtain ⟨tag, c₃, readTag, made⟩ := of_bind made
  obtain ⟨id, aheadId, sizeId, -⟩ := of_digits id
  obtain ⟨groupId, aheadGroupId, sizeGroupId, -⟩ := of_digits groupId
  have size : (id ++ groupId).length = 16 := by rw [List.length_append, sizeId, sizeGroupId]
  have kept : header.tag = tag := by
    refine Gives.behind (P := fun header => header.tag = tag) (fun _ => ?_) c₃ header c' made
    exact .behind fun _ => .behind fun _ => .behind fun _ => .behind fun _ => .behind fun _ =>
      .behind fun _ => .pure rfl
  rw [aheadId, aheadGroupId, of_int32 readTag, ← List.append_assoc, List.drop_left' size,
    List.take_left' (length_writeInt32 tag), kept]

/-- The tag of a record stands behind its first twenty bytes. -/
lemma take_of_readHeader {bytes payload : Bytes} {header : Header} {c : Cursor}
    (made : readHeader (.start bytes) = .ok (header, payload) c) :
    (bytes.drop 20).take 4 = writeInt32 header.tag := by
  obtain ⟨_, c₁, version, made⟩ := of_bind made
  obtain ⟨header', c₂, readHeader, made⟩ := of_bind made
  obtain ⟨version, readVersion, -⟩ := of_map (f := fun _ => ()) version
  have kept : header = header' := by
    refine Gives.behind (P := fun read => read.1 = header') (fun _ => ?_) c₂ (header, payload) c made
    exact .pure rfl
  have ahead : bytes = writeInt32 version ++ c₁.rest := of_int32 readVersion
  have behind : bytes.drop 20 = c₁.rest.drop 16 := by
    rw [ahead, List.drop_append, length_writeInt32, List.drop_eq_nil_of_le (by simp), List.nil_append]
  rw [behind, Header.take_of_read readHeader, kept]

/-- The tag in the header of a record is that of the record, for it decides about the payload. -/
lemma take_of_decode {bytes : Bytes} {r : Record} (decoded : decode bytes = .ok r) :
    (bytes.drop 20).take 4 = writeInt32 r.tag := by
  unfold decode at decoded
  split at decoded
  · cases decoded
  · next header payload c made =>
    split at decoded
    · cases decoded
    · next profile decodedProfile =>
      split at decoded
      · cases decoded
      · next dirty c' last =>
        cases decoded
        have tag : profile.tag = header.tag :=
          (Profile.decoded_decode header.tag payload).dispatched.tag decodedProfile
        rw [take_of_readHeader (of_parse made), ← tag]
        rfl

end Record

namespace Link

/-- The name in what is behind the scheme of a link: what is before the first `?`, or before the first
`:` if there is no `?`. -/
def typeName? (body : List Char) : Option (List Char) :=
  if '?' ∈ body then some (body.takeWhile (· != '?'))
  else if ':' ∈ body then some (body.takeWhile (· != ':'))
  else none

/-- What the name in a link decides about what comes of the link. -/
structure Dispatched (name? : Option (List Char)) (result : Except LinkError Profile) : Prop where
  malformed : name? = none → result = .error (.malformed .noPayload)
  unknownName_iff (name : String) : result = .error (.unknownName name) ↔
    name? = some name.toList ∧ ∀ kind : Profile.Kind, kind.name ≠ name
  name {p : Profile} : result = .ok p → name? = some p.kind.name.toList

/-- What may come of a payload behind the name of a kind: nothing of any other kind. -/
inductive OfKind (kind : Profile.Kind) : Except LinkError Profile → Prop
  | malformed (fault : LinkFault) : OfKind kind (.error (.malformed fault))
  | payload (e : PayloadError) : OfKind kind (.error (.payload e))
  | ok {p : Profile} (is : p.kind = kind) : OfKind kind (.ok p)

/-- A payload gives nothing of any other kind. -/
lemma ofKind_profileOf (kind : Profile.Kind) (bytes : Bytes) : OfKind kind (profileOf kind bytes) := by
  have decoded := Profile.decoded_decode kind.tag bytes
  unfold profileOf
  split
  · next p made =>
    rw [made] at decoded
    cases decoded with
    | read known => exact .ok (Profile.Kind.tag_injective known)
  · exact .payload _

/-- Neither does the payload that letters hold, if no bytes do. -/
lemma ofKind_payloadBytes {kind : Profile.Kind} {next : Bytes → Except LinkError Profile}
    (h : ∀ bytes, OfKind kind (next bytes)) (text : List Char) :
    OfKind kind (payloadBytes text >>= next) := by
  unfold payloadBytes
  split
  · exact h _
  · exact .malformed _

/-- Behind a name everything is up to the kind of that name. -/
lemma dispatched_kindOf {next : Profile.Kind → Except LinkError Profile}
    (h : ∀ kind, OfKind kind (next kind)) (name : List Char) :
    Dispatched (some name) (kindOf name >>= next) := by
  unfold kindOf
  cases known : Profile.Kind.ofName? (String.ofList name) with
  | none =>
    have unknown := Profile.Kind.ofName?_eq_none_iff.1 known
    refine ⟨nofun, fun name' => ?_, nofun⟩
    constructor
    · intro is
      cases is
      exact ⟨congrArg some String.toList_ofList.symm, unknown⟩
    · rintro ⟨is, -⟩
      cases is
      change Except.error (LinkError.unknownName _) = _
      rw [String.ofList_toList]
  | some kind =>
    have named := Profile.Kind.ofName?_eq_some_iff.1 known
    have behind := h kind
    change Dispatched (some name) (next kind)
    refine ⟨nofun, fun name' => ?_, fun {p} is => ?_⟩
    · constructor
      · intro is
        rw [is] at behind
        cases behind
      · rintro ⟨is, unknown⟩
        cases is
        exact absurd (named.trans String.ofList_toList) (unknown kind)
    · rw [is] at behind
      cases behind with
      | ok same => rw [same, named, String.toList_ofList]

/-- A compressed link is decoded as its name demands. -/
lemma dispatched_decodeCompressed (name text : List Char) :
    Dispatched (some name) (decodeCompressed name text) := by
  refine dispatched_kindOf (fun kind => ofKind_payloadBytes (fun bytes => ?_) text) name
  cases Zlib.decompress? bytes with
  | none => exact .malformed _
  | some bytes => exact ofKind_profileOf kind bytes

/-- A link without compression is decoded as its name demands. -/
lemma dispatched_decodePlain (name rest : List Char) :
    Dispatched (some name) (decodePlain name rest) := by
  refine dispatched_kindOf (fun kind => ?_) name
  cases Text.cut ':' rest with
  | none => exact .malformed _
  | some parts => exact ofKind_payloadBytes (ofKind_profileOf kind) parts.2

/-- The body of a link is decoded as its name demands. -/
lemma dispatched_decodeBody (body : List Char) : Dispatched (typeName? body) (decodeBody body) := by
  unfold decodeBody typeName?
  cases question : Text.cut '?' body with
  | some parts =>
    rw [if_pos (Text.mem_of_cut question), Text.takeWhile_of_cut question]
    exact dispatched_decodeCompressed parts.1 parts.2
  | none =>
    rw [if_neg (Text.cut_eq_none_iff.1 question)]
    cases colon : Text.cut ':' body with
    | some parts =>
      rw [if_pos (Text.mem_of_cut colon), Text.takeWhile_of_cut colon]
      exact dispatched_decodePlain parts.1 parts.2
    | none =>
      rw [if_neg (Text.cut_eq_none_iff.1 colon)]
      exact ⟨fun _ => rfl, fun _ => by simp, nofun⟩

/-- A link is decoded as its name demands. -/
lemma dispatched_decode {link : String} {body : List Char}
    (starts : Text.strip link.toList = scheme.toList ++ body) :
    Dispatched (typeName? body) (decode link) := by
  rw [decode, starts, Text.dropStart?_append]
  exact dispatched_decodeBody body

end Link

/-- The tag that is asked for, the tag in the header of a record and the name in a link decide the kind
of what is decoded, and whether there is such a kind. -/
theorem decode_dispatched :
    (∀ tag bytes, Profile.Dispatched tag bytes (Profile.decode tag bytes)) ∧
    (∀ bytes r, Record.decode bytes = .ok r → (bytes.drop 20).take 4 = writeInt32 r.tag) ∧
    ∀ link body, Text.strip link.toList = Link.scheme.toList ++ body →
      Link.Dispatched (Link.typeName? body) (Link.decode link) :=
  ⟨fun tag bytes => (Profile.decoded_decode tag bytes).dispatched, fun _ _ => Record.take_of_decode,
    fun _ _ => Link.dispatched_decode⟩

/-- A payload, a record and a link with a name that has the other delimiter in it. -/
theorem decode_dispatched_otherDelimiter :
    let bytes := Record.bareHeader 23 ++ 26 :: Record.compactPayload 0 ++ [2]
    Profile.decode 7 [] = .error (.unknownTag 7) ∧
      Record.decode bytes = .ok Record.compactRecord ∧ (bytes.drop 20).take 4 = writeInt32 23 ∧
      Text.strip "\u00a0husi://trojan:x?y:z\n".toList = Link.scheme.toList ++ "trojan:x?y:z".toList ∧
      Link.decode "\u00a0husi://trojan:x?y:z\n" = .error (.unknownName "trojan:x") := by
  intro bytes
  obtain ⟨payload, record, link⟩ := decode_dispatched
  have decoded : Record.decode bytes = .ok Record.compactRecord := by decide
  have stripped : Text.strip "\u00a0husi://trojan:x?y:z\n".toList
      = Link.scheme.toList ++ "trojan:x?y:z".toList := by
    decide
  have unknownTag : ∀ kind : Profile.Kind, kind.tag ≠ 7 := by rintro (_ | _) <;> decide
  have unknownName : ∀ kind : Profile.Kind, kind.name ≠ "trojan:x" := by rintro (_ | _) <;> decide
  exact ⟨((payload 7 []).unknownTag_iff 7).2 ⟨rfl, unknownTag⟩, decoded, record _ _ decoded, stripped,
    ((link _ _ stripped).unknownName_iff _).2 ⟨rfl, unknownName⟩⟩

end ProxyChain
