import ProxyChain.Proofs.Text.Integer
import ProxyChain.Proofs.Wire.Text
import ProxyChain.Profile.Payload

/-!
# Payloads are read back

The endpoint and the settings of every kind of profile are read back from their bytes field by field,
and with them the whole payload, `decode_encode_append`: bytes behind it make no difference. In a payload
of another version a profile is found as far as that version has it (`decode_carried_append`). The only
condition is that every text can be written at all (`Profile.texts`).
-/

namespace ProxyChain

open Wire Reader

instance : LawfulCoded Multiplex.Protocol where
  ofCode?_code p := by cases p <;> rfl

instance : LawfulCoded Multiplex.Limit where
  ofCode?_code l := by cases l <;> rfl

instance : LawfulCoded Hysteria.Auth where
  ofCode?_code a := by cases a <;> rfl

instance : LawfulCoded Hysteria.Transport where
  ofCode?_code t := by cases t <;> rfl

instance : LawfulCoded RawConfig.Scope where
  ofCode?_code s := by cases s <;> rfl

/-- A port that was written as a signed integer fits a port again. -/
lemma Text.fitUInt16?_ofNat (port : UInt16) :
    Text.fitUInt16? (Int32.ofNat port.toNat).toInt = some port := by
  have lt := port.toNat_lt
  rw [Int32.toInt_ofNat_of_lt (by omega), Text.fitUInt16?_toNat]

/-- The texts of an endpoint. -/
def Endpoint.texts (e : Endpoint) : List String := [e.name, e.address]

/-- The texts of Trojan settings. -/
def Trojan.texts (t : Trojan) : List String :=
  [t.password, t.sni, t.alpn, t.certificates, t.utlsFingerprint, t.realityPublicKey,
   t.realityShortId, t.echConfig]

/-- The texts of Naive settings. -/
def Naive.texts (n : Naive) : List String :=
  [n.proto, n.username, n.password, n.sni, n.extraHeaders]

/-- The texts of Hysteria settings. -/
def Hysteria.texts (h : Hysteria) : List String :=
  [h.serverPorts, h.obfuscation, h.authPayload, h.sni, h.alpn, h.certificates, h.echConfig]

/-- The texts of settings. -/
def Profile.Variant.texts : Profile.Variant → List String
  | .trojan t => t.texts
  | .naive n => n.texts
  | .hysteria h => h.texts
  | .direct => []
  | .config raw => [raw.text]

/-- The texts of a profile. -/
def Profile.texts (p : Profile) : List String := p.endpoint.texts ++ p.variant.texts

/-- The common settings are read as they are written. -/
lemma Endpoint.yields_read {e : Endpoint} (fits : ∀ s ∈ e.texts, Writable s) :
    Yields Endpoint.read e.write e := by
  simp only [texts, List.forall_mem_cons] at fits
  obtain ⟨name, address, -⟩ := fits
  simp only [write, List.append_assoc]
  apply (yields_string name).bind
  apply (yields_string address).bind
  apply (yields_coded _ (Text.fitUInt16?_ofNat e.port)).bind
  apply (yields_bool _).bind
  apply (yields_bool _).bind
  apply (yields_codedField _ _).bind
  apply (yields_codedField _ _).bind
  apply (yields_int32 _).bind
  exact (yields_bool _).bind_pure

/-- Trojan settings are read as they are written. -/
lemma Trojan.yields_read {t : Trojan} (fits : ∀ s ∈ t.texts, Writable s) :
    Yields Trojan.read t.write t := by
  simp only [texts, List.forall_mem_cons] at fits
  obtain ⟨password, sni, alpn, certificates, fingerprint, publicKey, shortId, echConfig, -⟩ := fits
  simp only [write, List.append_assoc]
  apply (yields_string password).bind
  apply (yields_string sni).bind
  apply (yields_string alpn).bind
  apply (yields_string certificates).bind
  apply (yields_bool _).bind
  apply (yields_string fingerprint).bind
  apply (yields_string publicKey).bind
  apply (yields_string shortId).bind
  apply (yields_bool _).bind
  exact (yields_string echConfig).bind_pure

/-- Naive settings are read as they are written. -/
lemma Naive.yields_read {n : Naive} (fits : ∀ s ∈ n.texts, Writable s) :
    Yields Naive.read n.write n := by
  simp only [texts, List.forall_mem_cons] at fits
  obtain ⟨proto, username, password, sni, extraHeaders, -⟩ := fits
  simp only [write, List.append_assoc]
  apply (yields_string proto).bind
  apply (yields_string username).bind
  apply (yields_string password).bind
  apply (yields_string sni).bind
  apply (yields_string extraHeaders).bind
  exact (yields_int32 _).bind_pure

/-- The Hysteria fields that every version has are read back, the others being unset. -/
lemma Hysteria.yields_readBase {h : Hysteria} (fits : ∀ s ∈ h.texts, Writable s) :
    Yields Hysteria.readBase h.writeBase
      { h with hopInterval := 10, ech := false, echConfig := "" } := by
  simp only [texts, List.forall_mem_cons] at fits
  obtain ⟨serverPorts, obfuscation, authPayload, sni, alpn, certificates, -⟩ := fits
  simp only [writeBase, List.append_assoc]
  apply (yields_int32 _).bind
  apply (yields_string serverPorts).bind
  apply (yields_string obfuscation).bind
  apply (yields_codedField _ _).bind
  apply (yields_string authPayload).bind
  apply (yields_codedField _ _).bind
  apply (yields_string sni).bind
  apply (yields_string alpn).bind
  apply (yields_string certificates).bind
  apply (yields_bool _).bind
  apply (yields_bool _).bind
  apply (yields_int32 _).bind
  apply (yields_int32 _).bind
  apply (yields_bool _).bind
  apply (yields_int32 _).bind
  exact (yields_int32 _).bind_pure

namespace Hysteria

/-- The bytes of the fields that a version has. -/
def carried (version : Int32) (h : Hysteria) : Bytes :=
  h.writeBase ++ (if 1 ≤ version then writeInt64 h.hopInterval else []) ++
    if 2 ≤ version then h.writeEch else []

/-- Settings as far as a version has them, the other fields being unset. -/
def asOf (version : Int32) (h : Hysteria) : Hysteria :=
  if 2 ≤ version then h
  else if 1 ≤ version then { h with ech := false, echConfig := "" }
  else { h with hopInterval := 10, ech := false, echConfig := "" }

/-- The interval between hops is read if the version has one. -/
lemma yields_readHopInterval (version : Int32) (h : Hysteria) (interval : Int64) :
    Yields (h.readHopInterval version) (if 1 ≤ version then writeInt64 interval else [])
      (if 1 ≤ version then { h with hopInterval := interval } else h) := by
  unfold readHopInterval
  split
  · exact (yields_int64 interval).bind_pure
  · exact .pure h

/-- The encrypted client hello is read if the version has one. -/
lemma yields_readEch (version : Int32) (h : Hysteria) {h' : Hysteria} (fits : Writable h'.echConfig) :
    Yields (h.readEch version) (if 2 ≤ version then h'.writeEch else [])
      (if 2 ≤ version then { h with ech := h'.ech, echConfig := h'.echConfig } else h) := by
  unfold readEch
  split
  · apply (yields_bool _).bind
    exact (yields_string fits).bind_pure
  · exact .pure h

/-- Hysteria settings are read back in every version, as far as it has them. -/
lemma yields_read (version : Int32) {h : Hysteria} (fits : ∀ s ∈ h.texts, Writable s) :
    Yields (Hysteria.read version) (h.carried version) (h.asOf version) := by
  have echConfig : Writable h.echConfig := fits _ (by simp [texts])
  -- A version that has the later fields has the earlier one as well.
  have earlier : 2 ≤ version → 1 ≤ version := Int32.le_trans (by decide)
  rw [carried, List.append_assoc]
  apply (yields_readBase fits).bind
  apply (yields_readHopInterval version _ h.hopInterval).bind
  have read (base : Hysteria) := yields_readEch version base echConfig
  unfold asOf
  by_cases newest : 2 ≤ version
  · simp only [if_pos newest, if_pos (earlier newest)] at read ⊢
    exact read _
  · simp only [if_neg newest] at read ⊢
    exact read _

end Hysteria

/-- A raw configuration is read as it is written. -/
lemma RawConfig.yields_read {raw : RawConfig} (fits : Writable raw.text) :
    Yields RawConfig.read raw.write raw := by
  apply (yields_codedField _ _).bind
  exact (yields_string fits).bind_pure

namespace Profile

/-- The bytes of the settings that a version has. Only Hysteria's differ between versions. -/
def Variant.carried (version : Int32) : Variant → Bytes
  | hysteria h => h.carried version
  | other => other.write

/-- Settings as far as a version has them. -/
def Variant.asOf (version : Int32) : Variant → Variant
  | hysteria h => hysteria (h.asOf version)
  | other => other

/-- Settings are read back in every version, as far as it has them. -/
lemma Variant.yields_read (version : Int32) {v : Variant} (fits : ∀ s ∈ v.texts, Writable s) :
    Yields (Variant.read version v.kind) (v.carried version) (v.asOf version) := by
  cases v with
  | trojan t => exact (Trojan.yields_read fits).map _
  | naive n => exact (Naive.yields_read fits).map _
  | hysteria h => exact (Hysteria.yields_read version fits).map _
  | direct => exact .pure _
  | config raw => exact (RawConfig.yields_read (fits _ (List.mem_singleton_self _))).map _

/-- The version that settings are written with has every field. -/
lemma Variant.carried_payloadVersion (v : Variant) : v.carried v.kind.payloadVersion = v.write := by
  cases v <;> rfl

/-- Settings lose nothing in the version of their kind. -/
lemma Variant.asOf_payloadVersion (v : Variant) : v.asOf v.kind.payloadVersion = v := by
  cases v <;> rfl

/-- A payload of a version that ends behind the last field that the version has. -/
def carried (version : Int32) (p : Profile) : Bytes :=
  writeInt32 version ++ p.endpoint.write ++ p.variant.carried version

/-- A profile as far as a version has it. -/
def asOf (version : Int32) (p : Profile) : Profile := { p with variant := p.variant.asOf version }

/-- A payload of any version is read back. -/
lemma yields_read_carried (version : Int32) {p : Profile} (fits : ∀ s ∈ p.texts, Writable s) :
    Yields (Profile.read p.kind) (p.carried version) (p.asOf version) := by
  rw [texts, List.forall_mem_append] at fits
  obtain ⟨endpoint, variant⟩ := fits
  rw [carried, List.append_assoc]
  apply (yields_int32 version).bind
  apply (Endpoint.yields_read endpoint).bind
  exact (Variant.yields_read version variant).bind_pure

/-- A payload in the version of its kind carries all that is written. -/
lemma carried_payloadVersion (p : Profile) : p.carried p.kind.payloadVersion = p.encode := by
  rw [carried, kind, Variant.carried_payloadVersion, List.append_assoc]
  rfl

/-- A profile loses nothing in the version of its kind. -/
lemma asOf_payloadVersion (p : Profile) : p.asOf p.kind.payloadVersion = p := by
  rw [asOf, kind, Variant.asOf_payloadVersion]

/-- A profile is read as it is encoded. -/
lemma yields_read {p : Profile} (fits : ∀ s ∈ p.texts, Writable s) :
    Yields (Profile.read p.kind) p.encode p := by
  have read := yields_read_carried p.kind.payloadVersion fits
  rwa [carried_payloadVersion, asOf_payloadVersion] at read

/-- The kind of a profile is found by its tag. -/
lemma ofTag?_tag (p : Profile) : Kind.ofTag? p.tag = some p.kind := Kind.ofTag?_tag p.kind

/-- A payload has at least the four bytes of its version. -/
lemma isEmpty_carried_append (version : Int32) (p : Profile) (slack : Bytes) :
    (p.carried version ++ slack).isEmpty = false := by
  rw [carried, writeInt32, bigEndian]
  rfl

/-- A profile is found in a payload of any version, whatever follows it. -/
lemma decode_carried_append (version : Int32) {p : Profile} (fits : ∀ s ∈ p.texts, Writable s)
    (slack : Bytes) :
    Profile.decode p.tag (p.carried version ++ slack) = .ok (p.asOf version) := by
  have parsed := (yields_read_carried version fits).parse_eq 0 slack
  change (Profile.read p.kind).parse (.start (p.carried version ++ slack)) = _ at parsed
  simp only [Profile.decode, ofTag?_tag, isEmpty_carried_append, parsed]
  rfl

/-- A profile is found in its payload, whatever follows it. -/
lemma decode_encode_append {p : Profile} (fits : ∀ s ∈ p.texts, Writable s) (slack : Bytes) :
    Profile.decode p.tag (p.encode ++ slack) = .ok p := by
  have decoded := decode_carried_append p.kind.payloadVersion fits slack
  rwa [carried_payloadVersion, asOf_payloadVersion] at decoded

end Profile

end ProxyChain
