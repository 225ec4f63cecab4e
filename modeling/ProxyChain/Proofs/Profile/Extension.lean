import ProxyChain.Profile.Payload
import ProxyChain.Proofs.Wire.Shortage

/-!
# Bytes behind any payload

Every reader of a payload is candid, whether the bytes it stands in front of were ever written or not.
So a payload that holds a profile holds the same one with bytes behind it, and one that is malformed is
malformed in the same way; only for lack of bytes can more bytes make a difference.
-/

namespace ProxyChain

open Wire Reader

/-- Whether bytes were missing inside a payload. -/
def PayloadError.isTruncated : PayloadError → Bool
  | read e => e.isTruncated
  | unknownTag _ | empty _ => false

/-- The common settings are read candidly. -/
lemma Endpoint.candid_read : Candid Endpoint.read := by
  refine .bind candid_string fun name => ?_
  refine .bind candid_string fun address => ?_
  refine .bind (candid_coded _ _) fun port => ?_
  refine .bind candid_bool fun enabled => ?_
  refine .bind candid_bool fun padding => ?_
  refine .bind (candid_codedField _) fun protocol => ?_
  refine .bind (candid_codedField _) fun limit => ?_
  refine .bind candid_int32 fun number => ?_
  exact .bind candid_bool fun brutal => .pure _

/-- Trojan settings are read candidly. -/
lemma Trojan.candid_read : Candid Trojan.read := by
  refine .bind candid_string fun password => ?_
  refine .bind candid_string fun sni => ?_
  refine .bind candid_string fun alpn => ?_
  refine .bind candid_string fun certificates => ?_
  refine .bind candid_bool fun allowInsecure => ?_
  refine .bind candid_string fun utlsFingerprint => ?_
  refine .bind candid_string fun realityPublicKey => ?_
  refine .bind candid_string fun realityShortId => ?_
  refine .bind candid_bool fun ech => ?_
  exact .bind candid_string fun echConfig => .pure _

/-- Naive settings are read candidly. -/
lemma Naive.candid_read : Candid Naive.read := by
  refine .bind candid_string fun proto => ?_
  refine .bind candid_string fun username => ?_
  refine .bind candid_string fun password => ?_
  refine .bind candid_string fun sni => ?_
  refine .bind candid_string fun extraHeaders => ?_
  exact .bind candid_int32 fun insecureConcurrency => .pure _

namespace Hysteria

/-- What every version has of Hysteria is read candidly. -/
lemma candid_readBase : Candid Hysteria.readBase := by
  refine .bind candid_int32 fun protocolVersion => ?_
  refine .bind candid_string fun serverPorts => ?_
  refine .bind candid_string fun obfuscation => ?_
  refine .bind (candid_codedField _) fun authType => ?_
  refine .bind candid_string fun authPayload => ?_
  refine .bind (candid_codedField _) fun transport => ?_
  refine .bind candid_string fun sni => ?_
  refine .bind candid_string fun alpn => ?_
  refine .bind candid_string fun certificates => ?_
  refine .bind candid_bool fun allowInsecure => ?_
  refine .bind candid_bool fun disableSni => ?_
  refine .bind candid_int32 fun streamReceiveWindow => ?_
  refine .bind candid_int32 fun connectionReceiveWindow => ?_
  refine .bind candid_bool fun disableMtuDiscovery => ?_
  refine .bind candid_int32 fun uploadMbps => ?_
  exact .bind candid_int32 fun downloadMbps => .pure _

/-- The interval between hops is read candidly. -/
lemma candid_readHopInterval (version : Int32) (h : Hysteria) :
    Candid (h.readHopInterval version) := by
  unfold readHopInterval
  split
  · exact .bind candid_int64 fun hopInterval => .pure _
  · exact .pure _

/-- The encrypted client hello is read candidly. -/
lemma candid_readEch (version : Int32) (h : Hysteria) : Candid (h.readEch version) := by
  unfold readEch
  split
  · refine .bind candid_bool fun ech => ?_
    exact .bind candid_string fun echConfig => .pure _
  · exact .pure _

/-- Hysteria settings are read candidly. -/
lemma candid_read (version : Int32) : Candid (Hysteria.read version) := by
  refine .bind candid_readBase fun h => ?_
  refine .bind (h.candid_readHopInterval version) fun h => ?_
  exact h.candid_readEch version

end Hysteria

/-- A raw configuration is read candidly. -/
lemma RawConfig.candid_read : Candid RawConfig.read := by
  refine .bind (candid_codedField _) fun scope => ?_
  exact .bind candid_string fun text => .pure _

namespace Profile

/-- The settings of every kind are read candidly. -/
lemma Variant.candid_read (version : Int32) (kind : Kind) : Candid (Variant.read version kind) := by
  cases kind with
  | trojan => exact .map Trojan.candid_read _
  | naive => exact .map Naive.candid_read _
  | hysteria => exact (Hysteria.candid_read version).map _
  | direct => exact .pure _
  | config => exact .map RawConfig.candid_read _

/-- A profile is read candidly. -/
lemma candid_read (kind : Kind) : Candid (Profile.read kind) := by
  refine .bind candid_int32 fun version => ?_
  refine .bind Endpoint.candid_read fun endpoint => ?_
  exact .bind (Variant.candid_read version kind) fun variant => .pure _

/-- The profile in a payload is the same with bytes behind the payload. -/
lemma decode_append_ok {tag : Int32} {bytes : Bytes} {p : Profile}
    (h : Profile.decode tag bytes = .ok p) (more : Bytes) :
    Profile.decode tag (bytes ++ more) = .ok p := by
  cases known : Kind.ofTag? tag with
  | none => simp only [Profile.decode, known, reduceCtorEq] at h
  | some kind =>
    cases bytes with
    | nil => simp only [Profile.decode, known, List.isEmpty_nil, if_true, reduceCtorEq] at h
    | cons b bytes =>
      simp only [Profile.decode, known, List.isEmpty_cons, List.cons_append, Bool.false_eq_true,
        if_false] at h ⊢
      split at h
      · next p' c made =>
        cases h
        have again := (candid_read kind).parse_ok made more
        rw [List.cons_append] at again
        rw [Cursor.start, again]
      · cases h

/-- A payload that is malformed is malformed in the same way with bytes behind it. -/
lemma decode_append_error {tag : Int32} {bytes : Bytes} {e : PayloadError}
    (h : Profile.decode tag bytes = .error e) (final : e.isTruncated = false)
    (nonempty : e ≠ .empty tag) (more : Bytes) :
    Profile.decode tag (bytes ++ more) = .error e := by
  cases known : Kind.ofTag? tag with
  | none =>
    simp only [Profile.decode, known] at h ⊢
    exact h
  | some kind =>
    cases bytes with
    | nil =>
      simp only [Profile.decode, known, List.isEmpty_nil, if_true] at h
      cases h
      exact absurd rfl nonempty
    | cons b bytes =>
      simp only [Profile.decode, known, List.isEmpty_cons, List.cons_append, Bool.false_eq_true,
        if_false] at h ⊢
      split at h
      · cases h
      · next e' failed =>
        cases h
        have again := (candid_read kind).parse_error failed final more
        rw [List.cons_append] at again
        rw [Cursor.start, again]

end Profile

end ProxyChain
