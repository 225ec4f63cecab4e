import ProxyChain.Proofs.Outbound.Endpoint
import ProxyChain.Proofs.Outbound.Multiplex
import ProxyChain.Proofs.Outbound.Tls
import ProxyChain.Proofs.Text.Line

/-!
# Trojan profiles go through their outbound

A Trojan profile comes back from its outbound changed in one way only, in any settings (`Returned`). Blank
lines, the configuration of a client hello that is not encrypted and the identifier of a missing Reality
key are lost; profiles without any of these are `Portable`, and only they come back as they were. What
comes back is computed by `returned`.
-/

namespace ProxyChain.Trojan

/-- What settings become when they go through their outbound. -/
inductive Returned (t : Trojan) : Trojan → Prop where
  | encrypted {alpn certificates config : String} (on : t.ech = true)
      (protocols : Text.HoldsTrimmed t.alpn alpn) (lines : Text.HoldsLines t.certificates certificates)
      (hello : Text.HoldsTrimmed t.echConfig config) :
      Returned t { t with
        alpn
        certificates
        realityShortId := if t.realityPublicKey = "" then "" else t.realityShortId
        echConfig := config }
  | plain {alpn certificates : String} (off : t.ech = false)
      (protocols : Text.HoldsTrimmed t.alpn alpn) (lines : Text.HoldsLines t.certificates certificates) :
      Returned t { t with
        alpn
        certificates
        realityShortId := if t.realityPublicKey = "" then "" else t.realityShortId
        echConfig := "" }

/-- The settings as they come back from an outbound. -/
def returned (t : Trojan) : Trojan :=
  { t with
    alpn := Text.filledText t.alpn
    certificates := Text.lineText t.certificates
    realityShortId := if t.realityPublicKey = "" then "" else t.realityShortId
    echConfig := if t.ech then Text.filledText t.echConfig else "" }

/-- Settings that an outbound carries as they are. -/
structure Portable (t : Trojan) : Prop where
  alpn : Text.HoldsTrimmed t.alpn t.alpn
  certificates : Text.HoldsLines t.certificates t.certificates
  shortId : t.realityPublicKey = "" → t.realityShortId = ""
  ech : t.ech = true → Text.HoldsTrimmed t.echConfig t.echConfig
  plain : t.ech = false → t.echConfig = ""

variable (t : Trojan)

/-- Settings become what is computed from them, and nothing else. -/
lemma returned_iff {t t' : Trojan} : t.Returned t' ↔ t' = t.returned := by
  constructor
  · intro returns
    cases returns with
    | encrypted on protocols lines hello =>
      rw [returned, on, if_pos rfl, Text.holdsTrimmed_iff.1 protocols, Text.holdsLines_iff.1 lines,
        Text.holdsTrimmed_iff.1 hello]
    | plain off protocols lines =>
      rw [returned, off, if_neg Bool.false_ne_true, Text.holdsTrimmed_iff.1 protocols,
        Text.holdsLines_iff.1 lines]
  · rintro rfl
    have protocols : Text.HoldsTrimmed t.alpn (Text.filledText t.alpn) := Text.holdsTrimmed_iff.2 rfl
    have lines : Text.HoldsLines t.certificates (Text.lineText t.certificates) :=
      Text.holdsLines_iff.2 rfl
    cases on : t.ech with
    | true =>
      rw [returned, on, if_pos rfl]
      exact on ▸ .encrypted on protocols lines (Text.holdsTrimmed_iff.2 rfl)
    | false =>
      rw [returned, on, if_neg Bool.false_ne_true]
      exact on ▸ .plain on protocols lines

/-- Portable settings are those that come back as they are. -/
lemma returned_eq_self_iff : t.returned = t ↔ t.Portable := by
  obtain ⟨password, sni, alpn, certificates, insecure, fingerprint, publicKey, shortId, ech, config⟩ := t
  simp only [returned, mk.injEq, true_and]
  constructor
  · rintro ⟨alpn, certificates, shortId, config⟩
    refine ⟨Text.holdsTrimmed_iff.2 alpn, Text.holdsLines_iff.2 certificates, fun noKey => ?_, ?_, ?_⟩
    · exact (ite_eq_right_iff.1 shortId noKey).symm
    · rintro rfl
      exact Text.holdsTrimmed_iff.2 config
    · rintro rfl
      exact config.symm
  · rintro ⟨alpn, certificates, shortId, config, plain⟩
    refine ⟨Text.holdsTrimmed_iff.1 alpn, Text.holdsLines_iff.1 certificates,
      ite_eq_right_iff.2 fun noKey => (shortId noKey).symm, ?_⟩
    cases ech with
    | true => exact Text.holdsTrimmed_iff.1 (config rfl)
    | false => exact (plain rfl).symm

/-- The TLS options of a profile give all that comes back but the password, which is not theirs. -/
lemma ofTls_tls : ofTls t.password t.tls = t.returned := by
  have fingerprint : ((t.tls.utls.filter (·.enabled)).map (·.fingerprint)).getD ""
      = t.utlsFingerprint :=
    (Text.getD_map_nonEmpty? rfl).trans (ite_eq_right_iff.2 Eq.symm)
  have publicKey : ((t.tls.reality.filter (·.enabled)).map (·.publicKey)).getD ""
      = t.realityPublicKey :=
    (Text.getD_map_nonEmpty? rfl).trans (ite_eq_right_iff.2 Eq.symm)
  have shortId : ((t.tls.reality.filter (·.enabled)).map (·.shortId)).getD ""
      = if t.realityPublicKey = "" then "" else t.realityShortId :=
    Text.getD_map_nonEmpty? rfl
  rw [ofTls, fingerprint, publicKey, shortId, tls, Text.getD_nonEmpty?, Tls.lines_filledLines?,
    Tls.lines_allLines?, Tls.enabled_ofProfile?, Tls.lines_config_ofProfile?]
  rfl

variable (e : Endpoint) (s : Settings)

/-- The members of the outbound of a profile. -/
abbrev document : Members := Profile.typedMembers "trojan" e.name (t.fields e s)

/-- Every member stands under its own key. -/
lemma get?_document {key : String} {value : Option Json} (mem : (key, value) ∈ t.fields e s) :
    (t.document e s).get? key = value := by
  refine Profile.get?_typedMembers ?_ mem
  change (["server", "server_port", "password", "tls", "multiplex", "type", "tag"] :
    List String).Nodup
  decide

/-- The settings of a Trojan profile are read as they come back. -/
lemma ofMembers_document : ofMembers (Endpoint.unmatched (t.document e s)) = t.returned := by
  have sorted : (t.document e s).Sorted := Members.sorted_ofFields _
  have password : (Endpoint.unmatched (t.document e s)).get? "password" = some (.string t.password) :=
    Endpoint.get?_unmatched_of_get? sorted (by decide) (t.get?_document e s (by simp [fields])) nofun
  have tls : ((Endpoint.unmatched (t.document e s)).objectAt? "tls").map Tls.ofMembers = some t.tls := by
    rw [Endpoint.objectAt?_unmatched sorted (by decide)]
    exact Members.objectAt?_of_get? Tls.ofMembers_toJson (t.get?_document e s (by simp [fields]))
  rw [ofMembers, password, tls]
  exact t.ofTls_tls

/-- The common settings are read as they come back. -/
lemma ofMembers_endpoint : Endpoint.ofMembers (t.document e s)
    = { e with multiplex := e.multiplex.returned } := by
  have multiplex : (t.document e s).get? "multiplex" = e.multiplex.toJson? s :=
    t.get?_document e s (by simp [fields])
  rw [Endpoint.ofMembers_of_get? e Profile.get?_tag
    (t.get?_document e s (by simp [fields, Endpoint.fields]))
    (t.get?_document e s (by simp [fields, Endpoint.fields])), Members.objectAt?, multiplex,
    Multiplex.ofMembers_toJson?]

/-- What is read from the outbound of a profile. -/
lemma ofOutbound?_document : Profile.ofOutbound? (t.document e s)
    = some ⟨{ e with multiplex := e.multiplex.returned }, .trojan t.returned⟩ := by
  have known : OutboundType.ofName? "trojan" = some .trojan := rfl
  rw [Profile.ofOutbound?_typedMembers known, Profile.ofOutboundType, t.ofMembers_endpoint,
    t.ofMembers_document]

end ProxyChain.Trojan

namespace ProxyChain.Profile

/-- A Trojan profile comes back from its outbound, changed in the one way that it can be. That is the same in
any settings, and it is the profile itself exactly if all of it is portable. -/
theorem reread?_trojan (e : Endpoint) (t : Trojan) :
    ∃ t', (∀ t'', t.Returned t'' ↔ t'' = t') ∧ ∀ s,
      reread? ⟨e, .trojan t⟩ s = some ⟨{ e with multiplex := e.multiplex.returned }, .trojan t'⟩ ∧
      (reread? ⟨e, .trojan t⟩ s = some ⟨e, .trojan t⟩ ↔ e.multiplex.Portable ∧ t.Portable) := by
  refine ⟨t.returned, fun _ => Trojan.returned_iff, fun s => ?_⟩
  -- The settings only set the bandwidth of multiplexing, and no reader looks at that.
  have read : reread? ⟨e, .trojan t⟩ s
      = some ⟨{ e with multiplex := e.multiplex.returned }, .trojan t.returned⟩ :=
    t.ofOutbound?_document e s
  refine ⟨read, ?_⟩
  rw [read, ← t.returned_eq_self_iff, ← e.multiplex.returned_eq_self_iff]
  constructor
  · intro same
    have same := Option.some.inj same
    exact ⟨congrArg (·.endpoint.multiplex) same, Variant.trojan.inj (congrArg Profile.variant same)⟩
  · rintro ⟨multiplex, settings⟩
    rw [multiplex, settings]

end ProxyChain.Profile
