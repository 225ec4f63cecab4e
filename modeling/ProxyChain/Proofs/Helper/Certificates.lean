import ProxyChain.Proofs.Helper.Members

/-!
# The certificates that helpers are told of

A configuration of either generation of Hysteria may name a file of certificates, each at a place of its
own (`Json.NamesCertificates`). Rendering gives that file along with the configuration, which names it as
its path is shown, and its contents are the certificates of the profile (`Helper.render_certificates`).
-/

namespace ProxyChain

/-- A configuration names a file of certificates: at the top, or among what it says about TLS. -/
def Json.NamesCertificates (doc : Json) (shown : String) : Prop :=
  doc.textAt? "ca" = some shown ∨ ∃ tls, doc.at? "tls" = some tls ∧ tls.textAt? "ca" = some shown

namespace Hysteria

variable {p : Profile} {h : Hysteria} {around : Surroundings} {shown : String}

/-- A configuration of the first generation names the file that it is given, and no other one. -/
lemma namesCertificates_firstConfig :
    (firstConfig p h around).NamesCertificates shown ↔ around.certificateFile = some shown := by
  have members : FirstMembers p h around (firstConfig p h around) := firstMembers
  rw [Json.NamesCertificates, Json.textAt?, members.noTls, members.certificates]
  cases around.certificateFile <;> simp [Json.string?]

/-- So does one of the second generation. -/
lemma namesCertificates_secondConfig :
    (secondConfig p h around).NamesCertificates shown ↔ around.certificateFile = some shown := by
  have members : SecondMembers p h around (secondConfig p h around) := secondMembers
  have atTls : (∃ tls, (secondConfig p h around).at? "tls" = some tls ∧ tls.textAt? "ca" = some shown) ↔
      (around.certificateFile.map Json.string).bind Json.string? = some shown := by
    rw [← members.certificates, Option.bind_assoc]
    exact Option.bind_eq_some_iff.symm
  rw [Json.NamesCertificates, Json.textAt?, members.noCertificates, atTls]
  cases around.certificateFile <;> simp [Json.string?]

end Hysteria

/-- A configuration for Naive names no certificates. -/
lemma Naive.not_namesCertificates (n : Naive) (e : Endpoint) (ports : Helper.Ports) (shown : String) :
    ¬ (n.config e ports).NamesCertificates shown := by
  have without {key : String} (other : key ∉ ["listen", "proxy", "host-resolver-rules",
      "extra-headers", "insecure-concurrency"]) : (n.config e ports).at? key = none :=
    Members.get?_ofFields_eq_none other
  rw [Json.NamesCertificates, Json.textAt?, without (by decide), without (by decide)]
  simp

/-- The configuration that is rendered names a file of certificates exactly if one is given along with
it, whose contents are the certificates of the profile. It names it as its path is shown. -/
lemma Helper.render_certificates {p : Profile} {ports : Ports} {underTunnel : Bool} {s : Settings}
    {name : String} {rendered : Rendered}
    (renders : render p ports underTunnel s name = some rendered) :
    ∃ doc : Json, rendered.config = doc.pretty ∧ ∀ shown, doc.NamesCertificates shown ↔
      ∃ h path, p.variant = .hysteria h ∧ ⟨path, h.certificates⟩ ∈ rendered.files ∧
        path.display = shown := by
  cases variant : p.variant with
  | hysteria h =>
    rw [Hysteria.render_eq variant, Option.some.injEq] at renders
    subst renders
    refine ⟨_, rfl, fun shown => ?_⟩
    have names {around : Hysteria.Surroundings} :
        (h.config p around).NamesCertificates shown ↔ around.certificateFile = some shown := by
      rw [Hysteria.config]
      split
      · exact Hysteria.namesCertificates_firstConfig
      · exact Hysteria.namesCertificates_secondConfig
    rw [names]
    unfold Hysteria.surroundings Hysteria.certificateFile?
    split <;> simp
  | naive n =>
    rw [Naive.render_eq variant, Option.some.injEq] at renders
    subst renders
    refine ⟨_, rfl, fun shown => iff_of_false (n.not_namesCertificates _ _ shown) ?_⟩
    rintro ⟨h, path, other, -⟩
    cases other
  | trojan _ | direct | config _ => simp [render, of?, variant] at renders

end ProxyChain
