import ProxyChain.Proofs.Outbound.Endpoint
import ProxyChain.Proofs.Outbound.Thinned

/-!
# Null stands for absent

Members of an outbound that are null may be left out, at the top and in the objects inside it that its
readers look into, and the same profile is read (`Profile.ofOutbound?_thinned_iff`). The one thing that
has to stay is what a Hysteria outbound says about obfuscation: the second generation reads a password
that is null as the text of null, and the first reads a whole object as its text.
-/

namespace ProxyChain

open Members

variable {m m' : Members}

/-- The options for uTLS do not depend on members that are null. -/
lemma Tls.Utls.ofMembers_thinned (orderly : Json.Orderly (.object m))
    (t : Thinned ["tls", "utls"] m m') : Utls.ofMembers m' = Utls.ofMembers m := by
  rw [Utls.ofMembers, t.flag_eq orderly _ (by decide), t.textAt_eq orderly _ (by decide), Utls.ofMembers]

/-- The options for ECH do not depend on members that are null. -/
lemma Tls.Ech.ofMembers_thinned (orderly : Json.Orderly (.object m))
    (t : Thinned ["tls", "ech"] m m') : Ech.ofMembers m' = Ech.ofMembers m := by
  rw [Ech.ofMembers, t.flag_eq orderly _ (by decide), t.strings?_eq orderly _ (by decide), Ech.ofMembers]

/-- The options for Reality do not depend on members that are null. -/
lemma Tls.Reality.ofMembers_thinned (orderly : Json.Orderly (.object m))
    (t : Thinned ["tls", "reality"] m m') : Reality.ofMembers m' = Reality.ofMembers m := by
  rw [Reality.ofMembers, t.flag_eq orderly _ (by decide), t.textAt_eq orderly _ (by decide),
    t.textAt_eq orderly _ (by decide), Reality.ofMembers]

/-- TLS options that are null are unset. -/
lemma Tls.ofMembers_thinned (orderly : Json.Orderly (.object m)) (t : Thinned ["tls"] m m') :
    Tls.ofMembers m' = Tls.ofMembers m := by
  have utls := t.map_objectAt?_eq orderly "utls" fun _ _ => Utls.ofMembers_thinned
  have ech := t.map_objectAt?_eq orderly "ech" fun _ _ => Ech.ofMembers_thinned
  have reality := t.map_objectAt?_eq orderly "reality" fun _ _ => Reality.ofMembers_thinned
  have option (key : String) (outside : ["tls", key] ∉ innerObjects) :
      m'.present? key = m.present? key := t.present?_eq orderly key outside
  have list (key : String) (outside : ["tls", key] ∉ innerObjects) :
      Json.strings? (m'.get? key) = Json.strings? (m.get? key) := t.strings?_eq orderly key outside
  simp only [Tls.ofMembers, utls, ech, reality, option "enabled" (by decide),
    option "server_name" (by decide), option "insecure" (by decide),
    option "disable_sni" (by decide), list "alpn" (by decide),
    list "certificate" (by decide), option "fragment" (by decide),
    option "fragment_fallback_delay" (by decide),
    option "record_fragment" (by decide)]

/-- Multiplexing is off whether it is null or absent, and so is everything about it. -/
lemma Multiplex.ofMembers_thinned (orderly : Json.Orderly (.object m))
    (t : Thinned ["multiplex"] m m') : Multiplex.ofMembers m' = Multiplex.ofMembers m := by
  have limits : withLimit m' = withLimit m := by
    funext settings limit
    rw [withLimit, withLimit, t.intAt_eq orderly _ (by cases limit <;> decide)]
  have brutal : (m'.objectAt? "brutal").map (fun b => b.flag "enabled")
      = (m.objectAt? "brutal").map fun b => b.flag "enabled" :=
    t.map_objectAt?_eq orderly _ fun _ _ orderly t => t.flag_eq orderly _ (by decide)
  obtain same | ⟨null, gone⟩ := t.get?_cases orderly "enabled" (by decide)
  · simp only [Multiplex.ofMembers, same, limits, brutal,
      t.flag_eq orderly "padding" (by decide),
      t.textAt_eq orderly "protocol" (by decide)]
  · rw [Multiplex.ofMembers, Multiplex.ofMembers, null, gone]

section Document

variable {doc doc' : Members} (orderly : Json.Orderly (.object doc)) (t : Thinned [] doc doc')
include orderly t

/-- The common settings do not depend on members that are null. -/
lemma Endpoint.ofMembers_thinned : Endpoint.ofMembers doc' = Endpoint.ofMembers doc := by
  have multiplex := t.map_objectAt?_eq orderly "multiplex" fun _ _ =>
    Multiplex.ofMembers_thinned
  simp only [Endpoint.ofMembers, multiplex, t.present?_eq orderly "tag" (by decide),
    t.present?_eq orderly "server" (by decide),
    t.present?_eq orderly "server_port" (by decide)]

namespace Endpoint

/-- The members left to the kind of outbound are the same, but for the objects to look into. -/
lemma get?_unmatched_thinned (key : String) (own : key ∉ keys) (outside : [key] ∉ innerObjects) :
    (unmatched doc').get? key = (unmatched doc).get? key := by
  rw [get?_unmatched orderly.sorted own, get?_unmatched (t.sorted orderly.sorted) own,
    t.present?_eq orderly key outside]

/-- Neither do the options for TLS, with the common members taken out. -/
lemma tls_unmatched_thinned : ((unmatched doc').objectAt? "tls").map Tls.ofMembers
    = ((unmatched doc).objectAt? "tls").map Tls.ofMembers := by
  rw [objectAt?_unmatched orderly.sorted (by decide),
    objectAt?_unmatched (t.sorted orderly.sorted) (by decide)]
  exact t.map_objectAt?_eq orderly _ fun _ _ => Tls.ofMembers_thinned

end Endpoint

open Endpoint

/-- A Trojan profile does not depend on members that are null. -/
lemma Trojan.ofMembers_thinned :
    Trojan.ofMembers (unmatched doc') = Trojan.ofMembers (unmatched doc) := by
  simp only [Trojan.ofMembers, tls_unmatched_thinned orderly t,
    get?_unmatched_thinned orderly t "password" (by decide) (by decide)]

namespace Hysteria

/-- What both generations share does not depend on members that are null. -/
lemma ofShared_thinned : ofShared (unmatched doc') = ofShared (unmatched doc) := by
  simp only [ofShared, cappedAt, tls_unmatched_thinned orderly t,
    get?_unmatched_thinned orderly t "server_ports" (by decide) (by decide),
    get?_unmatched_thinned orderly t "hop_interval" (by decide) (by decide),
    get?_unmatched_thinned orderly t "up_mbps" (by decide) (by decide),
    get?_unmatched_thinned orderly t "down_mbps" (by decide) (by decide)]

/-- The first generation reads the same exactly if the object that it reads as the text of the
obfuscation stays as it is. -/
lemma ofFirstMembers_thinned_iff :
    ofFirstMembers (unmatched doc') = ofFirstMembers (unmatched doc)
      ↔ doc'.objectAt? "obfs" = doc.objectAt? "obfs" := by
  have own := get?_unmatched_thinned orderly t
  have secret : secretOf (unmatched doc') = secretOf (unmatched doc) := by
    simp only [secretOf, own "auth_str" (by decide) (by decide),
      own "auth" (by decide) (by decide)]
  have only_obfs : ofFirstMembers (unmatched doc') = ofFirstMembers (unmatched doc) ↔
      (((unmatched doc').get? "obfs").map Json.text).getD ""
        = (((unmatched doc).get? "obfs").map Json.text).getD "" := by
    refine ⟨congrArg Hysteria.obfuscation, fun obfuscation => ?_⟩
    simp only [ofFirstMembers, cappedAt, ofShared_thinned orderly t, secret, obfuscation,
      own "recv_window_conn" (by decide) (by decide),
      own "recv_window" (by decide) (by decide),
      own "disable_mtu_discovery" (by decide) (by decide)]
  rw [only_obfs, get?_unmatched orderly.sorted (by decide),
    get?_unmatched (t.sorted orderly.sorted) (by decide)]
  obtain same | ⟨null, gone⟩ | ⟨inner, inner', -, inside, held, held'⟩ :=
    t.found orderly.sorted.nodup "obfs"
  · rw [present?, present?, objectAt?, objectAt?, same]
    exact iff_of_true rfl rfl
  · rw [present?, present?, objectAt?, objectAt?, null, gone]
    exact iff_of_true rfl rfl
  · rw [present?, present?, objectAt?, objectAt?, held, held']
    constructor
    · intro sameText
      exact congrArg some (inside.eq_of_text sameText)
    · intro sameObject
      cases sameObject
      rfl

/-- The second generation reads the same exactly if the password of the obfuscation stays as it is. -/
lemma ofSecondMembers_thinned_iff :
    ofSecondMembers (unmatched doc') = ofSecondMembers (unmatched doc)
      ↔ (doc'.objectAt? "obfs").bind (·.get? "password")
        = (doc.objectAt? "obfs").bind (·.get? "password") := by
  have secret := get?_unmatched_thinned orderly t "password" (by decide) (by decide)
  have only_obfs : ofSecondMembers (unmatched doc') = ofSecondMembers (unmatched doc) ↔
      ((((unmatched doc').objectAt? "obfs").bind (·.get? "password")).map Json.text).getD ""
        = ((((unmatched doc).objectAt? "obfs").bind (·.get? "password")).map Json.text).getD "" := by
    refine ⟨congrArg Hysteria.obfuscation, fun obfuscation => ?_⟩
    simp only [ofSecondMembers, ofShared_thinned orderly t, secret, obfuscation]
  rw [only_obfs, objectAt?_unmatched orderly.sorted (by decide),
    objectAt?_unmatched (t.sorted orderly.sorted) (by decide)]
  refine ⟨fun sameText => ?_, fun same => by rw [same]⟩
  obtain same | ⟨null, gone⟩ | ⟨inner, inner', -, inside, held, held'⟩ :=
    t.found orderly.sorted.nodup "obfs"
  · rw [objectAt?, objectAt?, same]
  · rw [objectAt?, objectAt?, null, gone]
    rfl
  · have found : doc.objectAt? "obfs" = some inner := by rw [objectAt?, held]; rfl
    have found' : doc'.objectAt? "obfs" = some inner' := by rw [objectAt?, held']; rfl
    rw [found, found', Option.bind_some, Option.bind_some] at sameText ⊢
    obtain same | ⟨null, gone⟩ :=
      inside.get?_cases (orderly.objectAt? found) "password" (by decide)
    · exact same
    · -- The text of null is not empty.
      rw [null, gone] at sameText
      exact absurd sameText (by decide)

end Hysteria

end Document

/-- The type of an outbound, if it is known. -/
def OutboundType.ofMembers? (doc : Members) : Option OutboundType :=
  (doc.get? "type").bind fun type => OutboundType.ofName? type.text

namespace Profile

open OutboundType

/-- What a Hysteria outbound reads about its obfuscation is the same: of the first generation the object,
of the second its password. -/
structure ObfuscationKept (doc doc' : Members) : Prop where
  first : ofMembers? doc = some .hysteria → doc'.objectAt? "obfs" = doc.objectAt? "obfs"
  second : ofMembers? doc = some .hysteria2 →
    (doc'.objectAt? "obfs").bind (·.get? "password") = (doc.objectAt? "obfs").bind (·.get? "password")

/-- Members that are null may be left out of an outbound, at the top and in the objects inside it, without
a change to what is read from it, exactly if the obfuscation of a Hysteria outbound is kept. -/
theorem ofOutbound?_thinned_iff {doc doc' : Members} (orderly : Json.Orderly (.object doc))
    (t : Thinned [] doc doc') : ofOutbound? doc' = ofOutbound? doc ↔ ObfuscationKept doc doc' := by
  have type : ofMembers? doc' = ofMembers? doc := by
    obtain same | ⟨null, gone⟩ := t.get?_cases orderly "type" (by decide)
    · rw [ofMembers?, ofMembers?, same]
    · rw [ofMembers?, ofMembers?, null, gone]
      rfl
  have endpoint := Endpoint.ofMembers_thinned orderly t
  change (ofMembers? doc').map (ofOutboundType doc')
    = (ofMembers? doc).map (ofOutboundType doc) ↔ _
  rw [type]
  cases known : ofMembers? doc with
  | none => exact iff_of_true rfl ⟨by rw [known]; nofun, by rw [known]; nofun⟩
  | some kind =>
    rw [Option.map_some, Option.map_some, Option.some_inj]
    cases kind with
    | hysteria =>
      have settings := Hysteria.ofFirstMembers_thinned_iff orderly t
      simp only [ofOutboundType, endpoint, Profile.mk.injEq, true_and, Variant.hysteria.injEq, settings]
      exact ⟨fun kept => ⟨fun _ => kept, by rw [known]; nofun⟩, fun kept => kept.first known⟩
    | hysteria2 =>
      have settings := Hysteria.ofSecondMembers_thinned_iff orderly t
      simp only [ofOutboundType, endpoint, Profile.mk.injEq, true_and, Variant.hysteria.injEq, settings]
      exact ⟨fun kept => ⟨by rw [known]; nofun, fun _ => kept⟩, fun kept => kept.second known⟩
    | trojan =>
      refine iff_of_true ?_ ⟨by rw [known]; nofun, by rw [known]; nofun⟩
      rw [ofOutboundType, ofOutboundType, endpoint, Trojan.ofMembers_thinned orderly t]
    | direct =>
      refine iff_of_true ?_ ⟨by rw [known]; nofun, by rw [known]; nofun⟩
      rw [ofOutboundType, ofOutboundType, endpoint]

/-- An outbound of the second generation with members that are null at every level. -/
def nullsAtEveryLevel : Members :=
  [("multiplex", .null), ("obfs", .object [("password", .string "secret"), ("type", .null)]),
   ("tls", .object [("alpn", .null), ("ech", .object [("config", .null), ("enabled", .bool true)])]),
   ("type", .string "hysteria2")]

/-- The same without them. -/
def noNulls : Members :=
  [("obfs", .object [("password", .string "secret")]),
   ("tls", .object [("ech", .object [("enabled", .bool true)])]), ("type", .string "hysteria2")]

/-- The same is read from both. -/
theorem ofOutbound?_thinned_nullsAtEveryLevel :
    Json.Orderly (.object nullsAtEveryLevel) ∧ Thinned [] nullsAtEveryLevel noNulls ∧
      ObfuscationKept nullsAtEveryLevel noNulls ∧
      ofOutbound? noNulls = ofOutbound? nullsAtEveryLevel := by
  have orderly : Json.Orderly (.object nullsAtEveryLevel) := by
    have obfs : Json.Orderly (.object [("password", .string "secret"), ("type", .null)]) :=
      .cons (.string _) (by decide) (.cons .null (by decide) .empty)
    have ech : Json.Orderly (.object [("config", .null), ("enabled", .bool true)]) :=
      .cons .null (by decide) (.cons (.bool _) (by decide) .empty)
    have tls : Json.Orderly (.object
        [("alpn", .null), ("ech", .object [("config", .null), ("enabled", .bool true)])]) :=
      .cons .null (by decide) (.cons ech (by decide) .empty)
    exact .cons .null (by decide) (.cons obfs (by decide) (.cons tls (by decide)
      (.cons (.string _) (by decide) .empty)))
  have thinned : Thinned [] nullsAtEveryLevel noNulls :=
    .remove (.enter (by decide) (.keep (.remove .nil)) (.enter (by decide)
      (.remove (.enter (by decide) (.remove (.keep .nil)) .nil)) (.keep .nil)))
  have kept : ObfuscationKept nullsAtEveryLevel noNulls :=
    ⟨fun first => absurd first (by decide), fun _ => rfl⟩
  exact ⟨orderly, thinned, kept, (ofOutbound?_thinned_iff orderly thinned).2 kept⟩

/-- An outbound of the second generation whose obfuscation has a password that is null. -/
def nullPassword : Members := [("obfs", .object [("password", .null)]), ("type", .string "hysteria2")]

/-- The same without the password. -/
def noPassword : Members := [("obfs", .object []), ("type", .string "hysteria2")]

/-- The password cannot be left out: the text of null is read as the secret. -/
theorem ofOutbound?_nullPassword :
    Json.Orderly (.object nullPassword) ∧ Thinned [] nullPassword noPassword ∧
      ofOutbound? nullPassword
        = some ⟨{}, .hysteria { protocolVersion := 2, obfuscation := "null" }⟩ ∧
      ofOutbound? noPassword = some ⟨{}, .hysteria { protocolVersion := 2 }⟩ ∧
      ofOutbound? noPassword ≠ ofOutbound? nullPassword := by
  have orderly : Json.Orderly (.object nullPassword) :=
    .cons (.cons .null (by decide) .empty) (by decide) (.cons (.string _) (by decide) .empty)
  have before : ofOutbound? nullPassword
      = some ⟨{}, .hysteria { protocolVersion := 2, obfuscation := "null" }⟩ := by decide
  have after : ofOutbound? noPassword = some ⟨{}, .hysteria { protocolVersion := 2 }⟩ := by decide
  refine ⟨orderly, .enter (by decide) (.remove .nil) (.keep .nil), before, after, ?_⟩
  rw [before, after]
  decide

end Profile

end ProxyChain
