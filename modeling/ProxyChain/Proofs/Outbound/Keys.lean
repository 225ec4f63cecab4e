import ProxyChain.Proofs.Outbound.Null

/-!
# The keys that an outbound is read under

Reading divides the members of an outbound. The four common ones give one part of the endpoint each, and
all others that are not null are left to the kind of outbound as they are (`Endpoint.Divided`). So nothing
but the type, the common members and those of the kind decides what is read
(`Profile.ofOutbound?_divided`).
-/

namespace ProxyChain

/-- Two objects hold the same under some keys; under others, members may be added, changed or removed. -/
def Members.AgreeOn (keys : List String) (m m' : Members) : Prop :=
  ∀ key ∈ keys, m'.get? key = m.get? key

/-- The keys of both generations. -/
def Hysteria.sharedKeys : List String := ["server_ports", "hop_interval", "up_mbps", "down_mbps", "tls"]

/-- The keys of a kind of outbound besides the common ones. -/
def OutboundType.keys : OutboundType → List String
  | hysteria => Hysteria.sharedKeys ++
    ["obfs", "auth", "auth_str", "recv_window_conn", "recv_window", "disable_mtu_discovery"]
  | hysteria2 => Hysteria.sharedKeys ++ ["obfs", "password"]
  | trojan => ["password", "tls"]
  | direct => []

/-- The keys that decide what is read from an outbound. -/
def Profile.decidingKeys (doc : Members) : List String :=
  "type" :: Endpoint.keys ++ ((OutboundType.ofMembers? doc).map OutboundType.keys).getD []

namespace Members.AgreeOn

variable {keys keys' : List String} {m m' : Members}

/-- Members that agree on some keys agree on fewer. -/
lemma mono (agree : AgreeOn keys m m') (sub : keys' ⊆ keys) : AgreeOn keys' m m' :=
  fun key mem => agree key (sub mem)

/-- What is not null is the same under each of the keys. -/
lemma present? (agree : AgreeOn keys m m') {key : String} (mem : key ∈ keys) :
    m'.present? key = m.present? key := by
  rw [Members.present?, Members.present?, agree key mem]

/-- An object is the same under each of the keys. -/
lemma objectAt? (agree : AgreeOn keys m m') {key : String} (mem : key ∈ keys) :
    m'.objectAt? key = m.objectAt? key := by
  rw [Members.objectAt?, Members.objectAt?, agree key mem]

/-- Members that agree under keys of their own agree when the common ones are gone. -/
lemma unmatched (agree : AgreeOn keys m m') (sorted : m.Sorted) (sorted' : m'.Sorted)
    (own : ∀ key ∈ keys, key ∉ Endpoint.keys) :
    AgreeOn keys (Endpoint.unmatched m) (Endpoint.unmatched m') := by
  intro key mem
  rw [Endpoint.get?_unmatched sorted (own key mem), Endpoint.get?_unmatched sorted' (own key mem),
    agree.present? mem]

end Members.AgreeOn

open Members

section Kinds

variable {m m' : Members}

/-- A Trojan profile depends on the keys of its type only. -/
lemma Trojan.ofMembers_agree (agree : AgreeOn OutboundType.trojan.keys m m') :
    Trojan.ofMembers m' = Trojan.ofMembers m := by
  have password : m'.get? "password" = m.get? "password" := agree _ (by decide)
  have tls : m'.objectAt? "tls" = m.objectAt? "tls" := agree.objectAt? (by decide)
  rw [Trojan.ofMembers, Trojan.ofMembers, password, tls]

namespace Hysteria

/-- A bandwidth depends on its key only. -/
lemma cappedAt_agree {keys : List String} (agree : AgreeOn keys m m') {key : String} (mem : key ∈ keys) :
    cappedAt m' key = cappedAt m key := by
  rw [cappedAt, cappedAt, agree key mem]

/-- What both generations share depends on their shared keys only. -/
lemma ofShared_agree (agree : AgreeOn sharedKeys m m') : ofShared m' = ofShared m := by
  have ports : m'.get? "server_ports" = m.get? "server_ports" := agree _ (by decide)
  have interval : m'.get? "hop_interval" = m.get? "hop_interval" := agree _ (by decide)
  have up : cappedAt m' "up_mbps" = cappedAt m "up_mbps" := cappedAt_agree agree (by decide)
  have down : cappedAt m' "down_mbps" = cappedAt m "down_mbps" := cappedAt_agree agree (by decide)
  have tls : m'.objectAt? "tls" = m.objectAt? "tls" := agree.objectAt? (by decide)
  simp only [ofShared, ports, interval, up, down, tls]

/-- A profile of the first generation depends on the keys of its type only. -/
lemma ofFirstMembers_agree (agree : AgreeOn OutboundType.hysteria.keys m m') :
    ofFirstMembers m' = ofFirstMembers m := by
  have shared := ofShared_agree (agree.mono (List.subset_append_left _ _))
  have obfuscation : m'.get? "obfs" = m.get? "obfs" := agree _ (by decide)
  have text : m'.get? "auth_str" = m.get? "auth_str" := agree _ (by decide)
  have base64 : m'.get? "auth" = m.get? "auth" := agree _ (by decide)
  have secret : secretOf m' = secretOf m := by rw [secretOf, secretOf, text, base64]
  have connection : cappedAt m' "recv_window_conn" = cappedAt m "recv_window_conn" :=
    cappedAt_agree agree (by decide)
  have stream : cappedAt m' "recv_window" = cappedAt m "recv_window" :=
    cappedAt_agree agree (by decide)
  have discovery : m'.get? "disable_mtu_discovery" = m.get? "disable_mtu_discovery" :=
    agree _ (by decide)
  simp only [ofFirstMembers, shared, obfuscation, secret, connection, stream, discovery]

/-- A profile of the second generation depends on the keys of its type only. -/
lemma ofSecondMembers_agree (agree : AgreeOn OutboundType.hysteria2.keys m m') :
    ofSecondMembers m' = ofSecondMembers m := by
  have shared := ofShared_agree (agree.mono (List.subset_append_left _ _))
  have obfuscation : m'.objectAt? "obfs" = m.objectAt? "obfs" := agree.objectAt? (by decide)
  have secret : m'.get? "password" = m.get? "password" := agree _ (by decide)
  simp only [ofSecondMembers, shared, obfuscation, secret]

end Hysteria

end Kinds

namespace Endpoint

/-- How the members of an outbound are divided: what is left to its kind, and what each part of the endpoint
is read from. -/
structure Divided (doc : Members) : Prop where
  left (key : String) (value : Json) :
    (key, value) ∈ unmatched doc ↔ (key, value) ∈ doc ∧ key ∉ keys ∧ value ≠ .null
  inPlace : (unmatched doc).Sublist doc
  name (doc' : Members) : doc'.get? "tag" = doc.get? "tag" → (ofMembers doc').name = (ofMembers doc).name
  address (doc' : Members) : doc'.get? "server" = doc.get? "server" →
    (ofMembers doc').address = (ofMembers doc).address
  port (doc' : Members) : doc'.get? "server_port" = doc.get? "server_port" →
    (ofMembers doc').port = (ofMembers doc).port
  multiplex (doc' : Members) : doc'.get? "multiplex" = doc.get? "multiplex" →
    (ofMembers doc').multiplex = (ofMembers doc).multiplex

/-- Unmatched members are those whose keys are not common, unless they are null. -/
lemma mem_unmatched {doc : Members} {key : String} {value : Json} :
    (key, value) ∈ unmatched doc ↔ (key, value) ∈ doc ∧ key ∉ keys ∧ value ≠ .null := by
  rw [unmatched, List.mem_filter]
  cases value <;> simp

/-- An outbound divides into what is read of it and what is not. -/
lemma divided (doc : Members) : Divided doc where
  left _ _ := mem_unmatched
  inPlace := List.filter_sublist
  name doc' same := by
    simp only [ofMembers, present?, same]
  address doc' same := by
    simp only [ofMembers, present?, same]
  port doc' same := by
    simp only [ofMembers, present?, same]
  multiplex doc' same := by
    simp only [ofMembers, objectAt?, same]

/-- The whole endpoint is read from the common members. -/
lemma ofMembers_agree {doc doc' : Members} (agree : AgreeOn keys doc doc') :
    ofMembers doc' = ofMembers doc := by
  have parts := divided doc
  have name := parts.name doc' (agree _ (by decide))
  have address := parts.address doc' (agree _ (by decide))
  have port := parts.port doc' (agree _ (by decide))
  have multiplex := parts.multiplex doc' (agree _ (by decide))
  cases read : ofMembers doc
  cases read' : ofMembers doc'
  rw [read, read'] at name address port multiplex
  rw [mk.injEq]
  exact ⟨name, address, port, multiplex⟩

end Endpoint

open Endpoint

namespace Profile

section Agree

variable {doc doc' : Members}

/-- Which type an outbound has depends on the keys that decide it only. -/
lemma ofMembers?_agree (agree : AgreeOn (decidingKeys doc) doc doc') :
    OutboundType.ofMembers? doc' = OutboundType.ofMembers? doc := by
  have type : doc'.get? "type" = doc.get? "type" := agree _ List.mem_cons_self
  rw [OutboundType.ofMembers?, OutboundType.ofMembers?, type]

/-- What is made of an outbound of some type depends on the common keys and those of the type only. -/
lemma ofOutboundType_agree (sorted : doc.Sorted) (sorted' : doc'.Sorted) {kind : OutboundType}
    (common : AgreeOn Endpoint.keys doc doc') (own : AgreeOn kind.keys doc doc') :
    ofOutboundType doc' kind = ofOutboundType doc kind := by
  have endpoint := ofMembers_agree common
  -- No kind of outbound looks under one of the common keys.
  have apart : ∀ key ∈ kind.keys, key ∉ Endpoint.keys := by cases kind <;> decide
  have left := own.unmatched sorted sorted' apart
  cases kind with
  | hysteria => rw [ofOutboundType, ofOutboundType, endpoint, Hysteria.ofFirstMembers_agree left]
  | hysteria2 => rw [ofOutboundType, ofOutboundType, endpoint, Hysteria.ofSecondMembers_agree left]
  | trojan => rw [ofOutboundType, ofOutboundType, endpoint, Trojan.ofMembers_agree left]
  | direct => rw [ofOutboundType, ofOutboundType, endpoint]

end Agree

/-- The common members of an outbound are read apart from those that are left to its kind, and two outbounds
that agree on their type, the common members and those of their kind are read as the same profile. -/
theorem ofOutbound?_divided {doc : Members} (sorted : doc.Sorted) : Divided doc ∧
    ∀ doc' : Members, doc'.Sorted → AgreeOn (decidingKeys doc) doc doc' →
      ofOutbound? doc' = ofOutbound? doc := by
  refine ⟨divided doc, ?_⟩
  intro doc' sorted' agree
  have common : AgreeOn Endpoint.keys doc doc' := fun key mem =>
    agree key (List.mem_cons_of_mem _ (List.mem_append_left _ mem))
  change (OutboundType.ofMembers? doc').map (ofOutboundType doc')
    = (OutboundType.ofMembers? doc).map (ofOutboundType doc)
  rw [ofMembers?_agree agree]
  cases known : OutboundType.ofMembers? doc with
  | none => rfl
  | some kind =>
    have own : AgreeOn kind.keys doc doc' := by
      intro key mem
      refine agree key (List.mem_cons_of_mem _ (List.mem_append_right _ ?_))
      rwa [known]
    rw [Option.map_some, Option.map_some, ofOutboundType_agree sorted sorted' common own]

/-- An outbound with a member of another kind and one of no kind. -/
def withStrangers : Members :=
  [("auth", .string "x"), ("password", .string "secret"), ("server", .null), ("server_port", .int 8443),
   ("tag", .string "home"), ("type", .string "trojan"), ("uuid", .int 7)]

/-- One of them is gone, the other one is another, and a third one is there. -/
def withOthers : Members :=
  [("obfs", .null), ("password", .string "secret"), ("server", .null), ("server_port", .int 8443),
   ("tag", .string "home"), ("type", .string "trojan"), ("uuid", .bool true)]

/-- Both are read as the same profile. -/
theorem ofOutbound?_divided_withStrangers :
    withStrangers.Sorted ∧ withOthers.Sorted ∧
      AgreeOn (decidingKeys withStrangers) withStrangers withOthers ∧ withOthers ≠ withStrangers ∧
      (∀ key value, (key, value) ∈ unmatched withStrangers ↔
        (key, value) ∈ withStrangers ∧ key ∉ Endpoint.keys ∧ value ≠ .null) ∧
      ofOutbound? withOthers = ofOutbound? withStrangers := by
  have sorted : withStrangers.Sorted := by
    unfold Members.Sorted
    decide
  have sorted' : withOthers.Sorted := by
    unfold Members.Sorted
    decide
  have agree : AgreeOn (decidingKeys withStrangers) withStrangers withOthers := by
    have deciding : decidingKeys withStrangers =
        ["type", "tag", "server", "server_port", "multiplex", "password", "tls"] := by decide
    rw [deciding]
    intro key mem
    simp only [List.mem_cons, List.not_mem_nil, or_false] at mem
    rcases mem with rfl | rfl | rfl | rfl | rfl | rfl | rfl
    all_goals rfl
  have different : withOthers ≠ withStrangers := by
    intro same
    exact absurd (congrArg Members.keys same) (by decide)
  obtain ⟨divided, same⟩ := ofOutbound?_divided sorted
  exact ⟨sorted, sorted', agree, different, divided.left, same withOthers sorted' agree⟩

end Profile

end ProxyChain
