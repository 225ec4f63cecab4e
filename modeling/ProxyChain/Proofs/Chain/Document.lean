import ProxyChain.Json.Loose
import ProxyChain.Proofs.Chain.Plan
import ProxyChain.Proofs.Json.Members
import ProxyChain.Proofs.Text.Integer

/-!
# Reading generated configurations

What a reader looks up in the core's document: the outbounds with a tag, the inbounds on a port, the
rules about an inbound, the tag that traffic leaves through. The lemmas say what is found in the
document of a generated configuration, one for each kind of element, so that no later proof takes a
document apart.
-/

namespace ProxyChain

/-- Elements with different keys are found by their keys. -/
lemma filter_key_eq {α κ : Type} [BEq κ] [LawfulBEq κ] {key : α → κ} {xs : List α}
    (distinct : (xs.map key).Nodup) {x : α} (mem : x ∈ xs) :
    xs.filter (fun y => key y == key x) = [x] := by
  induction xs with
  | nil => cases mem
  | cons y xs ih =>
    obtain ⟨fresh, distinct⟩ := List.nodup_cons.1 distinct
    cases mem with
    | head =>
      have others : xs.filter (fun y => key y == key x) = [] := by
        rw [List.filter_eq_nil_iff]
        intro z memZ same
        exact fresh (beq_iff_eq.1 same ▸ List.mem_map_of_mem memZ)
      rw [List.filter_cons, if_pos (beq_self_eq_true _), others]
    | tail _ mem =>
      have other : ¬(key y == key x) = true := by
        intro same
        exact fresh (beq_iff_eq.1 same ▸ List.mem_map_of_mem mem)
      rw [List.filter_cons, if_neg other, ih distinct mem]

namespace Json

/-- The value under a key of an object. -/
def at? (doc : Json) (key : String) : Option Json := doc.members?.bind fun m => m.get? key

/-- The items of the array under a key; there are none without an array. -/
def itemsAt (doc : Json) (key : String) : List Json :=
  match doc.at? key with
  | some (.array items) => items
  | _ => []

/-- The string under a key. -/
def textAt? (doc : Json) (key : String) : Option String := (doc.at? key).bind string?

/-- The port, if the value is the number of one. -/
def port? : Json → Option UInt16
  | .number (.integer n) => Text.fitUInt16? n
  | _ => none

/-- The port under a key. -/
def portAt? (doc : Json) (key : String) : Option UInt16 := (doc.at? key).bind port?

/-- The outbounds of a document with a tag. -/
def outboundsTagged (doc : Json) (tag : String) : List Json :=
  (doc.itemsAt "outbounds").filter fun outbound => outbound.textAt? "tag" == some tag

/-- The inbounds of a document that listen on a port. -/
def inboundsOn (doc : Json) (port : UInt16) : List Json :=
  (doc.itemsAt "inbounds").filter fun inbound => inbound.portAt? "listen_port" == some port

/-- The tag that a document has traffic leave through. -/
def finalTag? (doc : Json) : Option String := (doc.at? "route").bind fun route => route.textAt? "final"

/-- The routing rules of a document. -/
def routeRules (doc : Json) : List Json :=
  ((doc.at? "route").map fun route => route.itemsAt "rules").getD []

/-- The routing rules of a document that are about an inbound. -/
def rulesAbout (doc : Json) (tag : String) : List Json :=
  doc.routeRules.filter fun rule => (rule.itemsAt "inbound").any fun name => name.string? == some tag

/-- The last field of a key is the one that is found. -/
lemma at?_ofFields (fields : List (String × Json)) (key : String) :
    (ofFields fields).at? key = Members.get? fields.reverse key := Members.get?_ofList fields key

/-- If all keys differ the value of each field is found, and a field without one is left out. -/
lemma at?_object {fields : List (String × Option Json)} {key : String} {value : Option Json}
    (distinct : (fields.map Prod.fst).Nodup) (mem : (key, value) ∈ fields) :
    (object (Members.ofFields fields)).at? key = value := Members.get?_ofFields distinct mem

/-- A port reads back from the number that stands for it. -/
lemma port?_int (port : UInt16) : (int port.toNat).port? = some port := by
  rw [int, port?, Text.fitUInt16?_toNat]

/-- A member that is a port is read as one. -/
lemma portAt?_of_at? {doc : Json} {key : String} {port : UInt16}
    (h : doc.at? key = some (int port.toNat)) : doc.portAt? key = some port := by
  rw [portAt?, h, Option.bind_some, port?_int]

end Json

namespace Hop

/-- The outbound that leads into a helper has the tag of its hop. -/
lemma textAt?_tag_socks (h : Hop) (port : UInt16) : (h.socks port).textAt? "tag" = some h.tag := by
  simp [Json.textAt?, socks, Json.at?_ofFields, Json.string?]

/-- The outbound that leads into a helper dials the port of that helper. -/
lemma portAt?_socks (h : Hop) (port : UInt16) : (h.socks port).portAt? "server_port" = some port := by
  apply Json.portAt?_of_at?
  simp [socks, Json.at?_ofFields]

/-- No outbound that leads into a helper has a detour. -/
lemma at?_detour_socks (h : Hop) (port : UInt16) : (h.socks port).at? "detour" = none := by
  simp [socks, Json.at?_ofFields]

/-- A labelled outbound has the tag of its hop. -/
lemma textAt?_tag_label (h : Hop) (m : Members) :
    (h.label (.object m)).textAt? "tag" = some h.tag := by
  simp only [label, Json.textAt?, Json.at?, Json.members?, Option.bind_some, Members.get?_insert,
    if_true, Json.string?]

/-- An object is given the tag of the hop before as its detour and keeps its own if there is none. -/
lemma at?_detour_label (h : Hop) (m : Members) :
    (h.label (.object m)).at? "detour" = (h.previous.map Json.string).or (m.get? "detour") := by
  cases previous : h.previous <;>
    simp [label, previous, Json.at?, Json.members?, Members.get?_insert]

end Hop

/-- A rule is about the hop's forwarding inbound and sends its traffic to the hop before. -/
lemma Hop.of_rule? {h : Hop} {r : RouteRule} (made : h.rule? = some r) :
    r.inbound = h.relayTag ∧ h.previous = some r.outbound := by
  unfold Hop.rule? at made
  split at made
  · next relay previous =>
    cases made
    exact ⟨rfl, previous⟩
  · cases made

namespace CoreConfig

variable (c : CoreConfig)

/-- The outbounds of a document are those of the core. -/
@[simp] lemma itemsAt_outbounds : c.toJson.itemsAt "outbounds" = c.outbounds := by
  simp [Json.itemsAt, toJson, Json.at?_ofFields]

/-- The inbounds of a document are those of the core. -/
@[simp] lemma itemsAt_inbounds : c.toJson.itemsAt "inbounds" = c.inbounds.map Inbound.toJson := by
  simp [Json.itemsAt, toJson, Json.at?_ofFields]

/-- The routing of a document is that of the core. -/
lemma at?_route : c.toJson.at? "route" = some c.route := by
  simp [toJson, Json.at?_ofFields]

/-- The outbound that takes what no rule is about is the final one of the core. -/
@[simp] lemma finalTag?_toJson : c.toJson.finalTag? = some c.final := by
  rw [Json.finalTag?, at?_route]
  cases rules : c.rules <;>
    simp [route, rules, Json.textAt?, Json.at?, Json.members?, Members.ofFields, Members.get?_ofList,
      Json.string?]

/-- The rules of a document are those of the core. -/
@[simp] lemma routeRules_toJson : c.toJson.routeRules = c.rules.map RouteRule.toJson := by
  rw [Json.routeRules, at?_route]
  cases rules : c.rules <;>
    simp [route, rules, Json.itemsAt, Json.at?, Json.members?, Members.ofFields, Members.get?_ofList]

/-- The direct outbound goes by its tag. -/
lemma textAt?_tag_directOutbound : directOutbound.textAt? "tag" = some directTag := by
  simp [directOutbound, Json.textAt?, Json.at?_ofFields, Json.string?]

end CoreConfig

namespace Inbound

/-- An inbound listens on its port. -/
lemma portAt?_toJson (i : Inbound) : i.toJson.portAt? "listen_port" = some i.port := by
  apply Json.portAt?_of_at?
  cases i <;> simp [toJson, Json.at?_ofFields, port]

/-- An inbound goes by its tag. -/
lemma textAt?_tag_toJson (i : Inbound) : i.toJson.textAt? "tag" = some i.tag := by
  cases i <;> simp [toJson, Json.textAt?, Json.at?_ofFields, tag, Json.string?]

end Inbound

namespace RouteRule

/-- A rule sends to its outbound. -/
lemma textAt?_toJson (r : RouteRule) : r.toJson.textAt? "outbound" = some r.outbound := by
  simp [toJson, Json.textAt?, Json.at?_ofFields, Json.string?]

/-- A rule is about one inbound. -/
lemma itemsAt_toJson (r : RouteRule) : r.toJson.itemsAt "inbound" = [.string r.inbound] := by
  simp [toJson, Json.itemsAt, Json.at?_ofFields, Json.strings]

end RouteRule

end ProxyChain
