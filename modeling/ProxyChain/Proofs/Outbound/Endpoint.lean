import ProxyChain.Outbound.Document
import ProxyChain.Proofs.Json.Loose
import ProxyChain.Proofs.Json.Members

/-!
# The common members are read back

The outbound of a profile holds the members of its server and its kind, its type and its tag. Reading
finds name, address and port again (`Endpoint.ofMembers_of_get?`) and leaves every other member to the
kind of outbound (`Endpoint.get?_unmatched`). A profile `p` in the settings `s` comes back as
`p.reread? s`.
-/

namespace ProxyChain

namespace Profile

/-- The members of an outbound with a type and a tag. -/
def typedMembers (type tag : String) (fields : List (String × Option Json)) : Members :=
  Members.ofFields (fields ++ [("type", some (.string type)), ("tag", some (.string tag))])

/-- What is read from the outbound of a profile. -/
def reread? (p : Profile) (s : Settings) : Option Profile :=
  match p.toOutbound s with
  | .ok (.object doc) => ofOutbound? doc
  | _ => none

section Typed

variable {type tag : String} {fields : List (String × Option Json)}

/-- Type and tag are found, whatever else there is. -/
lemma get?_type : (typedMembers type tag fields).get? "type" = some (.string type) := by
  rw [typedMembers, ← List.singleton_append, ← List.append_assoc, Members.get?_ofFields_concat,
    Members.get?_ofFields_concat]
  rfl

/-- An outbound goes by the tag that it is given. -/
lemma get?_tag : (typedMembers type tag fields).get? "tag" = some (.string tag) := by
  rw [typedMembers, ← List.singleton_append, ← List.append_assoc, Members.get?_ofFields_concat]
  rfl

/-- The fields are found, unless one is the type or the tag. -/
lemma get?_typedMembers {key : String} {value : Option Json}
    (distinct : (fields.map Prod.fst ++ ["type", "tag"]).Nodup) (mem : (key, value) ∈ fields) :
    (typedMembers type tag fields).get? key = value := by
  refine Members.get?_ofFields ?_ (List.mem_append_left _ mem)
  rw [List.map_append]
  exact distinct

/-- There is nothing in an outbound but its fields, its type and its tag. -/
lemma get?_typedMembers_eq_none {key : String} (h : key ∉ fields.map Prod.fst ++ ["type", "tag"]) :
    (typedMembers type tag fields).get? key = none := by
  apply Members.get?_ofFields_eq_none
  rw [List.map_append]
  exact h

/-- An outbound of a known type is read by that type. -/
lemma ofOutbound?_typedMembers {known : OutboundType} (h : OutboundType.ofName? type = some known) :
    ofOutbound? (typedMembers type tag fields)
      = some (ofOutboundType (typedMembers type tag fields) known) := by
  rw [ofOutbound?, get?_type, Option.bind_some]
  exact congrArg _ h

end Typed

end Profile

namespace Endpoint

variable {doc : Members}

/-- A port is read as it is written. -/
lemma portOf_int (port : UInt16) : portOf (.int port.toNat) = port := by
  have stripped : Text.strip (Text.decimal port.toNat) = Text.decimal port.toNat :=
    Text.strip_eq_self fun _ mem => Text.isBlank_of_isDigit (Text.isDigit_of_mem_decimal mem)
  have digits : (Json.int port.toNat).text.toList = Text.decimal port.toNat := String.toList_ofList
  rw [portOf, digits, stripped, Text.uint16?_decimal, Option.getD_some]

/-- An endpoint is read back from its members, except for the multiplexing. -/
lemma ofMembers_of_get? (e : Endpoint) (tag : doc.get? "tag" = some (.string e.name))
    (server : doc.get? "server" = some (.string e.address))
    (port : doc.get? "server_port" = some (.int e.port.toNat)) :
    ofMembers doc =
      { e with multiplex := ((doc.objectAt? "multiplex").map Multiplex.ofMembers).getD {} } := by
  simp only [ofMembers, Members.present?_of_get? tag nofun, Members.present?_of_get? server nofun,
    Members.present?_of_get? port nofun, Option.map_some, Option.getD_some, portOf_int]
  rfl

/-- Members other than the common ones are found among those left over. -/
lemma get?_unmatched (sorted : doc.Sorted) {key : String} (own : key ∉ keys) :
    (unmatched doc).get? key = doc.present? key := by
  rw [unmatched, Members.get?_filter sorted.nodup, Members.present?]
  cases doc.get? key with
  | none => rfl
  | some value => cases value <;> simp [own]

/-- What is set in an outbound under a key of its type is left when the common members are taken out. -/
lemma get?_unmatched_of_get? (sorted : doc.Sorted) {key : String} (own : key ∉ keys)
    {value : Option Json} (h : doc.get? key = value) (notNull : value ≠ some .null) :
    (unmatched doc).get? key = value := by
  rw [get?_unmatched sorted own, Members.present?_of_get? h notNull]

/-- Objects under keys of the type are left as well. -/
lemma objectAt?_unmatched (sorted : doc.Sorted) {key : String} (own : key ∉ keys) :
    (unmatched doc).objectAt? key = doc.objectAt? key := by
  rw [Members.objectAt?, get?_unmatched sorted own, Members.present?, Members.objectAt?]
  cases doc.get? key with
  | none => rfl
  | some value => cases value <;> rfl

end Endpoint

end ProxyChain
