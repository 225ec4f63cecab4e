import ProxyChain.Outbound.Tls
import ProxyChain.Proofs.Json.Loose

/-!
# TLS options are read back

Whatever options are set, reading them from their document gives the same options (`readBack`). Each is
found under its own key, and the loose reader of its kind takes what was written.
-/

namespace ProxyChain.Tls

/-- Options for uTLS are read as they are written. -/
lemma Utls.ofMembers_toJson (u : Utls) : u.toJson.members?.map Utls.ofMembers = some u := by
  simp only [toJson, Json.members?_ofFields, Option.map_some, ofMembers]
  rw [Members.flag_of_get? (b := u.enabled) (by simp [Members.get?_ofList]),
    Members.textAt_of_get? (s := u.fingerprint) (by simp [Members.get?_ofList])]

/-- Options for Reality are read as they are written. -/
lemma Reality.ofMembers_toJson (r : Reality) : r.toJson.members?.map Reality.ofMembers = some r := by
  simp only [toJson, Json.members?_ofFields, Option.map_some, ofMembers]
  rw [Members.flag_of_get? (b := r.enabled) (by simp [Members.get?_ofList]),
    Members.textAt_of_get? (s := r.publicKey) (by simp [Members.get?_ofList]),
    Members.textAt_of_get? (s := r.shortId) (by simp [Members.get?_ofList])]

/-- Options for ECH are read as they are written. -/
lemma Ech.ofMembers_toJson (e : Ech) : e.toJson.members?.map Ech.ofMembers = some e := by
  have found {key : String} {value : Option Json} (mem : (key, value) ∈
      [("enabled", some (.bool e.enabled)), ("config", e.config.map Json.strings)]) :
      (Members.ofFields _).get? key = value :=
    Members.get?_ofFields (by simp) mem
  simp only [toJson, Json.members?, Option.map_some, ofMembers]
  rw [Members.flag_of_get? (found List.mem_cons_self),
    found (List.mem_cons_of_mem _ List.mem_cons_self), Json.strings?_map_strings]

variable (t : Tls)

/-- Every option stands under its own key. -/
lemma get?_ofFields {key : String} {value : Option Json} (mem : (key, value) ∈ t.fields) :
    (Members.ofFields t.fields).get? key = value := by
  refine Members.get?_ofFields ?_ mem
  change (["enabled", "server_name", "insecure", "disable_sni", "alpn", "certificate", "fragment",
    "fragment_fallback_delay", "record_fragment", "utls", "ech", "reality"] : List String).Nodup
  decide

/-- A flag is read as it is written, if it is. -/
lemma flag_ofFields (key : String) (b? : Option Bool) (mem : (key, b?.map Json.bool) ∈ t.fields) :
    ((Members.ofFields t.fields).present? key).map Json.isTrue = b? := by
  rw [Members.present?_of_get? (t.get?_ofFields mem) (by cases b? <;> nofun)]
  cases b? with
  | none => rfl
  | some b => exact congrArg some (Json.isTrue_bool b)

/-- A text is read as it is written, if it is. -/
lemma text_ofFields (key : String) (s? : Option String)
    (mem : (key, s?.map Json.string) ∈ t.fields) :
    ((Members.ofFields t.fields).present? key).map Json.text = s? := by
  rw [Members.present?_of_get? (t.get?_ofFields mem) (by cases s? <;> nofun)]
  cases s? <;> rfl

/-- Texts are read as they are written, if they are. -/
lemma strings_ofFields (key : String) (items? : Option (List String))
    (mem : (key, items?.map Json.strings) ∈ t.fields) :
    Json.strings? ((Members.ofFields t.fields).get? key) = items? := by
  rw [t.get?_ofFields mem, Json.strings?_map_strings]

/-- An object is read as it is written, if it is. -/
lemma object_ofFields {α : Type} {toJson : α → Json} {ofMembers : Members → α}
    (lawful : ∀ a, (toJson a).members?.map ofMembers = some a) (key : String) (a? : Option α)
    (mem : (key, a?.map toJson) ∈ t.fields) :
    ((Members.ofFields t.fields).objectAt? key).map ofMembers = a? :=
  Members.objectAt?_of_get? lawful (t.get?_ofFields mem)

/-- The options in the document of options are those options. -/
lemma ofMembers_fields : ofMembers (Members.ofFields t.fields) = t := by
  have enabled := t.flag_ofFields "enabled" t.enabled (by simp [fields])
  have serverName := t.text_ofFields "server_name" t.serverName (by simp [fields])
  have insecure := t.flag_ofFields "insecure" t.insecure (by simp [fields])
  have disableSni := t.flag_ofFields "disable_sni" t.disableSni (by simp [fields])
  have alpn := t.strings_ofFields "alpn" t.alpn (by simp [fields])
  have certificate := t.strings_ofFields "certificate" t.certificate (by simp [fields])
  have fragment := t.flag_ofFields "fragment" t.fragment (by simp [fields])
  have delay := t.text_ofFields "fragment_fallback_delay" t.fragmentFallbackDelay (by simp [fields])
  have recordFragment := t.flag_ofFields "record_fragment" t.recordFragment (by simp [fields])
  have utls := t.object_ofFields Utls.ofMembers_toJson "utls" t.utls (by simp [fields])
  have ech := t.object_ofFields Ech.ofMembers_toJson "ech" t.ech (by simp [fields])
  have reality := t.object_ofFields Reality.ofMembers_toJson "reality" t.reality (by simp [fields])
  simp only [ofMembers, enabled, serverName, insecure, disableSni, alpn, certificate, fragment, delay,
    recordFragment, utls, ech, reality]

/-- The options in the object of options are those options. -/
lemma ofMembers_toJson : t.toJson.members?.map ofMembers = some t :=
  congrArg some t.ofMembers_fields

/-- All options are read back from their document as they are. So the document of what an object means,
however loosely its members are typed, means the same. -/
theorem readBack : (∀ t : Tls, t.toJson.members?.map ofMembers = some t) ∧
    ∀ members : Members, (ofMembers members).toJson.members?.map ofMembers = some (ofMembers members) :=
  ⟨ofMembers_toJson, fun members => (ofMembers members).ofMembers_toJson⟩

/-- What is unset, false or empty stays so, also inside the objects. -/
example :
    let t : Tls := { insecure := some false, alpn := some [], utls := some ⟨false, ""⟩,
                     ech := some ⟨false, some []⟩, certificate := some ["", "a\nb"] }
    t.toJson.members?.map ofMembers = some t := rfl

end ProxyChain.Tls
