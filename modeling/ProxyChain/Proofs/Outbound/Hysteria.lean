import ProxyChain.Proofs.Outbound.Endpoint
import ProxyChain.Proofs.Outbound.Multiplex
import ProxyChain.Proofs.Outbound.Tls
import ProxyChain.Proofs.Text.Line

/-!
# Hysteria profiles go through their outbound

A Hysteria profile comes back from its outbound changed in one way only (`Returned`). Both generations lose
the transport, the multiplexing and what is not positive or blank, and get the bandwidths of the settings
where they have none. The second generation loses all that only the first one has. What comes back is
computed by `returned`.
-/

namespace ProxyChain.Hysteria

/-- A number that is not positive counts as zero. -/
def orZero (n : Int32) : Int32 := if 0 < n then n else 0

/-- A bandwidth as it comes back: the profile's own, or the one in the settings, or none. -/
def returnedMbps (own fallback : Int32) : Int32 := if 0 < own then own else orZero fallback

/-- A port as a profile writes it. -/
def hyphenated (item : List Char) : List Char := item.map fun c => if c = ':' then '-' else c

/-- What there is to come back of the texts that both generations have: the trimmed ports between commas
that are not blank, the lines of the certificates, and the configuration of a client hello that is
encrypted, its trimmed lines that are not blank. -/
structure Leaves (h : Hysteria) (ports : List (List Char)) (certificates config : String) : Prop where
  ports : ∃ parts, Text.CutsInto ',' h.serverPorts.toList parts ∧ Text.FillsIn parts ports
  certificates : Text.HoldsLines h.certificates certificates
  encrypted : h.ech = true → Text.HoldsTrimmed h.echConfig config
  plain : h.ech = false → config = ""

/-- The settings of both generations with what is left of their texts, the ports joined by commas. -/
def restored (h : Hysteria) (s : Settings) (ports : List (List Char)) (certificates config : String) :
    Hysteria :=
  { h with
    transport := .udp
    uploadMbps := returnedMbps h.uploadMbps s.uploadMbps
    downloadMbps := returnedMbps h.downloadMbps s.downloadMbps
    serverPorts := String.ofList ([','].intercalate (ports.map hyphenated))
    hopInterval := if 0 < h.hopInterval ∧ ports ≠ [] then h.hopInterval else 10
    certificates
    echConfig := config }

/-- What a profile becomes when it goes through its outbound. -/
inductive Returned (h : Hysteria) (s : Settings) : Hysteria → Prop where
  | first {ports : List (List Char)} {certificates config alpn : String}
      (version : h.protocolVersion = 1) (left : Leaves h ports certificates config)
      (protocols : Text.HoldsTrimmed h.alpn alpn) :
      Returned h s { restored h s ports certificates config with
        authPayload := if h.authType = .none then "" else h.authPayload
        connectionReceiveWindow := orZero h.connectionReceiveWindow
        streamReceiveWindow := orZero h.streamReceiveWindow
        alpn }
  | other {ports : List (List Char)} {certificates config : String}
      (version : h.protocolVersion ≠ 1) (left : Leaves h ports certificates config) :
      Returned h s { restored h s ports certificates config with
        protocolVersion := 2
        authType := .none
        connectionReceiveWindow := 0
        streamReceiveWindow := 0
        disableMtuDiscovery := false
        alpn := "" }

/-- The ports to hop between as they come back, a hyphen within each range. -/
def returnedPorts (serverPorts : String) : String :=
  ",".intercalate ((portItems serverPorts).map fun item => Text.swap ':' '-' (String.ofList item))

/-- What comes back of the settings that both generations have. -/
def returnedShared (h : Hysteria) (s : Settings) : Hysteria :=
  { h with
    transport := .udp
    uploadMbps := returnedMbps h.uploadMbps s.uploadMbps
    downloadMbps := returnedMbps h.downloadMbps s.downloadMbps
    serverPorts := returnedPorts h.serverPorts
    hopInterval := if 0 < h.hopInterval ∧ portItems h.serverPorts ≠ [] then h.hopInterval else 10
    certificates := Text.lineText h.certificates
    echConfig := if h.ech then Text.filledText h.echConfig else "" }

/-- The settings as they come back from an outbound. -/
def returned (h : Hysteria) (s : Settings) : Hysteria :=
  if h.protocolVersion = 1 then
    { returnedShared h s with
      authPayload := if h.authType = .none then "" else h.authPayload
      connectionReceiveWindow := orZero h.connectionReceiveWindow
      streamReceiveWindow := orZero h.streamReceiveWindow
      alpn := Text.filledText h.alpn }
  else
    { returnedShared h s with
      protocolVersion := 2
      authType := .none
      connectionReceiveWindow := 0
      streamReceiveWindow := 0
      disableMtuDiscovery := false
      alpn := "" }

section Told

/-- A hyphen takes the place of each colon. -/
lemma swap_ofList (item : List Char) :
    Text.swap ':' '-' (String.ofList item) = String.ofList (hyphenated item) := by
  rw [Text.swap, String.toList_ofList]
  rfl

/-- The ports that come back are joined by commas. -/
lemma returnedPorts_eq (serverPorts : String) : (returnedPorts serverPorts).toList
    = [','].intercalate ((portItems serverPorts).map hyphenated) := by
  have same : ((portItems serverPorts).map fun item => Text.swap ':' '-' (String.ofList item)).map
      String.toList = (portItems serverPorts).map hyphenated := by
    rw [List.map_map]
    refine List.map_congr_left fun item _ => ?_
    rw [Function.comp_apply, swap_ofList, String.toList_ofList]
  rw [returnedPorts, String.toList_intercalate, same]
  rfl

variable {h h' : Hysteria} {s : Settings} {ports : List (List Char)} {certificates config : String}

/-- What there is to come back is what the outbound is written with. -/
lemma leaves_iff : Leaves h ports certificates config ↔ portItems h.serverPorts = ports ∧
    Text.lineText h.certificates = certificates ∧
    (if h.ech then Text.filledText h.echConfig else "") = config := by
  have items : (∃ parts, Text.CutsInto ',' h.serverPorts.toList parts ∧ Text.FillsIn parts ports) ↔
      portItems h.serverPorts = ports := by
    simp only [Text.cutsInto_iff, Text.fillsIn_iff, exists_eq_left']
    rfl
  rw [← items, ← Text.holdsLines_iff]
  constructor
  · rintro ⟨ports, certificates, encrypted, plain⟩
    refine ⟨ports, certificates, ?_⟩
    cases on : h.ech with
    | true => exact Text.holdsTrimmed_iff.1 (encrypted on)
    | false => exact (plain on).symm
  · rintro ⟨ports, certificates, rfl⟩
    refine ⟨ports, certificates, fun on => ?_, fun off => ?_⟩
    · exact Text.holdsTrimmed_iff.2 (if_pos on).symm
    · rw [off]
      rfl

/-- What is left is put back. -/
lemma restored_of_leaves (left : Leaves h ports certificates config) :
    restored h s ports certificates config = returnedShared h s := by
  obtain ⟨rfl, rfl, rfl⟩ := leaves_iff.1 left
  rw [restored, returnedShared, ← returnedPorts_eq, String.ofList_toList]

/-- A profile becomes what is computed from it, and nothing else. -/
lemma returned_iff : Returned h s h' ↔ h' = h.returned s := by
  constructor
  · intro returns
    cases returns with
    | first version left protocols =>
      rw [restored_of_leaves left, returned, if_pos version, Text.holdsTrimmed_iff.1 protocols]
    | other version left => rw [restored_of_leaves left, returned, if_neg version]
  · rintro rfl
    have left := (leaves_iff (h := h)).2 ⟨rfl, rfl, rfl⟩
    by_cases version : h.protocolVersion = 1
    · rw [returned, if_pos version, ← restored_of_leaves left]
      exact .first version left (Text.holdsTrimmed_iff.2 rfl)
    · rw [returned, if_neg version, ← restored_of_leaves left]
      exact .other version left

end Told

section Values

/-- The bandwidth that is written is the one that comes back. -/
lemma orZero_effectiveMbps (own fallback : Int32) :
    orZero (effectiveMbps own fallback) = returnedMbps own fallback := by
  unfold effectiveMbps returnedMbps
  split
  · next positive => exact if_pos positive
  · rfl

/-- A number of 32 bits is no larger than it may be. -/
lemma cappedInt32_int (n : Int32) : cappedInt32 (.int n.toInt) = n := by
  rw [cappedInt32, Json.int64?_int, Option.map_some, Multiplex.capInt32_toInt64, Option.getD_some]

/-- Hyphens that have become colons become hyphens again, as all colons do. -/
lemma swap_swap (s : String) : Text.swap ':' '-' (Text.swap '-' ':' s) = Text.swap ':' '-' s := by
  simp only [Text.swap, String.toList_ofList, List.map_map]
  congr 1
  refine List.map_congr_left fun c _ => ?_
  by_cases hyphen : c = '-'
  · subst hyphen
    rfl
  · rw [Function.comp_apply, if_neg hyphen]

/-- The ports of an outbound are read as they come back. -/
lemma portsText_hopPorts (serverPorts : String) :
    portsText (hopPorts serverPorts) = returnedPorts serverPorts := by
  have swapped : (hopPorts serverPorts).map (Text.swap ':' '-')
      = (portItems serverPorts).map fun item => Text.swap ':' '-' (String.ofList item) := by
    rw [hopPorts, List.map_map]
    exact List.map_congr_left fun item _ => swap_swap _
  rw [portsText, swapped, returnedPorts]

/-- There are ports to hop between exactly if there are items in their list. -/
lemma isEmpty_hopPorts (serverPorts : String) :
    (hopPorts serverPorts).isEmpty = (portItems serverPorts).isEmpty := List.isEmpty_map

/-- An interval is read back, its unit and all. -/
lemma intervalOf_secondsText (n : Int64) : intervalOf (.string (secondsText n)) = n := by
  have text : (Json.string (secondsText n)).text.toList = Text.signedDecimal n.toInt ++ ['s'] := by
    rw [Json.text, secondsText, String.toList_append, Text.showInt, String.toList_ofList]
    rfl
  have unit (c : Char) (mem : c ∈ ['s']) : (c == 's') = true := by
    rw [List.mem_singleton.1 mem]
    rfl
  -- The unit is cut off letter by letter, which has to end at the number.
  have noUnit (c : Char) (mem : c ∈ Text.signedDecimal n.toInt) : (c == 's') = false := by
    rcases Text.of_mem_signedDecimal mem with rfl | digit
    · rfl
    · refine beq_eq_false_iff_ne.2 ?_
      rintro rfl
      cases digit
  have stripped : Text.strip (Text.signedDecimal n.toInt ++ ['s'])
      = Text.signedDecimal n.toInt ++ ['s'] := by
    refine Text.strip_eq_self fun c mem => ?_
    rcases List.mem_append.1 mem with mem | mem
    · exact Text.isBlank_of_mem_signedDecimal mem
    · rw [List.mem_singleton.1 mem]
      rfl
  rw [intervalOf, text, stripped, Text.dropEndWhile_append unit, Text.dropEndWhile_eq_self noUnit,
    Text.int64?_signedDecimal, Option.getD_some]

/-- A number that is written is not null. -/
lemma positive_ne_null {n : Int32} : positive n ≠ some .null := by
  unfold positive
  split <;> nofun

/-- A text that is written is not null. -/
lemma filled_ne_null {s : String} : filled s ≠ some .null := by
  rw [filled]
  cases Text.nonEmpty? s <;> nofun

variable {m : Members} {key : String}

/-- A number that is left out unless it is positive is read as zero then. -/
lemma cappedAt_of_get? {n : Int32} (h : m.get? key = positive n) : cappedAt m key = orZero n := by
  rw [cappedAt, h, positive, orZero]
  split
  · rw [Option.map_some, cappedInt32_int, Option.getD_some]
  · rfl

/-- A text that is left out if it is empty is read as empty then. -/
lemma text_of_get? {s : String} (h : m.get? key = filled s) :
    ((m.get? key).map Json.text).getD "" = s := by
  rw [h, filled, Option.map_map]
  exact (congrArg (·.getD "") Option.map_id').trans (Text.getD_nonEmpty? s)

end Values

variable (e : Endpoint) (h : Hysteria) (s : Settings)

/-- The members of the outbound of a profile. -/
abbrev document : Members := Profile.typedMembers h.outboundType e.name (h.fields e s)

/-- The members that the readers of either generation find. -/
abbrev ownMembers : Members := Endpoint.unmatched (document e h s)

/-- The keys of the members, of which the generations share some. -/
lemma keys_fields : (h.fields e s).map Prod.fst
    = ["server", "server_port", "server_ports", "hop_interval", "up_mbps", "down_mbps", "tls"] ++
      if h.isFirstGeneration then
        ["obfs", "auth", "auth_str", "recv_window_conn", "recv_window", "disable_mtu_discovery"]
      else ["password", "obfs"] := by
  rw [fields, List.map_append]
  split <;> rfl

/-- Every member stands under its own key. -/
lemma get?_document {key : String} {value : Option Json} (mem : (key, value) ∈ h.fields e s) :
    (document e h s).get? key = value := by
  refine Profile.get?_typedMembers ?_ mem
  rw [keys_fields]
  split <;> decide

/-- A Hysteria outbound has no multiplexing. -/
lemma get?_multiplex : (document e h s).get? "multiplex" = none := by
  apply Profile.get?_typedMembers_eq_none
  rw [keys_fields]
  split <;> decide

/-- The readers of either generation find a member that is not a common one. -/
lemma get?_ownMembers {key : String} {value : Option Json} (mem : (key, value) ∈ h.fields e s)
    (own : key ∉ Endpoint.keys) (notNull : value ≠ some .null) :
    (ownMembers e h s).get? key = value :=
  Endpoint.get?_unmatched_of_get? (Members.sorted_ofFields _) own (get?_document e h s mem) notNull

/-- A setting of both generations is found in their outbound. -/
lemma get?_shared {key : String} {value : Option Json} (mem : (key, value) ∈ sharedFields e h s)
    (own : key ∉ Endpoint.keys) (notNull : value ≠ some .null) :
    (ownMembers e h s).get? key = value :=
  get?_ownMembers e h s (List.mem_append_left _ mem) own notNull

/-- The ports to hop between are read as they come back. -/
lemma serverPorts_ownMembers :
    ((Json.strings? ((ownMembers e h s).get? "server_ports")).map portsText).getD ""
      = returnedPorts h.serverPorts := by
  have found : (ownMembers e h s).get? "server_ports"
      = if (hopPorts h.serverPorts).isEmpty then none else some (.strings (hopPorts h.serverPorts)) :=
    get?_shared e h s (by simp [sharedFields]) (by decide) (by split <;> nofun)
  rw [found, ← portsText_hopPorts]
  split
  · next empty =>
    rw [List.isEmpty_iff.1 empty]
    rfl
  · rw [Json.strings?_strings]
    rfl

/-- The interval between hops is read unless there are no ports to hop between. -/
lemma hopInterval_ownMembers :
    (((ownMembers e h s).get? "hop_interval").map intervalOf).getD 10
      = if 0 < h.hopInterval ∧ portItems h.serverPorts ≠ [] then h.hopInterval else 10 := by
  have found : (ownMembers e h s).get? "hop_interval"
      = if (hopPorts h.serverPorts).isEmpty || h.hopInterval ≤ 0 then none
        else some (.string (secondsText h.hopInterval)) :=
    get?_shared e h s (by simp [sharedFields]) (by decide) (by split <;> nofun)
  rw [found, isEmpty_hopPorts]
  by_cases given : 0 < h.hopInterval ∧ portItems h.serverPorts ≠ []
  · obtain ⟨positive, filled⟩ := given
    have kept : ¬((portItems h.serverPorts).isEmpty || decide (h.hopInterval ≤ 0)) = true := by
      rw [Bool.or_eq_true, List.isEmpty_iff, decide_eq_true_eq]
      exact not_or.2 ⟨filled, Int64.not_le.2 positive⟩
    rw [if_neg kept, if_pos ⟨positive, filled⟩, Option.map_some, intervalOf_secondsText,
      Option.getD_some]
  · have dropped : ((portItems h.serverPorts).isEmpty || decide (h.hopInterval ≤ 0)) = true := by
      rw [Bool.or_eq_true, List.isEmpty_iff, decide_eq_true_eq]
      rcases not_and_or.1 given with notPositive | empty
      · exact .inr (Int64.not_lt.1 notPositive)
      · exact .inl (not_not.1 empty)
    rw [if_pos dropped, if_neg given]
    rfl

/-- A bandwidth is read as it comes back. -/
lemma mbps_ownMembers {key : String} {own fallback : Int32}
    (mem : (key, positive (effectiveMbps own fallback)) ∈ sharedFields e h s)
    (notCommon : key ∉ Endpoint.keys) :
    cappedAt (ownMembers e h s) key = returnedMbps own fallback := by
  rw [cappedAt_of_get? (get?_shared e h s mem notCommon positive_ne_null), orZero_effectiveMbps]

/-- The options for TLS are read as they are written. -/
lemma tls_ownMembers : (((ownMembers e h s).objectAt? "tls").map Tls.ofMembers).getD {} = h.tls := by
  have found : (ownMembers e h s).get? "tls" = some h.tls.toJson :=
    get?_shared e h s (by simp [sharedFields]) (by decide) nofun
  have options : ((ownMembers e h s).objectAt? "tls").map Tls.ofMembers = some h.tls :=
    Members.objectAt?_of_get? Tls.ofMembers_toJson found
  rw [options, Option.getD_some]

/-- What the members that both generations have give. -/
lemma ofShared_ownMembers : ofShared (ownMembers e h s) =
    { serverPorts := returnedPorts h.serverPorts
      hopInterval :=
        if 0 < h.hopInterval ∧ portItems h.serverPorts ≠ [] then h.hopInterval else 10
      uploadMbps := returnedMbps h.uploadMbps s.uploadMbps
      downloadMbps := returnedMbps h.downloadMbps s.downloadMbps
      sni := h.sni
      alpn := if h.isFirstGeneration then Text.filledText h.alpn else ""
      certificates := Text.lineText h.certificates
      allowInsecure := h.allowInsecure
      disableSni := h.disableSni
      ech := h.ech
      echConfig := if h.ech then Text.filledText h.echConfig else "" } := by
  have up : cappedAt (ownMembers e h s) "up_mbps" = returnedMbps h.uploadMbps s.uploadMbps :=
    mbps_ownMembers e h s (by simp [sharedFields]) (by decide)
  have down : cappedAt (ownMembers e h s) "down_mbps"
      = returnedMbps h.downloadMbps s.downloadMbps :=
    mbps_ownMembers e h s (by simp [sharedFields]) (by decide)
  have alpn : Tls.lines h.tls.alpn = if h.isFirstGeneration then Text.filledText h.alpn else "" := by
    rw [tls]
    cases h.isFirstGeneration with
    | true => exact Tls.lines_filledLines? h.alpn
    | false => rfl
  rw [ofShared, serverPorts_ownMembers, hopInterval_ownMembers, up, down, tls_ownMembers, alpn]
  simp only [tls, Text.getD_nonEmpty?, Tls.lines_allLines?, Tls.enabled_ofProfile?,
    Tls.lines_config_ofProfile?, Option.getD_some]

section First

variable (first : h.isFirstGeneration = true)
include first

/-- A setting of the first generation is found in its outbound. -/
lemma get?_first {key : String} {value : Option Json} (mem : (key, value) ∈ h.firstFields)
    (own : key ∉ Endpoint.keys) (notNull : value ≠ some .null) :
    (ownMembers e h s).get? key = value := by
  refine get?_ownMembers e h s ?_ own notNull
  rw [fields, if_pos first]
  exact List.mem_append_right _ mem

/-- The way to log in is read, with its secret unless there is none. -/
lemma secretOf_ownMembers : secretOf (ownMembers e h s)
    = (h.authType, if h.authType = .none then "" else h.authPayload) := by
  have plain : (ownMembers e h s).get? "auth_str"
      = if h.authType = .str then some (.string h.authPayload) else none :=
    get?_first e h s first (by simp [firstFields]) (by decide) (by split <;> nofun)
  have encoded : (ownMembers e h s).get? "auth"
      = if h.authType = .base64 then some (.string h.authPayload) else none :=
    get?_first e h s first (by simp [firstFields]) (by decide) (by split <;> nofun)
  rw [secretOf, plain, encoded]
  cases h.authType <;> rfl

/-- The first generation comes back. -/
lemma ofFirstMembers_ownMembers : ofFirstMembers (ownMembers e h s) = h.returned s := by
  have version : h.protocolVersion = 1 := eq_of_beq first
  have obfuscation : (((ownMembers e h s).get? "obfs").map Json.text).getD "" = h.obfuscation :=
    text_of_get? (get?_first e h s first (by simp [firstFields]) (by decide) filled_ne_null)
  have connectionWindow : cappedAt (ownMembers e h s) "recv_window_conn"
      = orZero h.connectionReceiveWindow :=
    cappedAt_of_get? (get?_first e h s first (by simp [firstFields]) (by decide) positive_ne_null)
  have streamWindow : cappedAt (ownMembers e h s) "recv_window" = orZero h.streamReceiveWindow :=
    cappedAt_of_get? (get?_first e h s first (by simp [firstFields]) (by decide) positive_ne_null)
  have discoveryAt : (ownMembers e h s).get? "disable_mtu_discovery"
      = if h.disableMtuDiscovery then some (.bool true) else none :=
    get?_first e h s first (by simp [firstFields]) (by decide) (by split <;> nofun)
  have discovery : (((ownMembers e h s).get? "disable_mtu_discovery").map Json.isTrue).getD false
      = h.disableMtuDiscovery := by
    rw [discoveryAt]
    cases h.disableMtuDiscovery with
    | true => exact Json.isTrue_bool true
    | false => rfl
  simp only [ofFirstMembers, secretOf_ownMembers e h s first, ofShared_ownMembers, obfuscation,
    connectionWindow, streamWindow, discovery, returned, returnedShared, version, first, if_true]

end First

section Second

variable (second : h.isFirstGeneration = false)
include second

/-- A setting of the second generation is found in its outbound. -/
lemma get?_second {key : String} {value : Option Json} (mem : (key, value) ∈ h.secondFields)
    (own : key ∉ Endpoint.keys) (notNull : value ≠ some .null) :
    (ownMembers e h s).get? key = value := by
  refine get?_ownMembers e h s ?_ own notNull
  rw [fields, if_neg (Bool.eq_false_iff.1 second)]
  exact List.mem_append_right _ mem

/-- The obfuscation is read as it is written. -/
lemma obfuscation_ownMembers :
    ((((ownMembers e h s).objectAt? "obfs").bind fun obfs => obfs.get? "password").map
      Json.text).getD "" = h.obfuscation := by
  have found : (ownMembers e h s).get? "obfs" = (Text.nonEmpty? h.obfuscation).map fun password =>
      .ofFields [("type", .string "salamander"), ("password", .string password)] := by
    refine get?_second e h s second (by simp [secondFields]) (by decide) ?_
    cases Text.nonEmpty? h.obfuscation <;> nofun
  rw [Members.objectAt?, found, Text.nonEmpty?_eq]
  split
  · next empty => exact empty.symm
  · simp [Json.members?_ofFields, Members.get?_ofList, Json.text]

/-- The second generation comes back. -/
lemma ofSecondMembers_ownMembers : ofSecondMembers (ownMembers e h s) = h.returned s := by
  have version : h.protocolVersion ≠ 1 := beq_eq_false_iff_ne.1 second
  have secret : (((ownMembers e h s).get? "password").map Json.text).getD "" = h.authPayload :=
    text_of_get? (get?_second e h s second (by simp [secondFields]) (by decide) filled_ne_null)
  simp only [ofSecondMembers, ofShared_ownMembers, secret, obfuscation_ownMembers e h s second,
    returned, returnedShared, if_neg version, second, Bool.false_eq_true, if_false]

end Second

/-- The common settings are read as they are written, without multiplexing. -/
lemma ofMembers_endpoint : Endpoint.ofMembers (document e h s) = { e with multiplex := {} } := by
  have server : (document e h s).get? "server" = some (.string e.address) :=
    get?_document e h s (List.mem_append_left _ List.mem_cons_self)
  have port : (document e h s).get? "server_port" = some (.int e.port.toNat) :=
    get?_document e h s (List.mem_append_left _ (by simp [sharedFields, Endpoint.fields]))
  rw [Endpoint.ofMembers_of_get? e Profile.get?_tag server port, Members.objectAt?, get?_multiplex]
  rfl

/-- What is read from the outbound of a profile. -/
lemma ofOutbound?_document : Profile.ofOutbound? (document e h s)
    = some ⟨{ e with multiplex := {} }, .hysteria (h.returned s)⟩ := by
  cases generation : h.isFirstGeneration with
  | true =>
    have known : OutboundType.ofName? h.outboundType = some .hysteria := by
      rw [outboundType, generation]
      rfl
    rw [Profile.ofOutbound?_typedMembers known, Profile.ofOutboundType, ofMembers_endpoint,
      ofFirstMembers_ownMembers e h s generation]
  | false =>
    have known : OutboundType.ofName? h.outboundType = some .hysteria2 := by
      rw [outboundType, generation]
      rfl
    rw [Profile.ofOutbound?_typedMembers known, Profile.ofOutboundType, ofMembers_endpoint,
      ofSecondMembers_ownMembers e h s generation]

end ProxyChain.Hysteria

namespace ProxyChain.Profile

/-- A Hysteria profile comes back from its outbound, changed in the one way that it can be and without
multiplexing. -/
theorem reread?_hysteria (e : Endpoint) (h : Hysteria) (s : Settings) :
    ∃ h', (∀ h'', h.Returned s h'' ↔ h'' = h') ∧
      reread? ⟨e, .hysteria h⟩ s = some ⟨{ e with multiplex := {} }, .hysteria h'⟩ := by
  refine ⟨h.returned s, fun _ => Hysteria.returned_iff, ?_⟩
  change ofOutbound? (Hysteria.document e h s) = _
  exact Hysteria.ofOutbound?_document e h s

end ProxyChain.Profile
