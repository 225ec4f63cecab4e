import ProxyChain.Proofs.Outbound.Hysteria
import ProxyChain.Proofs.Outbound.Trojan

/-!
# Profiles settle in their outbound

What came back from the outbound of a profile has the form that outbounds carry, and comes back from its
own outbound as it is. Only certificates are cut into lines and joined anew each time, and that may go on
changing them: the second time nothing changes exactly if the lines of the profile's certificates are
kept (`Profile.reread?_settles_iff`).
-/

namespace ProxyChain

/-- The configuration of a client hello that is left of the one that was left. -/
lemma Text.filledText_of_on (on : Bool) (config : String) :
    (if on then filledText (if on then filledText config else "") else "")
      = if on then filledText config else "" := by
  cases on with
  | true => simp only [if_true, filledText_filledText]
  | false => rfl

/-- Multiplexing comes back the same the second time. -/
lemma Multiplex.returned_returned (m : Multiplex) : m.returned.returned = m.returned := by
  obtain ⟨enabled, padding, protocol, limit, number, brutal⟩ := m
  cases enabled with
  | false => rfl
  | true =>
    cases brutal with
    | true => rfl
    | false =>
      by_cases notPositive : number ≤ 0
      · simp only [returned, if_true, Bool.false_eq_true, if_false, if_pos notPositive]
        exact if_neg (by decide)
      · simp only [returned, if_true, Bool.false_eq_true, if_false, if_neg notPositive]

/-- A Trojan profile comes back the same the second time, but for its certificates. -/
lemma Trojan.returned_returned (t : Trojan) : t.returned.returned
    = { t.returned with certificates := Text.lineText t.returned.certificates } := by
  have shortId : (if t.realityPublicKey = "" then "" else
      if t.realityPublicKey = "" then "" else t.realityShortId)
        = if t.realityPublicKey = "" then "" else t.realityShortId := by
    split <;> rfl
  simp only [returned, mk.injEq, true_and]
  exact ⟨Text.filledText_filledText t.alpn, shortId, Text.filledText_of_on t.ech t.echConfig⟩

namespace Hysteria

section Ports

/-- Hyphens stay hyphens. -/
lemma hyphenated_hyphenated (item : List Char) : hyphenated (hyphenated item) = hyphenated item := by
  rw [hyphenated, hyphenated, List.map_map]
  refine List.map_congr_left fun c _ => ?_
  by_cases colon : c = ':'
  · subst colon
    rfl
  · rw [Function.comp_apply, if_neg colon, if_neg colon]

/-- An item has neither a comma in it nor a blank at an end, and is not empty. -/
lemma of_mem_portItems {serverPorts : String} {item : List Char} (mem : item ∈ portItems serverPorts) :
    ',' ∉ item ∧ Text.Stripped item ∧ item ≠ [] := by
  obtain ⟨whole, among, rfl, filled⟩ := Text.of_mem_filled mem
  exact ⟨fun comma => Text.notMem_of_mem_pieces among (Text.mem_of_mem_strip comma),
    Text.stripped_strip whole, filled⟩

/-- A port as it comes back has no comma and no blanks around it, and is not empty. -/
lemma of_mem_hyphenated {serverPorts : String} {item : List Char}
    (mem : item ∈ (portItems serverPorts).map hyphenated) :
    ',' ∉ item ∧ Text.Stripped item ∧ item ≠ [] := by
  obtain ⟨own, among, rfl⟩ := List.mem_map.1 mem
  obtain ⟨noComma, stripped, filled⟩ := of_mem_portItems among
  refine ⟨fun comma => ?_, stripped.map fun c => ?_, mt List.map_eq_nil_iff.1 filled⟩
  · obtain ⟨c, memOwn, is⟩ := List.mem_map.1 comma
    split at is
    · cases is
    · exact noComma (is ▸ memOwn)
  · -- Neither a colon nor a hyphen is blank.
    split
    · next colon =>
      rw [colon]
      rfl
    · rfl

/-- The items are found again in the ports that come back. -/
lemma portItems_returnedPorts (serverPorts : String) :
    portItems (returnedPorts serverPorts) = (portItems serverPorts).map hyphenated := by
  rw [portItems, returnedPorts_eq]
  by_cases empty : (portItems serverPorts).map hyphenated = []
  · rw [empty]
    rfl
  · rw [Text.pieces_intercalate empty fun item mem => (of_mem_hyphenated mem).1]
    exact Text.filled_eq_self fun item mem => (of_mem_hyphenated mem).2

/-- Ports come back the same the second time. -/
lemma returnedPorts_returnedPorts (serverPorts : String) :
    returnedPorts (returnedPorts serverPorts) = returnedPorts serverPorts := by
  rw [← String.toList_inj, returnedPorts_eq, portItems_returnedPorts, List.map_map, returnedPorts_eq]
  congr 2
  exact funext hyphenated_hyphenated

/-- There are ports to hop between after they came back exactly if there were before. -/
lemma portItems_returnedPorts_ne_nil_iff (serverPorts : String) :
    portItems (returnedPorts serverPorts) ≠ [] ↔ portItems serverPorts ≠ [] := by
  rw [portItems_returnedPorts]
  exact List.map_eq_nil_iff.not

end Ports

/-- A number that counts as zero is zero. -/
lemma orZero_orZero (n : Int32) : orZero (orZero n) = orZero n := by
  by_cases positive : 0 < n <;> simp [orZero, positive]

/-- A bandwidth comes back the same the second time. -/
lemma returnedMbps_returnedMbps (own fallback : Int32) :
    returnedMbps (returnedMbps own fallback) fallback = returnedMbps own fallback := by
  by_cases positive : 0 < own
  · simp [returnedMbps, positive]
  · by_cases positive' : 0 < fallback <;> simp [returnedMbps, orZero, positive, positive']

variable (h : Hysteria) (s : Settings)

/-- An interval is kept for ports that came back as for those that were there. -/
lemma keptInterval_keptInterval : (if 0 < (if 0 < h.hopInterval ∧ portItems h.serverPorts ≠ []
        then h.hopInterval else 10) ∧ portItems (returnedPorts h.serverPorts) ≠ []
      then (if 0 < h.hopInterval ∧ portItems h.serverPorts ≠ [] then h.hopInterval else 10) else 10)
    = if 0 < h.hopInterval ∧ portItems h.serverPorts ≠ [] then h.hopInterval else 10 := by
  simp only [portItems_returnedPorts_ne_nil_iff]
  by_cases given : 0 < h.hopInterval ∧ portItems h.serverPorts ≠ []
  · simp only [if_pos given]
  · simp only [if_neg given, ite_self]

/-- The first generation comes back the same the second time, but for its certificates. -/
lemma returned_returned_first (first : h.protocolVersion = 1) : (h.returned s).returned s
    = { h.returned s with certificates := Text.lineText (h.returned s).certificates } := by
  have once : h.returned s = _ := if_pos first
  have first' : (h.returned s).protocolVersion = 1 := by
    rw [once]
    exact first
  have twice : (h.returned s).returned s = _ := if_pos first'
  have secret : (if h.authType = .none then "" else if h.authType = .none then "" else h.authPayload)
      = if h.authType = .none then "" else h.authPayload := by
    split <;> rfl
  rw [twice, once]
  simp only [returnedShared, mk.injEq, true_and]
  exact ⟨returnedPorts_returnedPorts _, secret, Text.filledText_filledText _, orZero_orZero _,
    orZero_orZero _, returnedMbps_returnedMbps _ _, returnedMbps_returnedMbps _ _,
    h.keptInterval_keptInterval, Text.filledText_of_on _ _⟩

/-- The second generation comes back the same the second time, but for its certificates. -/
lemma returned_returned_second (second : h.protocolVersion ≠ 1) : (h.returned s).returned s
    = { h.returned s with certificates := Text.lineText (h.returned s).certificates } := by
  have once : h.returned s = _ := if_neg second
  have second' : (h.returned s).protocolVersion ≠ 1 := by
    rw [once]
    change (2 : Int32) ≠ 1
    decide
  have twice : (h.returned s).returned s = _ := if_neg second'
  rw [twice, once]
  simp only [returnedShared, mk.injEq, true_and]
  exact ⟨returnedPorts_returnedPorts _, returnedMbps_returnedMbps _ _, returnedMbps_returnedMbps _ _,
    h.keptInterval_keptInterval, Text.filledText_of_on _ _⟩

/-- What came back comes back once more with its certificates cut and joined once more. -/
lemma returned_returned : (h.returned s).returned s
    = { h.returned s with certificates := Text.lineText (h.returned s).certificates } := by
  by_cases first : h.protocolVersion = 1
  · exact h.returned_returned_first s first
  · exact h.returned_returned_second s first

/-- Certificates come back in lines. -/
lemma certificates_returned : (h.returned s).certificates = Text.lineText h.certificates := by
  unfold returned
  split <;> rfl

end Hysteria

namespace Profile

/-- The certificates that a profile trusts, if its kind has any. -/
def certificates? (p : Profile) : Option String :=
  match p.variant with
  | .trojan t => some t.certificates
  | .hysteria h => some h.certificates
  | .naive _ | .direct | .config _ => none

/-- The profile with something done to its certificates. -/
def mapCertificates (f : String → String) (p : Profile) : Profile :=
  match p.variant with
  | .trojan t => { p with variant := .trojan { t with certificates := f t.certificates } }
  | .hysteria h => { p with variant := .hysteria { h with certificates := f h.certificates } }
  | .naive _ | .direct | .config _ => p

/-- Changing the certificates of a profile changes them and nothing else. -/
lemma certificates?_mapCertificates (f : String → String) (p : Profile) :
    (p.mapCertificates f).certificates? = p.certificates?.map f := by
  obtain ⟨e, settings⟩ := p
  cases settings <;> rfl

/-- A profile stays as it is if and only if its certificates do. -/
lemma mapCertificates_eq_self_iff (f : String → String) (p : Profile) :
    p.mapCertificates f = p ↔ ∀ c ∈ p.certificates?, f c = c := by
  constructor
  · intro same c mem
    have mapped := p.certificates?_mapCertificates f
    rw [same, Option.mem_def.1 mem, Option.map_some] at mapped
    exact (Option.some.inj mapped).symm
  · intro kept
    obtain ⟨e, settings⟩ := p
    cases settings with
    | trojan t => simp only [mapCertificates, kept t.certificates rfl]
    | hysteria h => simp only [mapCertificates, kept h.certificates rfl]
    | naive n => rfl
    | direct => rfl
    | config raw => rfl

/-- Of a direct way out only the name comes back. -/
lemma reread?_direct (e : Endpoint) (s : Settings) :
    reread? ⟨e, .direct⟩ s = some ⟨{ name := e.name }, .direct⟩ := by
  have known : OutboundType.ofName? "direct" = some .direct := rfl
  change ofOutbound? (typedMembers "direct" e.name [("reuse_addr", some (.bool true))]) = _
  rw [ofOutbound?_typedMembers known, ofOutboundType, Endpoint.ofMembers,
    Members.present?_of_get? get?_tag (by simp)]
  rfl

/-- A profile comes back twice, the second time with its certificates cut and joined once more. -/
lemma exists_reread {p : Profile} (known : p.kind ∈ [.trojan, .hysteria, .direct]) (s : Settings) :
    ∃ q, p.reread? s = some q ∧ q.certificates? = p.certificates?.map Text.lineText ∧
      q.reread? s = some (q.mapCertificates Text.lineText) := by
  obtain ⟨e, settings⟩ := p
  cases settings with
  | trojan t =>
    refine ⟨_, t.ofOutbound?_document e s, rfl, ?_⟩
    refine (t.returned.ofOutbound?_document _ s).trans ?_
    rw [t.returned_returned, Multiplex.returned_returned]
    rfl
  | hysteria h =>
    refine ⟨_, Hysteria.ofOutbound?_document e h s, congrArg some (h.certificates_returned s), ?_⟩
    refine (Hysteria.ofOutbound?_document _ (h.returned s) s).trans ?_
    rw [h.returned_returned]
    rfl
  | direct => exact ⟨_, reread?_direct e s, rfl, reread?_direct _ s⟩
  | naive n => simp [kind, Variant.kind] at known
  | config raw => simp [kind, Variant.kind] at known

/-- A profile comes back from its outbound, and what came back comes back from its own outbound in the
same settings with nothing changed but its certificates, which are cut into lines and joined once more.
It is the same profile again exactly if the lines of the certificates that there were at first are kept. -/
theorem reread?_settles_iff {p : Profile} (known : p.kind ∈ [.trojan, .hysteria, .direct])
    (s : Settings) : ∃ q, p.reread? s = some q ∧
      q.reread? s = some (q.mapCertificates Text.lineText) ∧
      (q.reread? s = some q ↔ ∀ c ∈ p.certificates?, Text.LinesKept c) := by
  obtain ⟨q, once, certificates, twice⟩ := exists_reread known s
  refine ⟨q, once, twice, ?_⟩
  rw [twice, Option.some_inj, mapCertificates_eq_self_iff, certificates]
  constructor
  · intro kept c mem
    exact (Text.lineText_lineText_iff c).1 (kept _ (Option.mem_map_of_mem _ mem))
  · intro kept c mem
    obtain ⟨c', mem', rfl⟩ := Option.map_eq_some_iff.1 mem
    exact (Text.lineText_lineText_iff c').2 (kept c' mem')

/-- A profile of the first generation, with lines that end in carriage returns and settings that are put
in order the first time. -/
def untidy : Profile :=
  ⟨{}, .hysteria { protocolVersion := 1, serverPorts := " 1:2 ,,3", hopInterval := -1,
                   alpn := "h3\r\n\n h2", certificates := "a\r\n\r\nb\r\n", downloadMbps := -1 }⟩

/-- A profile whose lines are kept comes back the same the second time. -/
theorem reread?_settles_iff_untidy : untidy.kind ∈ [.trojan, .hysteria, .direct] ∧
    (∀ c ∈ untidy.certificates?, Text.LinesKept c) ∧
      ∃ q, untidy.reread? { cacheDir := "", downloadMbps := 100 } = some q ∧
        q.certificates? = some "a\n\nb" ∧ q.reread? { cacheDir := "", downloadMbps := 100 } = some q := by
  have known : untidy.kind ∈ [.trojan, .hysteria, .direct] := by decide
  have kept : ∀ c ∈ untidy.certificates?, Text.LinesKept c := by decide
  obtain ⟨q, once, _, settled⟩ := reread?_settles_iff known { cacheDir := "", downloadMbps := 100 }
  refine ⟨known, kept, q, once, ?_, settled.2 kept⟩
  obtain rfl := Option.some.inj (once.symm.trans (Hysteria.ofOutbound?_document _ _ _))
  rfl

/-- Certificates with an empty line at their end. -/
def blankLineLast : Profile := ⟨{}, .trojan { certificates := "a\n\n" }⟩

/-- The empty line is lost in two steps. -/
theorem reread?_not_settled : ∃ q q', blankLineLast.reread? { cacheDir := "" } = some q ∧
    q.certificates? = some "a\n" ∧ q.reread? { cacheDir := "" } = some q' ∧
      q'.certificates? = some "a" ∧ q' ≠ q := by
  refine ⟨_, _, Trojan.ofOutbound?_document _ _ _, rfl, Trojan.ofOutbound?_document _ _ _, rfl, ?_⟩
  decide

end Profile

end ProxyChain
