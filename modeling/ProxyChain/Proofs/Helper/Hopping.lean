import ProxyChain.Proofs.Helper.Wiring
import ProxyChain.Proofs.Outbound.Settled

/-!
# Where helpers hop

The core's outbound of a Hysteria profile lists the ports to hop between, and a helper that dials its
server itself has them in the address. The outbound takes the user's text apart item by item; the address
has the text as it is, without its spaces. So the two agree exactly if every item is tidy
(`filter_eq_returnedPorts_iff`), and that, with ports behind every interval, is when outbound and
configuration agree (`Hysteria.render_hopsAlike_iff`).
-/

namespace ProxyChain

namespace Hysteria

/-- An item of a list of ports that is neither blank nor has a colon, and of which the same is left when
spaces are taken out as when blanks at its ends are cut off: there are none in it but spaces at its ends. -/
def TidyItem (item : List Char) : Prop :=
  Text.strip item ≠ [] ∧ ':' ∉ item ∧ item.filter (· != ' ') = Text.strip item
  deriving Decidable

/-- A list of ports all of whose items are tidy. -/
def TidyPorts (serverPorts : String) : Prop :=
  ∀ item ∈ Text.pieces ',' serverPorts.toList, TidyItem item
  deriving Decidable

section Ports

/-- No colon is left once hyphens have taken their places. -/
lemma colon_notMem_hyphenated (item : List Char) : ':' ∉ hyphenated item := by
  intro mem
  obtain ⟨c, -, is⟩ := List.mem_map.1 mem
  split at is
  · cases is
  · next other => exact other is

/-- What has no colon stays as it is. -/
lemma hyphenated_of_notMem {item : List Char} (noColon : ':' ∉ item) : hyphenated item = item := by
  have same : item.map (fun c => if c = ':' then '-' else c) = item.map id := by
    refine List.map_congr_left fun c mem => if_neg ?_
    rintro rfl
    exact noColon mem
  rw [hyphenated, same, List.map_id]

/-- Taking the spaces out of an item trims and hyphenates it exactly if it has no colon and taking them
out just trims it. -/
lemma filter_eq_hyphenated_iff (item : List Char) :
    item.filter (· != ' ') = hyphenated (Text.strip item) ↔
      ':' ∉ item ∧ item.filter (· != ' ') = Text.strip item := by
  constructor
  · intro same
    -- A colon would stay on the left, and there is none on the right.
    have noColon : ':' ∉ item := by
      intro mem
      have kept : ':' ∈ item.filter (· != ' ') := List.mem_filter.2 ⟨mem, rfl⟩
      rw [same] at kept
      exact colon_notMem_hyphenated _ kept
    rw [hyphenated_of_notMem fun mem => noColon (Text.mem_of_mem_strip mem)] at same
    exact ⟨noColon, same⟩
  · rintro ⟨noColon, same⟩
    rw [hyphenated_of_notMem fun mem => noColon (Text.mem_of_mem_strip mem), same]

/-- Taking the spaces out of items does what trimming and hyphenating those that are not blank does
exactly if all of them are tidy. -/
lemma map_filter_eq_iff (items : List (List Char)) :
    items.map (List.filter (· != ' '))
        = ((items.map Text.strip).filter fun item => !item.isEmpty).map hyphenated ↔
      ∀ item ∈ items, TidyItem item := by
  have filled_iff (item : List Char) : (!item.isEmpty) = true ↔ item ≠ [] := by
    rw [Bool.not_eq_true', List.isEmpty_eq_false_iff]
  constructor
  · intro same
    -- No item is dropped on the left, so none is on the right, and the lists agree item by item.
    have length := congrArg List.length same
    rw [List.length_map, List.length_map] at length
    have filled := List.length_filter_eq_length_iff.1 (length.symm.trans (List.length_map Text.strip).symm)
    rw [List.filter_eq_self.2 filled, List.map_map] at same
    intro item mem
    have whole := (filled_iff _).1 (filled _ (List.mem_map_of_mem mem))
    exact ⟨whole, (filter_eq_hyphenated_iff item).1 (List.map_inj_left.1 same item mem)⟩
  · intro tidy
    have filled : ∀ item ∈ items.map Text.strip, (!item.isEmpty) = true := by
      intro item mem
      obtain ⟨whole, among, rfl⟩ := List.mem_map.1 mem
      exact (filled_iff _).2 (tidy whole among).1
    rw [List.filter_eq_self.2 filled, List.map_map]
    exact List.map_congr_left fun item mem => (filter_eq_hyphenated_iff item).2 (tidy item mem).2

/-- Without its spaces a list of ports is the one that comes back from the core exactly if it is tidy. -/
lemma filter_eq_returnedPorts_iff {serverPorts : String} (any : portItems serverPorts ≠ []) :
    String.ofList (serverPorts.toList.filter (· != ' ')) = returnedPorts serverPorts ↔
      TidyPorts serverPorts := by
  have split : serverPorts.toList.filter (· != ' ')
      = [','].intercalate ((Text.pieces ',' serverPorts.toList).map (List.filter (· != ' '))) := by
    rw [← Text.filter_intercalate rfl, Text.intercalate_pieces]
  have noComma : ∀ item ∈ (Text.pieces ',' serverPorts.toList).map (List.filter (· != ' ')),
      ',' ∉ item := by
    intro item mem comma
    obtain ⟨whole, among, rfl⟩ := List.mem_map.1 mem
    exact Text.notMem_of_mem_pieces among (List.mem_of_mem_filter comma)
  rw [← String.toList_inj, String.toList_ofList, returnedPorts_eq, split,
    Text.intercalate_inj (mt List.map_eq_nil_iff.1 (Text.pieces_ne_nil _ _))
      (mt List.map_eq_nil_iff.1 any) noComma fun item mem => (of_mem_hyphenated mem).1]
  exact map_filter_eq_iff _

end Ports

/-- How often a configuration says to hop. -/
def hopInterval? (doc : Json) : Option String :=
  (doc.at? "transport").bind fun transport =>
    (transport.at? "udp").bind fun udp => udp.textAt? "hopInterval"

/-- A helper hops between the ports of the core's outbound. -/
structure HopsAlike (p : Profile) (h : Hysteria) (outbound doc : Json) : Prop where
  /-- The outbound lists the ports, if there are any. -/
  listed : outbound.at? "server_ports"
    = if hopPorts h.serverPorts = [] then none else some (.strings (hopPorts h.serverPorts))
  /-- The helper dials them in place of the server's own port, a hyphen for the colon within a range and
  commas between them. -/
  address : doc.textAt? "server" = some (bracketed p.endpoint.address ++ ":" ++
    if hopPorts h.serverPorts = [] then Text.showNat p.endpoint.port.toNat
    else portsText (hopPorts h.serverPorts))
  /-- A helper of the second generation is told how often to hop only if there are ports. -/
  interval : h.isFirstGeneration = false → (hopInterval? doc).isSome → hopPorts h.serverPorts ≠ []

/-- Ports that are tidy if there are any, and that are not blank without being empty where a helper of the
second generation has an interval for them. -/
def HopsTidily (h : Hysteria) : Prop :=
  (hopPorts h.serverPorts = [] ∨ TidyPorts h.serverPorts) ∧
    (h.isFirstGeneration = false → 0 < h.hopInterval → hopPorts h.serverPorts = [] →
      h.serverPorts = "")
  deriving Decidable

variable {p : Profile} {h : Hysteria}

/-- An interval is told for any text but the empty one, be it blank. -/
lemma isSome_hopInterval?_iff {around : Surroundings} (direct : around.ports.relay = none) :
    (hopInterval? (secondConfig p h around)).isSome ↔ 0 < h.hopInterval ∧ h.serverPorts ≠ "" := by
  have told_iff : (0 < h.hopInterval ∧ (!h.serverPorts.isEmpty) = true ∧
      (none : Option UInt16).isNone = true) ↔ 0 < h.hopInterval ∧ h.serverPorts ≠ "" := by
    rw [Bool.not_eq_true', Bool.eq_false_iff, ne_eq, String.isEmpty_iff, and_iff_left Option.isNone_none]
  rw [hopInterval?, secondMembers.transport, direct, hopTransport?]
  simp only [told_iff]
  split
  · next told => simp [told, Json.at?_ofFields, Json.textAt?, Json.string?]
  · next silent => simp [silent]

/-- The address has the ports of the outbound exactly if they are tidy. -/
lemma dialledPorts_eq_iff (variant : p.variant = .hysteria h) :
    (p.dialledPorts = if hopPorts h.serverPorts = [] then Text.showNat p.endpoint.port.toNat
      else portsText (hopPorts h.serverPorts)) ↔
      hopPorts h.serverPorts = [] ∨ TidyPorts h.serverPorts := by
  simp only [Profile.dialledPorts, variant]
  by_cases noPorts : hopPorts h.serverPorts = []
  · rw [if_pos noPorts, if_pos noPorts]
    exact iff_of_true rfl (.inl noPorts)
  · have any : portItems h.serverPorts ≠ [] := mt List.map_eq_nil_iff.2 noPorts
    rw [if_neg noPorts, if_neg noPorts, portsText_hopPorts, filter_eq_returnedPorts_iff any,
      or_iff_right noPorts]

/-- The outbound of a Hysteria profile is its document. -/
lemma toOutbound_eq (variant : p.variant = .hysteria h) (s : Settings) :
    p.toOutbound s = .ok (.object (document p.endpoint h s)) := by
  rw [Profile.toOutbound, variant]
  rfl

/-- A Hysteria profile has an outbound and a configuration of its helper, whether the core can run it or
not. A helper that dials its server itself hops as the outbound says exactly if the profile's ports are
tidy, and not blank where there is an interval. -/
theorem render_hopsAlike_iff (variant : p.variant = .hysteria h) (listen : UInt16) (underTunnel : Bool)
    (s : Settings) (name : String) : ∃ outbound rendered doc, p.toOutbound s = .ok outbound ∧
      Helper.render p { listen } underTunnel s name = some rendered ∧ rendered.config = doc.pretty ∧
      (HopsAlike p h outbound doc ↔ h.HopsTidily) := by
  let around : Surroundings := h.surroundings { listen } underTunnel s name
  refine ⟨_, _, _, toOutbound_eq variant s, render_eq variant { listen } underTunnel s name, rfl, ?_⟩
  have listed : (Json.object (document p.endpoint h s)).at? "server_ports"
      = if hopPorts h.serverPorts = [] then none else some (.strings (hopPorts h.serverPorts)) := by
    simp only [← List.isEmpty_iff]
    exact get?_document p.endpoint h s (List.mem_append_left _ (by simp [sharedFields]))
  have server : (h.config p around).textAt? "server"
      = some (bracketed p.endpoint.address ++ ":" ++ p.dialledPorts) :=
    (wired_config variant around).server
  have interval : h.isFirstGeneration = false → ((hopInterval? (h.config p around)).isSome ↔
      0 < h.hopInterval ∧ h.serverPorts ≠ "") := by
    intro second
    rw [config, second, if_neg Bool.false_ne_true]
    exact isSome_hopInterval?_iff rfl
  have ports_iff := dialledPorts_eq_iff variant
  constructor
  · intro alike
    have address := alike.address
    rw [server, Option.some_inj, String.append_right_inj, ports_iff] at address
    refine ⟨address, fun second positive noPorts => ?_⟩
    by_contra filled
    exact alike.interval second ((interval second).2 ⟨positive, filled⟩) noPorts
  · rintro ⟨tidy, empty⟩
    refine ⟨listed, ?_, fun second told noPorts => ?_⟩
    · rw [server, ports_iff.2 tidy]
    · obtain ⟨positive, filled⟩ := (interval second).1 told
      exact filled (empty second positive noPorts)

/-- Ports with blanks between the items, where they do no harm. -/
def spacedPorts : Hysteria := { serverPorts := " 20000-30000 , 443" }

/-- The outbound and the helper hop between the same ports. -/
theorem render_hopsAlike_iff_spacedPorts :
    spacedPorts.HopsTidily ∧ ∃ outbound rendered doc,
      Profile.toOutbound ⟨{}, .hysteria spacedPorts⟩ { cacheDir := "" } = .ok outbound ∧
      Helper.render ⟨{}, .hysteria spacedPorts⟩ { listen := 41000 } false { cacheDir := "" } ""
        = some rendered ∧ rendered.config = doc.pretty ∧
      HopsAlike ⟨{}, .hysteria spacedPorts⟩ spacedPorts outbound doc ∧
      doc.textAt? "server" = some "127.0.0.1:20000-30000,443" := by
  have tidy : spacedPorts.HopsTidily := by decide
  obtain ⟨outbound, rendered, doc, builds, renders, prints, alike_iff⟩ :=
    render_hopsAlike_iff (p := ⟨{}, .hysteria spacedPorts⟩) rfl 41000 false { cacheDir := "" } ""
  have alike := alike_iff.2 tidy
  refine ⟨tidy, outbound, rendered, doc, builds, renders, prints, alike, ?_⟩
  rw [alike.address]
  decide

/-- A range with a colon, and an item between two commas that is not there. -/
def colonPorts : Hysteria := { serverPorts := "20000:30000,,443" }

/-- Nothing but a blank for the ports. -/
def blankPorts : Hysteria := { serverPorts := " " }

/-- The colon and the comma are in the address still. An interval is told when there is nothing to hop
between. -/
theorem render_not_hopsAlike :
    (∃ outbound rendered doc,
      Profile.toOutbound ⟨{}, .hysteria colonPorts⟩ { cacheDir := "" } = .ok outbound ∧
      Helper.render ⟨{}, .hysteria colonPorts⟩ { listen := 41000 } false { cacheDir := "" } ""
        = some rendered ∧ rendered.config = doc.pretty ∧
      hopPorts colonPorts.serverPorts = ["20000:30000", "443"] ∧
      doc.textAt? "server" = some "127.0.0.1:20000:30000,,443" ∧
      ¬ HopsAlike ⟨{}, .hysteria colonPorts⟩ colonPorts outbound doc) ∧
    ∃ outbound rendered doc,
      Profile.toOutbound ⟨{}, .hysteria blankPorts⟩ { cacheDir := "" } = .ok outbound ∧
      Helper.render ⟨{}, .hysteria blankPorts⟩ { listen := 41000 } false { cacheDir := "" } ""
        = some rendered ∧ rendered.config = doc.pretty ∧
      hopPorts blankPorts.serverPorts = [] ∧ hopInterval? doc = some "10s" ∧
      ¬ HopsAlike ⟨{}, .hysteria blankPorts⟩ blankPorts outbound doc := by
  constructor
  · have server : (colonPorts.config ⟨{}, .hysteria colonPorts⟩
        (colonPorts.surroundings { listen := 41000 } false { cacheDir := "" } "")).textAt? "server"
          = some "127.0.0.1:20000:30000,,443" := by decide
    refine ⟨_, _, _, toOutbound_eq rfl _, render_eq rfl _ _ _ _, rfl, by decide, server, ?_⟩
    intro alike
    have address := alike.address
    rw [server] at address
    exact absurd address (by decide)
  · have told : hopInterval? (blankPorts.config ⟨{}, .hysteria blankPorts⟩
        (blankPorts.surroundings { listen := 41000 } false { cacheDir := "" } "")) = some "10s" := by
      decide
    have noPorts : hopPorts blankPorts.serverPorts = [] := by decide
    refine ⟨_, _, _, toOutbound_eq rfl _, render_eq rfl _ _ _ _, rfl, noPorts, told, ?_⟩
    intro alike
    exact alike.interval rfl (by rw [told]; rfl) noPorts

end Hysteria

end ProxyChain
