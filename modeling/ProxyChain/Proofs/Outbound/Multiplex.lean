import ProxyChain.Outbound.Multiplex
import ProxyChain.Proofs.Json.Loose

/-!
# Multiplexing as an outbound carries it

An outbound says nothing about multiplexing that is off, fixes the number of connections when the
bandwidth is fixed, and carries no limit that is not positive. What is read from it is `returned`, and
this is what was written exactly for `Portable` settings.
-/

namespace ProxyChain.Multiplex

/-- The settings as they come back from an outbound. -/
def returned (m : Multiplex) : Multiplex :=
  if m.enabled then
    if m.brutal then { m with limit := .maxConnections, number := 1 }
    else if m.number ≤ 0 then { m with limit := .maxConnections, number := 8 }
    else m
  else {}

/-- Settings that an outbound carries as they are. -/
structure Portable (m : Multiplex) : Prop where
  off : m.enabled = false → m = {}
  brutal : m.enabled = true → m.brutal = true → m.limit = .maxConnections ∧ m.number = 1
  limited : m.enabled = true → m.brutal = false → 0 < m.number

/-- Settings come back as they are exactly if they are portable. -/
lemma returned_eq_self_iff (m : Multiplex) : m.returned = m ↔ m.Portable := by
  obtain ⟨enabled, padding, protocol, limit, number, brutal⟩ := m
  cases enabled with
  | false =>
    constructor
    · intro same
      exact ⟨fun _ => same.symm, nofun, nofun⟩
    · intro portable
      exact (portable.off rfl).symm
  | true =>
    cases brutal with
    | true =>
      simp only [returned, if_true, mk.injEq, true_and, and_true]
      constructor
      · rintro ⟨limit, number⟩
        exact ⟨nofun, fun _ _ => ⟨limit.symm, number.symm⟩, nofun⟩
      · intro portable
        exact (portable.brutal rfl rfl).imp Eq.symm Eq.symm
    | false =>
      simp only [returned, if_true, Bool.false_eq_true, if_false]
      constructor
      · intro same
        refine ⟨nofun, nofun, fun _ _ => ?_⟩
        split at same
        · next notPositive =>
          -- The number it would be set to is positive.
          have eight : 8 = number := congrArg Multiplex.number same
          subst eight
          exact absurd notPositive (by decide)
        · next positive => exact Int32.not_le.1 positive
      · intro portable
        exact if_neg (Int32.not_le.2 (portable.limited rfl rfl))

/-- The greatest value of 32 bits stands for all that do not fit them. -/
lemma toInt_capInt32 (n : Int64) : (capInt32 n).toInt =
    if Int32.minValue.toInt ≤ n.toInt ∧ n.toInt ≤ Int32.maxValue.toInt then n.toInt
    else Int32.maxValue.toInt := by
  rw [capInt32, Text.fitInt32?]
  split
  · next fits =>
    rw [Option.getD_some]
    exact Int32.toInt_ofInt_of_le fits.1 (Int.lt_add_one_of_le fits.2)
  · rfl

/-- A number of 32 bits is not capped. -/
lemma capInt32_toInt64 (n : Int32) : capInt32 n.toInt64 = n := by
  rw [capInt32, Int32.toInt_toInt64, Text.fitInt32?_toInt, Option.getD_some]

/-- A number is positive in 64 bits if and only if it is in 32. -/
lemma toInt64_pos (n : Int32) : 0 < n.toInt64 ↔ 0 < n := by
  rw [Int64.lt_iff_toInt_lt, Int32.lt_iff_toInt_lt, Int32.toInt_toInt64]
  rfl

section Limits

variable {m : Members} {limit : Limit} {number : Int32}

/-- A limit that is given takes effect if it is positive. -/
lemma withLimit_of_get? (h : m.get? limit.key = some (.int number.toInt)) (settings : Multiplex) :
    withLimit m settings limit = if 0 < number then { settings with limit, number } else settings := by
  simp only [withLimit, Members.intAt_of_get? h, toInt64_pos, capInt32_toInt64]

/-- Settings stay as they are without a member for the limit. -/
lemma withLimit_of_get?_eq_none (h : m.get? limit.key = none) (settings : Multiplex) :
    withLimit m settings limit = settings := by
  simp only [withLimit, Members.intAt, h, Option.bind_none, Option.getD_none]
  exact if_neg (by decide)

/-- A limit that is the only one given takes effect if it is positive. -/
lemma foldl_withLimit (given : m.get? limit.key = some (.int number.toInt))
    (others : ∀ other ≠ limit, m.get? other.key = none) (settings : Multiplex) :
    limitOrder.foldl (withLimit m) settings =
      if 0 < number then { settings with limit, number } else settings := by
  have step (settings : Multiplex) (other : Limit) : withLimit m settings other =
      if other = limit then (if 0 < number then { settings with limit, number } else settings)
      else settings := by
    split
    · next same =>
      subst same
      exact withLimit_of_get? given settings
    · next different => exact withLimit_of_get?_eq_none (others other different) settings
  simp only [limitOrder, List.foldl_cons, List.foldl_nil, step]
  cases limit <;> rfl

end Limits

/-- The members of an outbound that multiplexes. -/
def onMembers (m : Multiplex) (s : Settings) : Members :=
  Members.ofList ([("enabled", .bool true), ("padding", .bool m.padding),
    ("protocol", .string m.protocol.name)] ++ m.limitFields s)

/-- The one limit that an outbound gives. -/
def givenLimit (m : Multiplex) : Limit := if m.brutal then .maxConnections else m.limit

/-- What an outbound gives as the limit. -/
def givenNumber (m : Multiplex) : Int32 := if m.brutal then 1 else m.number

variable (m : Multiplex) (s : Settings)

/-- Members that are on are the limits, and behind them the protocol, the padding and the switch. -/
lemma get?_onMembers (key : String) : (m.onMembers s).get? key =
    (Members.get? (m.limitFields s).reverse key).or
      (Members.get? [("protocol", .string m.protocol.name), ("padding", .bool m.padding),
        ("enabled", .bool true)] key) := by
  rw [onMembers, Members.get?_ofList, List.reverse_append, Members.get?, List.lookup_append]
  rfl

/-- Only the limit that was given is found. -/
lemma get?_limit (other : Limit) : (m.onMembers s).get? other.key =
    if other = m.givenLimit then some (.int m.givenNumber.toInt) else none := by
  obtain ⟨enabled, padding, protocol, limit, number, brutal⟩ := m
  rw [get?_onMembers]
  cases brutal with
  | true => cases other <;> rfl
  | false => cases other <;> cases limit <;> rfl

/-- The limits leave the other members alone. -/
lemma get?_setting {key : String} (h : key ∈ ["enabled", "padding", "protocol"]) :
    (m.onMembers s).get? key = Members.get? [("protocol", .string m.protocol.name),
      ("padding", .bool m.padding), ("enabled", .bool true)] key := by
  obtain ⟨enabled, padding, protocol, limit, number, brutal⟩ := m
  rw [get?_onMembers]
  simp only [List.mem_cons, List.not_mem_nil, or_false] at h
  cases brutal with
  | true => rcases h with rfl | rfl | rfl <;> rfl
  | false => rcases h with rfl | rfl | rfl <;> cases limit <;> rfl

/-- The flag for brutal congestion control is read as it is written. -/
lemma brutal_onMembers :
    (((m.onMembers s).objectAt? "brutal").map fun b => b.flag "enabled").getD false = m.brutal := by
  obtain ⟨enabled, padding, protocol, limit, number, brutal⟩ := m
  rw [Members.objectAt?, get?_onMembers]
  cases brutal with
  | true => exact Members.flag_of_get? (by simp [Members.get?_ofList])
  | false => cases limit <;> rfl

/-- Settings that are on are read as they come back. -/
lemma ofMembers_onMembers (on : m.enabled = true) : ofMembers (m.onMembers s) = m.returned := by
  have onAt : (m.onMembers s).get? "enabled" = some (.bool true) := m.get?_setting s (by decide)
  have paddingAt : (m.onMembers s).get? "padding" = some (.bool m.padding) :=
    m.get?_setting s (by decide)
  have protocolAt : (m.onMembers s).get? "protocol" = some (.string m.protocol.name) :=
    m.get?_setting s (by decide)
  have given : (m.onMembers s).get? m.givenLimit.key = some (.int m.givenNumber.toInt) := by
    rw [get?_limit, if_pos rfl]
  have others (other : Limit) (h : other ≠ m.givenLimit) : (m.onMembers s).get? other.key = none := by
    rw [get?_limit, if_neg h]
  rw [ofMembers, onAt]
  dsimp only
  rw [Members.flag_of_get? paddingAt, Members.textAt_of_get? protocolAt, Protocol.ofName_name,
    brutal_onMembers, foldl_withLimit given others]
  obtain ⟨enabled, padding, protocol, limit, number, brutal⟩ := m
  obtain rfl : enabled = true := on
  cases brutal with
  | true => rfl
  | false =>
    by_cases positive : 0 < number
    · have notLe : ¬ number ≤ 0 := Int32.not_le.2 positive
      simp [givenLimit, givenNumber, returned, positive, notLe]
    · have le : number ≤ 0 := Int32.not_lt.1 positive
      simp [givenNumber, returned, positive, le]

/-- What is read from the outbound of a profile is `returned`. -/
lemma ofMembers_toJson? :
    (((m.toJson? s).bind Json.members?).map ofMembers).getD {} = m.returned := by
  rw [toJson?]
  cases on : m.enabled with
  | false => rw [returned, on]; rfl
  | true => exact m.ofMembers_onMembers s on

end ProxyChain.Multiplex
