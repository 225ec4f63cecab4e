import ProxyChain.Proofs.Outbound.Multiplex
import ProxyChain.Proofs.Outbound.Null

/-!
# Whether integers saturate

An integer in a Hysteria outbound, written as a number or as a string, is read into 32 bits. One that is
too large gives the greatest value, but so does one that is too small, and one that does not even fit 64
bits gives zero. What is read is the nearest value of 32 bits exactly between the least value of 32 bits
and the greatest of 64 bits, and there it grows with the integer
(`Hysteria.NumberField.read?_eq_clamp_iff`).
-/

namespace ProxyChain

/-- An integer as a document gives it, as a number or as the string of its digits. -/
inductive Json.Spells (n : Int) : Json → Prop where
  | number : Spells n (.int n)
  | string : Spells n (.string (Text.showInt n))

/-- Both give the integer, if it fits. -/
lemma Json.Spells.int64?_eq {n : Int} {value : Json} (spelt : value.Spells n) :
    value.int64? = Text.fitInt64? n := by
  cases spelt with
  | number => exact int64?_of_text rfl
  | string => exact int64?_of_text rfl

/-- The value of 32 bits that is nearest to an integer. -/
def clampInt32 (n : Int) : Int := max Int32.minValue.toInt (min n Int32.maxValue.toInt)

/-- What is cut off at the bounds keeps its order. -/
lemma clampInt32_le_clampInt32 {n n' : Int} (le : n ≤ n') : clampInt32 n ≤ clampInt32 n' :=
  max_le_max_left _ (min_le_min_right _ le)

/-- The integers of which the nearest value is read. -/
def Saturates (n : Int) : Prop := Int32.minValue.toInt ≤ n ∧ n ≤ Int64.maxValue.toInt
  deriving Decidable

namespace Hysteria

/-- What is read of an integer. Zero stands for all that do not fit 64 bits. -/
lemma toInt_cappedInt32 {n : Int} {value : Json} (spelt : value.Spells n) :
    (cappedInt32 value).toInt =
      if Int64.minValue.toInt ≤ n ∧ n ≤ Int64.maxValue.toInt then
        if Int32.minValue.toInt ≤ n ∧ n ≤ Int32.maxValue.toInt then n else Int32.maxValue.toInt
      else 0 := by
  rw [cappedInt32, spelt.int64?_eq, Text.fitInt64?]
  split
  · next fits =>
    have same : (Int64.ofInt n).toInt = n :=
      Int64.toInt_ofInt_of_le fits.1 (Int.lt_add_one_of_le fits.2)
    rw [Option.map_some, Option.getD_some, Multiplex.toInt_capInt32, same]
  · rfl

/-- The nearest value is read where the two ways to fail do not matter. -/
lemma toInt_cappedInt32_eq_clamp_iff {n : Int} {value : Json} (spelt : value.Spells n) :
    (cappedInt32 value).toInt = clampInt32 n ↔ Saturates n := by
  have least : Int32.minValue.toInt = -2 ^ 31 := rfl
  have greatest : Int32.maxValue.toInt = 2 ^ 31 - 1 := rfl
  have least' : Int64.minValue.toInt = -2 ^ 63 := rfl
  have greatest' : Int64.maxValue.toInt = 2 ^ 63 - 1 := rfl
  rw [toInt_cappedInt32 spelt, clampInt32, Saturates, least, greatest, least', greatest']
  split_ifs <;> omega

/-- The members of a Hysteria outbound that are integers of 32 bits. -/
inductive NumberField where
  | uploadMbps
  | downloadMbps
  | connectionReceiveWindow
  | streamReceiveWindow
  deriving DecidableEq, Repr

namespace NumberField

/-- The key of a member. -/
def key : NumberField → String
  | uploadMbps => "up_mbps"
  | downloadMbps => "down_mbps"
  | connectionReceiveWindow => "recv_window_conn"
  | streamReceiveWindow => "recv_window"

/-- The types of outbound that have the member. Only the first generation has receive windows. -/
def types : NumberField → List OutboundType
  | uploadMbps | downloadMbps => [.hysteria, .hysteria2]
  | connectionReceiveWindow | streamReceiveWindow => [.hysteria]

/-- The setting that the member gives. -/
def setting : NumberField → Hysteria → Int32
  | uploadMbps => Hysteria.uploadMbps
  | downloadMbps => Hysteria.downloadMbps
  | connectionReceiveWindow => Hysteria.connectionReceiveWindow
  | streamReceiveWindow => Hysteria.streamReceiveWindow

/-- The setting of the profile that is read from an outbound. -/
def read? (field : NumberField) (doc : Members) : Option Int32 :=
  match Profile.ofOutbound? doc with
  | some ⟨_, .hysteria h⟩ => some (field.setting h)
  | _ => none

/-- An outbound that has the member, with an integer in it. -/
structure Given (field : NumberField) (n : Int) (doc : Members) : Prop where
  type : ∃ type ∈ field.types, OutboundType.ofMembers? doc = some type
  value : ∃ value, doc.get? field.key = some value ∧ value.Spells n

variable {field : NumberField} {n : Int} {doc : Members}

/-- An integer is left to the kind of outbound. -/
lemma get?_unmatched {value : Json} (found : doc.get? field.key = some value)
    (spelt : value.Spells n) : (Endpoint.unmatched doc).get? field.key = some value := by
  have own : Endpoint.keys.contains field.key = false := by cases field <;> decide
  refine Members.get?_filter_of_pos found ?_
  simp only [own, Bool.not_false, Bool.true_and]
  cases spelt <;> rfl

/-- Where a member is given it is read. -/
lemma read?_of_given (given : field.Given n doc) : ∃ value, value.Spells n ∧
    field.read? doc = some (cappedInt32 value) := by
  obtain ⟨type, has, known⟩ := given.type
  obtain ⟨value, found, spelt⟩ := given.value
  have read : cappedAt (Endpoint.unmatched doc) field.key = cappedInt32 value := by
    rw [cappedAt, get?_unmatched found spelt]
    rfl
  have profile : Profile.ofOutbound? doc = some (Profile.ofOutboundType doc type) :=
    congrArg (Option.map _) known
  refine ⟨value, spelt, ?_⟩
  rw [read?, profile, ← read]
  -- The reader of each generation looks under the keys of the members that it has.
  cases field <;> cases type
  all_goals first
    | rfl
    | exact absurd has (by decide)

/-- What is read from a member with an integer in it is the nearest value of 32 bits exactly for those
from the least value of 32 bits to the greatest of 64 bits. There it grows with the integer. -/
theorem read?_eq_clamp_iff (given : field.Given n doc) : ∃ read, field.read? doc = some read ∧
    (read.toInt = clampInt32 n ↔ Saturates n) ∧
    ∀ {n' : Int} {doc' : Members}, field.Given n' doc' → Saturates n → Saturates n' → n ≤ n' →
      ∃ read', field.read? doc' = some read' ∧ read ≤ read' := by
  obtain ⟨value, spelt, reads⟩ := read?_of_given given
  refine ⟨_, reads, toInt_cappedInt32_eq_clamp_iff spelt, ?_⟩
  intro n' doc' given' saturates saturates' le
  obtain ⟨value', spelt', reads'⟩ := read?_of_given given'
  refine ⟨_, reads', Int32.le_iff_toInt_le.2 ?_⟩
  rw [(toInt_cappedInt32_eq_clamp_iff spelt).2 saturates,
    (toInt_cappedInt32_eq_clamp_iff spelt').2 saturates']
  exact clampInt32_le_clampInt32 le

/-- A number that is negative and the digits of one that does not fit. -/
theorem read?_eq_clamp_iff_mixed :
    Given uploadMbps (-5) [("type", .string "hysteria"), ("up_mbps", .int (-5))] ∧
      Given uploadMbps 4294967296
        [("type", .string "hysteria2"), ("up_mbps", .string "4294967296")] ∧
      Saturates (-5) ∧ Saturates 4294967296 ∧ ∃ read read',
        read? uploadMbps [("type", .string "hysteria"), ("up_mbps", .int (-5))] = some read ∧
        read? uploadMbps [("type", .string "hysteria2"), ("up_mbps", .string "4294967296")]
          = some read' ∧
        read.toInt = -5 ∧ read ≤ read' := by
  have negative : Given uploadMbps (-5) [("type", .string "hysteria"), ("up_mbps", .int (-5))] :=
    ⟨⟨.hysteria, by decide, rfl⟩, _, rfl, .number⟩
  have tooLarge : Given uploadMbps 4294967296
      [("type", .string "hysteria2"), ("up_mbps", .string "4294967296")] :=
    ⟨⟨.hysteria2, by decide, rfl⟩, _, rfl, .string⟩
  have saturates : Saturates (-5) := by decide
  have saturates' : Saturates 4294967296 := by decide
  obtain ⟨read, reads, nearest, grows⟩ := read?_eq_clamp_iff negative
  obtain ⟨read', reads', le⟩ := grows tooLarge saturates saturates' (by decide)
  exact ⟨negative, tooLarge, saturates, saturates', read, read', reads, reads',
    nearest.2 saturates, le⟩

/-- A number below the least value gives the greatest, more than zero does, and a number above 64 bits
gives zero. -/
theorem read?_ne_clamp :
    Given uploadMbps (-4294967296)
        [("type", .string "hysteria"), ("up_mbps", .int (-4294967296))] ∧
      read? uploadMbps [("type", .string "hysteria"), ("up_mbps", .int (-4294967296))]
        = some 2147483647 ∧
      clampInt32 (-4294967296) = -2147483648 ∧
      Given uploadMbps 0 [("type", .string "hysteria"), ("up_mbps", .int 0)] ∧
      read? uploadMbps [("type", .string "hysteria"), ("up_mbps", .int 0)] = some 0 ∧
      Given uploadMbps 18446744073709551615
        [("type", .string "hysteria"), ("up_mbps", .int 18446744073709551615)] ∧
      read? uploadMbps [("type", .string "hysteria"), ("up_mbps", .int 18446744073709551615)]
        = some 0 ∧
      clampInt32 18446744073709551615 = 2147483647 := by
  have given (n : Int) :
      Given uploadMbps n [("type", .string "hysteria"), ("up_mbps", .int n)] :=
    ⟨⟨.hysteria, by decide, rfl⟩, _, rfl, .number⟩
  exact ⟨given _, by decide, by decide, given _, by decide, given _, by decide, by decide⟩

end NumberField

end Hysteria

end ProxyChain
