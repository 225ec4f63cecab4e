import ProxyChain.Outbound.Endpoint
import ProxyChain.Proofs.Outbound.Multiplex

/-!
# The limit that counts

An outbound multiplexes only if its `multiplex` member is an object that says `true` outright. Of the
limits in this object those count whose text is a positive integer of 64 bits, and of these the last one,
in an order that is not that of the document (`Limited`). The number is positive then, so that what is
written from it gives one limit and no more (`Endpoint.readFrom_multiplex`).
-/

namespace ProxyChain

namespace Multiplex

/-- Where a limit stands in the order in which they are looked at. -/
def Limit.place : Limit → Nat
  | maxConnections => 0
  | minStreams => 1
  | maxStreams => 2

/-- An outbound turns multiplexing on by an object. -/
structure SwitchedOn (doc m : Members) : Prop where
  object : doc.get? "multiplex" = some (.object m)
  enabled : m.get? "enabled" = some (.bool true)

/-- An object gives a number for a limit: one that its value means, that is positive and fits 64 bits. -/
structure Gives (m : Members) (limit : Limit) (n : Int) : Prop where
  means : ∃ value, m.get? limit.key = some value ∧ value.Means n
  positive : 0 < n
  fits : n ≤ Int64.maxValue.toInt

/-- The limit that counts and its number, which is cut off at the greatest value of 32 bits. -/
inductive Limited (m : Members) : Limit → Int → Prop where
  | last {limit : Limit} {n : Int} (gives : Gives m limit n)
      (noLater : ∀ later, limit.place < later.place → ∀ n', ¬ Gives m later n') :
      Limited m limit (min n Int32.maxValue.toInt)
  | unset (none : ∀ limit n, ¬ Gives m limit n) : Limited m .maxConnections 8

section Object

variable {m : Members} {limit : Limit} {n : Int64}

/-- A number that is given is one of 64 bits. -/
lemma Gives.exists_toInt_eq {k : Int} (gives : Gives m limit k) : ∃ n : Int64, n.toInt = k := by
  have least : Int64.minValue.toInt = -2 ^ 63 := rfl
  have positive := gives.positive
  exact ⟨Int64.ofInt k, Int64.toInt_ofInt_of_le (by omega) (Int.lt_add_one_of_le gives.fits)⟩

/-- The number that is given is the one that is read, if that is positive. -/
lemma gives_toInt_iff : Gives m limit n.toInt ↔ m.intAt limit.key = n ∧ 0 < n := by
  constructor
  · rintro ⟨⟨value, found, means⟩, positive, -⟩
    refine ⟨?_, Int64.lt_iff_toInt_lt.2 positive⟩
    rw [Members.intAt, found, Option.bind_some, Json.int64?_eq_some_iff.2 means, Option.getD_some]
  · rintro ⟨rfl, positive⟩
    rw [Members.intAt] at positive ⊢
    cases read : (m.get? limit.key).bind Json.int64? with
    | none =>
      -- Zero stands for a number that is not given, and it is not positive.
      rw [read] at positive
      exact absurd positive (by decide)
    | some n =>
      rw [read, Option.getD_some] at positive
      obtain ⟨value, found, reads⟩ := Option.bind_eq_some_iff.1 read
      exact ⟨⟨value, found, Json.int64?_eq_some_iff.1 reads⟩, Int64.lt_iff_toInt_lt.1 positive,
        n.toInt_le⟩

/-- A limit that is given takes effect. -/
lemma withLimit_of_gives (gives : Gives m limit n.toInt) (settings : Multiplex) :
    withLimit m settings limit = { settings with limit, number := capInt32 n } := by
  obtain ⟨number, positive⟩ := gives_toInt_iff.1 gives
  simp only [withLimit, number, if_pos positive]

/-- One that is not given changes nothing. -/
lemma withLimit_of_not_gives (none : ∀ n, ¬ Gives m limit n) (settings : Multiplex) :
    withLimit m settings limit = settings :=
  if_neg fun positive => none _ (gives_toInt_iff.2 ⟨rfl, positive⟩)

/-- Of limits that are looked at one after the other the last one that is given is left. -/
lemma foldl_withLimit_cases (m : Members) (order : List Limit) (settings : Multiplex) :
    (∃ (before : List Limit) (limit : Limit) (after : List Limit) (n : Int64), order = before ++ limit :: after ∧ Gives m limit n.toInt ∧
      (∀ later ∈ after, ∀ n', ¬ Gives m later n') ∧
      order.foldl (withLimit m) settings = { settings with limit, number := capInt32 n }) ∨
    (∀ limit ∈ order, ∀ n, ¬ Gives m limit n) ∧ order.foldl (withLimit m) settings = settings := by
  induction order using List.reverseRecOn with
  | nil => exact .inr ⟨nofun, rfl⟩
  | append_singleton order limit ih =>
    rw [List.foldl_append, List.foldl_cons, List.foldl_nil]
    by_cases given : ∃ n, Gives m limit n
    · obtain ⟨_, gives⟩ := given
      obtain ⟨n, rfl⟩ := gives.exists_toInt_eq
      refine .inl ⟨order, limit, [], n, rfl, gives, nofun, ?_⟩
      rw [withLimit_of_gives gives]
      obtain ⟨_, _, _, _, _, _, _, same⟩ | ⟨-, same⟩ := ih
      · rw [same]
      · rw [same]
    · have unset : ∀ n, ¬ Gives m limit n := fun n gives => given ⟨n, gives⟩
      rw [withLimit_of_not_gives unset]
      obtain ⟨before, last, after, n, rfl, gives, noLater, same⟩ | ⟨none, same⟩ := ih
      · refine .inl ⟨before, last, after ++ [limit], n, ?_, gives, ?_, same⟩
        · rw [List.append_assoc, List.cons_append]
        · exact List.forall_mem_append.2 ⟨noLater, List.forall_mem_singleton.2 unset⟩
      · exact .inr ⟨List.forall_mem_append.2 ⟨none, List.forall_mem_singleton.2 unset⟩, same⟩

/-- Every limit has a place in the order. -/
lemma mem_limitOrder (limit : Limit) : limit ∈ limitOrder := by cases limit <;> decide

/-- The order is that of the places. -/
lemma pairwise_limitOrder : limitOrder.Pairwise (·.place < ·.place) := by decide

/-- Whatever has a later place is looked at later. -/
lemma mem_of_place_lt {before after : List Limit} {later : Limit}
    (order : limitOrder = before ++ limit :: after) (h : limit.place < later.place) :
    later ∈ after := by
  have sorted := pairwise_limitOrder
  have mem := mem_limitOrder later
  rw [order] at sorted mem
  rcases List.mem_append.1 mem with mem | mem
  · have earlier := (List.pairwise_append.1 sorted).2.2 later mem limit List.mem_cons_self
    omega
  · rcases List.mem_cons.1 mem with rfl | mem
    · omega
    · exact mem

/-- A positive number is capped at the largest one. -/
lemma toInt_capInt32_of_pos (positive : 0 < n) :
    (capInt32 n).toInt = min n.toInt Int32.maxValue.toInt := by
  have pos : 0 < n.toInt := Int64.lt_iff_toInt_lt.1 positive
  have least : Int32.minValue.toInt = -2 ^ 31 := rfl
  rw [toInt_capInt32, least]
  split_ifs <;> omega

/-- Settings with the default limit are given the one that counts. -/
lemma limited_foldl (settings : Multiplex) (limit : settings.limit = .maxConnections)
    (number : settings.number = 8) :
    Limited m (limitOrder.foldl (withLimit m) settings).limit
      (limitOrder.foldl (withLimit m) settings).number.toInt := by
  obtain ⟨before, last, after, n, order, gives, noLater, same⟩ | ⟨none, same⟩ :=
    foldl_withLimit_cases m limitOrder settings
  · have positive : 0 < n := Int64.lt_iff_toInt_lt.2 gives.positive
    rw [same]
    dsimp only
    rw [toInt_capInt32_of_pos positive]
    exact .last gives fun later after => noLater later (mem_of_place_lt order after)
  · rw [same, limit, number]
    exact .unset fun limit => none limit (mem_limitOrder limit)

/-- A number that was capped is still positive. -/
lemma Limited.pos {number : Int} (limited : Limited m limit number) : 0 < number := by
  cases limited with
  | last gives _ =>
    have positive := gives.positive
    have greatest : Int32.maxValue.toInt = 2 ^ 31 - 1 := rfl
    omega
  | unset _ => decide

end Object

/-- If multiplexing is on, what is read is limited. -/
lemma ofMembers_of_enabled {m : Members} (on : m.get? "enabled" = some (.bool true)) :
    (ofMembers m).enabled = true ∧ Limited m (ofMembers m).limit (ofMembers m).number.toInt := by
  have settings (start : Multiplex) : (limitOrder.foldl (withLimit m) start).enabled = start.enabled := by
    obtain ⟨_, _, _, _, _, _, _, same⟩ | ⟨-, same⟩ := foldl_withLimit_cases m limitOrder start
    · rw [same]
    · rw [same]
  rw [ofMembers, on]
  exact ⟨settings _, limited_foldl _ rfl rfl⟩

/-- If multiplexing is off, nothing else is read. -/
lemma ofMembers_of_not_enabled {m : Members} (off : m.get? "enabled" ≠ some (.bool true)) :
    ofMembers m = {} := by
  unfold ofMembers
  split
  · next on => exact absurd on off
  · rfl

/-- An object gives a positive number for one limit and nothing for the others. -/
def OneLimit (m : Members) : Prop :=
  ∃ (limit : Limit) (n : Int), m.get? limit.key = some (.int n) ∧ 0 < n ∧
    ∀ other ≠ limit, m.get? other.key = none

/-- Settings with a positive number are written with one limit. -/
lemma exists_oneLimit {settings : Multiplex} (on : settings.enabled = true)
    (positive : 0 < settings.number) (s : Settings) :
    ∃ m, settings.toJson? s = some (.object m) ∧ OneLimit m := by
  refine ⟨settings.onMembers s, ?_, settings.givenLimit, settings.givenNumber.toInt, ?_, ?_, ?_⟩
  · rw [toJson?, if_pos on]
    rfl
  · rw [get?_limit, if_pos rfl]
  · unfold givenNumber
    split
    · decide
    · exact Int32.lt_iff_toInt_lt.1 positive
  · intro other different
    rw [get?_limit, if_neg different]

/-- What the settings that are read from an outbound owe to it. -/
structure ReadFrom (doc : Members) (settings : Multiplex) : Prop where
  off : (∀ m, ¬ SwitchedOn doc m) → settings = {}
  on {m : Members} : SwitchedOn doc m →
    settings.enabled = true ∧ Limited m settings.limit settings.number.toInt
  positive : settings.enabled = true → 1 ≤ settings.number
  written : settings.enabled = true →
    ∀ s, ∃ m, settings.toJson? s = some (.object m) ∧ OneLimit m

end Multiplex

open Multiplex

/-- The multiplexing that is read from an outbound is the default, unless it has a `multiplex` object that
says `true` outright. It is on then, with the last limit that the object gives, and it is written with
one limit. -/
theorem Endpoint.readFrom_multiplex (doc : Members) : ReadFrom doc (ofMembers doc).multiplex := by
  have off : (∀ m, ¬ SwitchedOn doc m) → (ofMembers doc).multiplex = {} := by
    intro never
    dsimp only [ofMembers]
    cases found : doc.objectAt? "multiplex" with
    | none => rfl
    | some m =>
      have object := Members.objectAt?_eq_some_iff.1 found
      exact ofMembers_of_not_enabled fun enabled => never m ⟨object, enabled⟩
  have on {m : Members} (switched : SwitchedOn doc m) :
      (ofMembers doc).multiplex = Multiplex.ofMembers m := by
    have found := Members.objectAt?_eq_some_iff.2 switched.object
    simp only [ofMembers, found, Option.map_some, Option.getD_some]
  have positive (enabled : (ofMembers doc).multiplex.enabled = true) :
      0 < (ofMembers doc).multiplex.number := by
    by_cases switched : ∃ m, SwitchedOn doc m
    · obtain ⟨m, switched⟩ := switched
      rw [on switched]
      exact Int32.lt_iff_toInt_lt.2 (ofMembers_of_enabled switched.enabled).2.pos
    · rw [off fun m h => switched ⟨m, h⟩] at enabled
      cases enabled
  refine ⟨off, ?_, ?_, ?_⟩
  · intro m switched
    rw [on switched]
    exact ofMembers_of_enabled switched.enabled
  · intro enabled
    exact Int32.le_iff_toInt_le.2 (Int32.lt_iff_toInt_lt.1 (positive enabled))
  · intro enabled
    exact exists_oneLimit enabled (positive enabled)

/-- The number of streams is looked at last, wherever it stands in the object, and a limit of zero is none. -/
example : (Endpoint.ofMembers [("multiplex", .object
    [("enabled", .bool true), ("max_connections", .int 2), ("max_streams", .string " 9999999999 "),
     ("min_streams", .int 0)])]).multiplex =
    { enabled := true, limit := .maxStreams, number := 2147483647 } := by decide

end ProxyChain
