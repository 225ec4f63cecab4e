import ProxyChain.Proofs.Json.Numeral
import ProxyChain.Proofs.Json.Orderly

/-!
# Documents with proper numbers

Every document that was parsed is printable (`printable_of_parse`), and so is every object that is made of
printable fields (`printable_ofFields`).
-/

namespace ProxyChain.Json

/-- Every number in the document is proper. -/
inductive Printable : Json → Prop where
  | null : Printable .null
  | bool (value : Bool) : Printable (.bool value)
  | number {value : Number} (proper : value.Proper) : Printable (.number value)
  | string (value : String) : Printable (.string value)
  | array {items : List Json} (inside : ∀ item ∈ items, Printable item) : Printable (.array items)
  | object {members : Members} (inside : ∀ field ∈ members, Printable field.2) :
      Printable (.object members)

attribute [simp] Printable.null Printable.bool Printable.string

/-- An object of fields that can be printed can be printed. -/
lemma Printable.ofList {fields : List (String × Json)} (inside : ∀ field ∈ fields, Printable field.2) :
    Printable (.object (Members.ofList fields)) :=
  .object fun field mem => inside field (Members.mem_ofList mem)

/-- It stays so with one more member that can be printed. -/
lemma Printable.insert {m : Members} {key : String} {value : Json} (h : Printable (.object m))
    (new : Printable value) : Printable (.object (m.insert key value)) := by
  cases h with
  | object inside =>
    refine .object fun field mem => ?_
    rcases Members.mem_insert mem with rfl | mem
    · exact new
    · exact inside field mem

/-- An integer can be printed. -/
@[simp] lemma printable_int (n : Int) : Printable (int n) := .number trivial

/-- Texts can be printed. -/
@[simp] lemma printable_strings (items : List String) : Printable (strings items) := by
  refine .array fun item mem => ?_
  obtain ⟨s, -, rfl⟩ := List.mem_map.1 mem
  exact .string s

/-- A document that may not be there is printable if it is. -/
def PrintableIfSet (value? : Option Json) : Prop := ∀ value ∈ value?, Printable value

section

variable {α : Type} {a b : Option Json}

/-- What is left out can be printed. -/
@[simp] lemma printableIfSet_none : PrintableIfSet none := nofun

/-- What is set can be printed if the value can. -/
@[simp] lemma printableIfSet_some {value : Json} : PrintableIfSet (some value) ↔ Printable value := by
  simp [PrintableIfSet]

/-- What is set or left out can be printed if every value can. -/
@[simp] lemma printableIfSet_map {toJson : α → Json} (each : ∀ x, Printable (toJson x))
    (x? : Option α) : PrintableIfSet (x?.map toJson) := by
  intro value mem
  obtain ⟨x, -, rfl⟩ := Option.map_eq_some_iff.1 mem
  exact each x

/-- Of two ways both have to be fit for print. -/
@[simp] lemma printableIfSet_ite {c : Prop} [Decidable c] (first : PrintableIfSet a)
    (second : PrintableIfSet b) : PrintableIfSet (if c then a else b) := by
  split
  · exact first
  · exact second

end

/-- Fields that are not set do not matter. -/
lemma printable_ofFields {fields : List (String × Option Json)}
    (inside : ∀ field ∈ fields, PrintableIfSet field.2) :
    Printable (.object (Members.ofFields fields)) := by
  refine .ofList fun field mem => ?_
  obtain ⟨⟨key, value?⟩, memFields, set⟩ := List.mem_filterMap.1 mem
  obtain ⟨value, held, rfl⟩ := Option.map_eq_some_iff.1 set
  exact inside _ memFields value held

/-- A document that can be printed can be made of parts that can. -/
lemma Printable.inherited : Inherited Printable where
  null := .null
  bool := .bool
  number read := .number (Number.proper_of_ofLiteral? read)
  string := .string
  array := .array
  object := .ofList

/-- A document that was parsed is printable. -/
theorem printable_of_parse {text : String} {doc : Json} (h : parse text = .ok doc) : Printable doc :=
  Printable.inherited.of_parse h

end ProxyChain.Json
