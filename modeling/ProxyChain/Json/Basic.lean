import ProxyChain.Decimal.Binary64

/-!
# JSON documents

A document keeps integers apart from doubles, and an object's members in the order of their keys.
The members are a list, so that documents can be taken apart by pattern matching; `Members.insert`
keeps the list sorted and free of repeated keys.
-/

namespace ProxyChain

/-- A JSON number. Integers are those of 64 bits, with or without a sign. -/
inductive Number where
  | integer (value : Int)
  | double (value : Decimal.Binary64)
  deriving DecidableEq, Repr

/-- A JSON document. -/
inductive Json where
  | null
  | bool (value : Bool)
  | number (value : Number)
  | string (value : String)
  | array (items : List Json)
  | object (members : List (String × Json))
  deriving Repr, Inhabited

/-- The members of an object. -/
abbrev Members := List (String × Json)

namespace Members

/-- The value under a key. -/
def get? (m : Members) (key : String) : Option Json := m.lookup key

/-- The value under a key, unless it is null. -/
def present? (m : Members) (key : String) : Option Json :=
  match m.get? key with
  | some .null => none
  | value => value

/-- Sets the value under a key; a value already there is replaced. -/
def insert (key : String) (value : Json) : Members → Members
  | [] => [(key, value)]
  | (k, v) :: rest =>
    if key = k then (key, value) :: rest
    else if key < k then (key, value) :: (k, v) :: rest
    else (k, v) :: insert key value rest

/-- Members from pairs in any order; of two values for one key the later one stays. -/
def ofList (fields : List (String × Json)) : Members :=
  fields.foldl (fun m field => m.insert field.1 field.2) []

/-- Members from the fields that are set. -/
def ofFields (fields : List (String × Option Json)) : Members :=
  ofList (fields.filterMap fun (key, value) => value.map fun v => (key, v))

/-- The keys, in order. -/
def keys (m : Members) : List String := m.map Prod.fst

/-- There is nothing under any key in no members. -/
@[simp] theorem get?_nil (key : String) : get? [] key = none := rfl

/-- The first member is found under its key; other keys are looked up in the rest. -/
@[simp] theorem get?_cons (field : String × Json) (m : Members) (key : String) :
    get? (field :: m) key = if key = field.1 then some field.2 else get? m key := by
  obtain ⟨k, v⟩ := field
  rw [get?, List.lookup_cons]
  by_cases h : key = k
  · simp [h]
  · have : (key == k) = false := by simpa using h
    simp [get?, h, this]

/-- A key that has just been set holds what it was set to, and no other key changes. -/
theorem get?_insert (m : Members) (key key' : String) (value : Json) :
    (m.insert key value).get? key' = if key' = key then some value else m.get? key' := by
  induction m with
  | nil => simp [insert]
  | cons field rest ih =>
    obtain ⟨k, v⟩ := field
    simp only [insert]
    split
    · next h => by_cases hk : key' = key <;> simp [hk, ← h]
    · next h =>
      split
      · by_cases hk : key' = key <;> simp [hk]
      · by_cases hk : key' = k
        · simp [hk, Ne.symm h]
        · simp [hk, ih]

end Members

namespace Json

/-- The members, if the document is an object. -/
def members? : Json → Option Members
  | .object m => some m
  | _ => none

/-- An integer. -/
def int (n : Int) : Json := .number (.integer n)

/-- An object with the given members, in any order. -/
def ofFields (fields : List (String × Json)) : Json := .object (Members.ofList fields)

/-- An array of strings. -/
def strings (items : List String) : Json := .array (items.map .string)

end Json

end ProxyChain
