/-!
# Tables

A table holds at most one value for a key. Setting a key forgets what it held before.
-/

namespace ProxyChain

/-- A table, as pairs of keys and values in no particular order. -/
abbrev Table (κ α : Type) := List (κ × α)

namespace Table

variable {κ α : Type} [BEq κ]

/-- The value of a key. -/
def get? (t : Table κ α) (key : κ) : Option α := t.lookup key

/-- Forgets the value of a key. -/
def erase (t : Table κ α) (key : κ) : Table κ α := t.filter fun entry => !(entry.1 == key)

/-- Sets the value of a key. -/
def set (t : Table κ α) (key : κ) (value : α) : Table κ α := (key, value) :: t.erase key

/-- The keys. -/
def keys (t : Table κ α) : List κ := t.map Prod.fst

/-- There is nothing under any key in an empty table. -/
@[simp] theorem get?_nil (key : κ) : get? ([] : Table κ α) key = none := rfl

/-- The first entry is found under its key; other keys are looked up in the rest. -/
theorem get?_cons [LawfulBEq κ] (entry : κ × α) (t : Table κ α) (key : κ) :
    get? (entry :: t) key = if key == entry.1 then some entry.2 else get? t key := by
  obtain ⟨k, a⟩ := entry
  rw [get?, List.lookup_cons]
  cases h : key == k <;> simp [get?]

/-- A key that has just been forgotten holds nothing, and no other key changes. -/
theorem get?_erase [LawfulBEq κ] (t : Table κ α) (key key' : κ) :
    (t.erase key).get? key' = if key' == key then none else t.get? key' := by
  induction t with
  | nil => simp [erase]
  | cons entry t ih =>
    by_cases h : key' = key
    · subst h
      by_cases he : entry.1 = key'
      · simp_all [erase]
      · simp_all [erase, get?_cons, Ne.symm he]
    · by_cases he : entry.1 = key <;> simp_all [erase, get?_cons]

/-- A key that has just been set holds what it was set to, and no other key changes. -/
theorem get?_set [LawfulBEq κ] (t : Table κ α) (key key' : κ) (value : α) :
    (t.set key value).get? key' = if key' == key then some value else t.get? key' := by
  by_cases h : key' = key
  · simp [set, get?_cons, h]
  · simp [set, get?_cons, h, get?_erase]

end Table

end ProxyChain
