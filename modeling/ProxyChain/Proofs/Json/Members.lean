import ProxyChain.Json.Basic
import Mathlib.Data.List.Induction
import Mathlib.Data.List.Nodup
import Mathlib.Data.String.Basic

/-!
# What is found in an object

An object that was made of fields holds under each key the value of the field, if no two fields have
the same key (`get?_ofFields`), and nothing under any other. Inserting keeps the keys in order
(`Sorted`), so that no key occurs twice and taking members out leaves all others in their places
(`get?_filter`).
-/

namespace ProxyChain.Members

/-- Of two values for one key the later one is found. -/
lemma get?_ofList (fields : List (String × Json)) (key : String) :
    (ofList fields).get? key = get? fields.reverse key := by
  -- The last field to be set decides, so the fields are taken off from the right.
  induction fields using List.reverseRecOn with
  | nil => rfl
  | append_singleton fields field ih =>
    have last : ofList (fields ++ [field]) = (ofList fields).insert field.1 field.2 := by
      simp only [ofList, List.foldl_append, List.foldl_cons, List.foldl_nil]
    rw [last, get?_insert, List.reverse_append, ih]
    exact (get?_cons field fields.reverse key).symm

/-- A key that no field has is not found. -/
lemma get?_ofFields_eq_none {fields : List (String × Option Json)} {key : String}
    (h : key ∉ fields.map Prod.fst) : (ofFields fields).get? key = none := by
  rw [ofFields, get?_ofList, get?, List.lookup_eq_none_iff]
  intro field mem
  obtain ⟨⟨key', value⟩, memFields, set⟩ := List.mem_filterMap.1 (List.mem_reverse.1 mem)
  obtain ⟨v, -, rfl⟩ := Option.map_eq_some_iff.1 set
  have other : key ≠ key' := fun e => h (e ▸ List.mem_map_of_mem memFields)
  simpa using other

/-- The last field counts if it is set. -/
lemma get?_ofFields_concat (fields : List (String × Option Json)) (field : String × Option Json)
    (key : String) : (ofFields (fields ++ [field])).get? key =
      (if key = field.1 then field.2 else none).or ((ofFields fields).get? key) := by
  obtain ⟨key', value⟩ := field
  rw [ofFields, ofFields, List.filterMap_append, get?_ofList, get?_ofList, List.reverse_append]
  cases value with
  | none => simp
  | some v => by_cases same : key = key' <;> simp [same]

/-- Fields with different keys are found under their keys. -/
lemma get?_ofFields {fields : List (String × Option Json)} {key : String} {value : Option Json}
    (distinct : (fields.map Prod.fst).Nodup) (mem : (key, value) ∈ fields) :
    (ofFields fields).get? key = value := by
  induction fields using List.reverseRecOn with
  | nil => cases mem
  | append_singleton fields field ih =>
    rw [List.map_append, List.nodup_append'] at distinct
    obtain ⟨distinct, -, apart⟩ := distinct
    have fresh : field.1 ∉ fields.map Prod.fst := fun mem => apart mem (List.mem_singleton_self _)
    rw [get?_ofFields_concat]
    rcases List.mem_append.1 mem with mem | last
    · have other : key ≠ field.1 := fun same => fresh (same ▸ List.mem_map_of_mem mem)
      rw [if_neg other, Option.none_or]
      exact ih distinct mem
    · obtain rfl := List.mem_singleton.1 last
      rw [if_pos rfl, get?_ofFields_eq_none fresh, Option.or_none]

/-- Members in the order of their keys. -/
def Sorted (m : Members) : Prop := m.keys.Pairwise (· < ·)

/-- Members in order have different keys. -/
lemma Sorted.nodup {m : Members} (h : m.Sorted) : m.keys.Nodup := h.imp fun lt => String.ne_of_lt lt

/-- No keys come in but the one that is inserted. -/
lemma mem_keys_insert {m : Members} {key key' : String} {value : Json}
    (mem : key' ∈ (m.insert key value).keys) : key' = key ∨ key' ∈ m.keys := by
  induction m with
  | nil => exact .inl (List.mem_singleton.1 mem)
  | cons field m ih =>
    obtain ⟨k, v⟩ := field
    simp only [insert] at mem
    split at mem
    · next same =>
      rcases List.mem_cons.1 mem with rfl | mem
      · exact .inl rfl
      · exact .inr (List.mem_cons_of_mem _ mem)
    · split at mem
      · rcases List.mem_cons.1 mem with rfl | mem
        · exact .inl rfl
        · exact .inr mem
      · rcases List.mem_cons.1 mem with rfl | mem
        · exact .inr List.mem_cons_self
        · exact (ih mem).imp_right (List.mem_cons_of_mem _)

/-- Inserting keeps the order. -/
lemma sorted_insert {m : Members} (h : m.Sorted) (key : String) (value : Json) :
    (m.insert key value).Sorted := by
  induction m with
  | nil => exact List.pairwise_singleton _ _
  | cons field m ih =>
    obtain ⟨k, v⟩ := field
    obtain ⟨before, sorted⟩ := List.pairwise_cons.1 h
    simp only [insert]
    split
    · next same =>
      subst same
      exact List.pairwise_cons.2 ⟨before, sorted⟩
    · next other =>
      split
      · next lt =>
        refine List.pairwise_cons.2 ⟨?_, h⟩
        intro key' mem
        rcases List.mem_cons.1 mem with rfl | mem
        · exact lt
        · exact String.lt_trans lt (before key' mem)
      · next notLt =>
        have gt : k < key := lt_of_le_of_ne (String.not_lt.1 notLt) (Ne.symm other)
        refine List.pairwise_cons.2 ⟨?_, ih sorted⟩
        intro key' mem
        rcases mem_keys_insert mem with rfl | mem
        · exact gt
        · exact before key' mem

/-- Members are kept in order. -/
lemma sorted_ofList (fields : List (String × Json)) : (ofList fields).Sorted := by
  induction fields using List.reverseRecOn with
  | nil => exact List.Pairwise.nil
  | append_singleton fields field ih =>
    simp only [ofList, List.foldl_append, List.foldl_cons, List.foldl_nil]
    exact sorted_insert ih _ _

/-- Members are kept in order whichever of them are left out. -/
lemma sorted_ofFields (fields : List (String × Option Json)) : (ofFields fields).Sorted :=
  sorted_ofList _

/-- There is nothing under a key that is not among those of the members. -/
lemma get?_eq_none {m : Members} {key : String} (h : key ∉ m.keys) : m.get? key = none := by
  rw [get?, List.lookup_eq_none_iff]
  intro field mem
  have other : key ≠ field.1 := fun e => h (e ▸ List.mem_map_of_mem mem)
  simpa using other

/-- Taking members out leaves the others where they are. -/
lemma get?_filter {m : Members} (distinct : m.keys.Nodup) (p : String × Json → Bool) (key : String) :
    get? (m.filter p) key = (m.get? key).filter fun value => p (key, value) := by
  induction m with
  | nil => rfl
  | cons field m ih =>
    obtain ⟨k, v⟩ := field
    obtain ⟨fresh, apart⟩ := List.nodup_cons.1 distinct
    rw [List.filter_cons, get?_cons]
    by_cases same : key = k
    · subst same
      rw [if_pos rfl, Option.filter_some]
      split
      · rw [get?_cons, if_pos rfl]
      · rw [ih apart, get?_eq_none fresh, Option.filter_none]
    · rw [if_neg same, ← ih apart]
      split
      · rw [get?_cons, if_neg same]
      · rfl

/-- A member that is not taken out is found as before, even if its key occurs again. -/
lemma get?_filter_of_pos {m : Members} {key : String} {value : Json} {p : String × Json → Bool}
    (found : m.get? key = some value) (kept : p (key, value) = true) :
    get? (m.filter p) key = some value := by
  induction m with
  | nil => cases found
  | cons field m ih =>
    obtain ⟨k, v⟩ := field
    rw [get?_cons] at found
    split at found
    · next same =>
      dsimp only at same
      subst same
      cases found
      rw [List.filter_cons_of_pos kept, get?_cons, if_pos rfl]
    · next other =>
      rw [List.filter_cons]
      split
      · rw [get?_cons, if_neg other]
        exact ih found
      · exact ih found

/-- A member that is null is as good as absent. -/
lemma present?_eq (m : Members) (key : String) :
    m.present? key = (m.get? key).filter fun value => !(value matches .null) := by
  rw [present?]
  cases m.get? key with
  | none => rfl
  | some value => cases value <;> rfl

end ProxyChain.Members
