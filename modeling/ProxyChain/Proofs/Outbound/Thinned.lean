import ProxyChain.Proofs.Json.Orderly

/-!
# Leaving out members that are null

`Members.Thinned` relates an object to what is left of it when some of its members that are null are left
out, and some of those in the objects inside it that the readers of outbounds look into. Every loose
reader takes null for absent, so that it reads the same from both, and of an object that is read as its
text something can only be left out if the text becomes shorter (`Members.Thinned.eq_of_text`).
-/

namespace ProxyChain

/-- The objects inside an outbound that readers look into, by the keys that lead there. -/
def innerObjects : List (List String) :=
  [["tls"], ["tls", "utls"], ["tls", "ech"], ["tls", "reality"], ["multiplex"],
   ["multiplex", "brutal"], ["obfs"]]

/-- Some members that are null are left out, of an object and of those inside it that readers look into.
`place` are the keys that lead to the object. -/
inductive Members.Thinned : (place : List String) → Members → Members → Prop where
  | nil {place : List String} : Thinned place [] []
  | remove {place : List String} {key : String} {m m' : Members} (rest : Thinned place m m') :
      Thinned place ((key, .null) :: m) m'
  | keep {place : List String} {field : String × Json} {m m' : Members}
      (rest : Thinned place m m') : Thinned place (field :: m) (field :: m')
  | enter {place : List String} {key : String} {inner inner' m m' : Members}
      (known : place ++ [key] ∈ innerObjects) (inside : Thinned (place ++ [key]) inner inner')
      (rest : Thinned place m m') :
      Thinned place ((key, .object inner) :: m) ((key, .object inner') :: m')

namespace Members.Thinned

variable {place : List String} {m m' : Members}

/-- No member has to be taken out. -/
lemma refl (place : List String) (m : Members) : Thinned place m m := by
  induction m with
  | nil => exact .nil
  | cons _ _ ih => exact .keep ih

/-- No keys come in. -/
lemma keys_sublist (t : Thinned place m m') : m'.keys.Sublist m.keys := by
  induction t with
  | nil => exact .slnil
  | remove _ ih => exact ih.cons _
  | keep _ ih => exact ih.cons_cons _
  | enter _ _ _ _ ih => exact ih.cons_cons _

/-- Members stay in order. -/
lemma sorted (t : Thinned place m m') (h : m.Sorted) : m'.Sorted :=
  List.Pairwise.sublist t.keys_sublist h

/-- What is found under a key is the same as before, or was null and is gone, or is an object that was
thinned in turn. -/
lemma found (t : Thinned place m m') (distinct : m.keys.Nodup) (key : String) :
    m'.get? key = m.get? key ∨ (m.get? key = some .null ∧ m'.get? key = none) ∨
      ∃ inner inner', place ++ [key] ∈ innerObjects ∧ Thinned (place ++ [key]) inner inner' ∧
        m.get? key = some (.object inner) ∧ m'.get? key = some (.object inner') := by
  induction t with
  | nil => exact .inl rfl
  | @remove place key' m m' rest ih =>
    obtain ⟨fresh, distinct⟩ := List.nodup_cons.1 distinct
    by_cases same : key = key'
    · have gone : m'.get? key = none :=
        get?_eq_none fun mem => fresh (same ▸ rest.keys_sublist.subset mem)
      exact .inr (.inl ⟨by rw [get?_cons, if_pos same], gone⟩)
    · rw [get?_cons, if_neg same]
      exact ih distinct
  | @keep place field m m' rest ih =>
    obtain ⟨-, distinct⟩ := List.nodup_cons.1 distinct
    rw [get?_cons, get?_cons]
    by_cases same : key = field.1
    · exact .inl (by rw [if_pos same, if_pos same])
    · rw [if_neg same, if_neg same]
      exact ih distinct
  | @enter place key' inner inner' m m' known inside rest _ ih =>
    obtain ⟨-, distinct⟩ := List.nodup_cons.1 distinct
    rw [get?_cons, get?_cons]
    by_cases same : key = key'
    · subst same
      exact .inr (.inr ⟨inner, inner', known, inside, if_pos rfl, if_pos rfl⟩)
    · rw [if_neg same, if_neg same]
      exact ih distinct

section Readers

variable (t : Thinned place m m') (orderly : Json.Orderly (.object m))
include t orderly

/-- A value that is no object to look into can only go if it is null. -/
lemma get?_cases (key : String) (outside : place ++ [key] ∉ innerObjects) :
    m'.get? key = m.get? key ∨ (m.get? key = some .null ∧ m'.get? key = none) := by
  obtain same | removed | ⟨_, _, known, -⟩ := t.found orderly.sorted.nodup key
  · exact .inl same
  · exact .inr removed
  · exact absurd known outside

/-- What is not null stays the same under a key. -/
lemma present?_eq (key : String) (outside : place ++ [key] ∉ innerObjects) :
    m'.present? key = m.present? key := by
  obtain same | ⟨null, gone⟩ := t.get?_cases orderly key outside
  · rw [present?, present?, same]
  · rw [present?, present?, null, gone]

/-- Texts stay the same under a key. -/
lemma strings?_eq (key : String) (outside : place ++ [key] ∉ innerObjects) :
    Json.strings? (m'.get? key) = Json.strings? (m.get? key) := by
  obtain same | ⟨null, gone⟩ := t.get?_cases orderly key outside
  · rw [same]
  · rw [null, gone]
    rfl

/-- A flag stays the same under a key. -/
lemma flag_eq (key : String) (outside : place ++ [key] ∉ innerObjects) :
    m'.flag key = m.flag key := by
  obtain same | ⟨null, gone⟩ := t.get?_cases orderly key outside
  · rw [flag, flag, same]
  · rw [flag, flag, null, gone]

/-- A text stays the same under a key. -/
lemma textAt_eq (key : String) (outside : place ++ [key] ∉ innerObjects) :
    m'.textAt key = m.textAt key := by
  rw [textAt, textAt, t.present?_eq orderly key outside]

/-- A number stays the same under a key. -/
lemma intAt_eq (key : String) (outside : place ++ [key] ∉ innerObjects) :
    m'.intAt key = m.intAt key := by
  obtain same | ⟨null, gone⟩ := t.get?_cases orderly key outside
  · rw [intAt, intAt, same]
  · rw [intAt, intAt, null, gone]
    rfl

/-- A reader of an object reads the same if it does so from every thinned one. -/
lemma map_objectAt?_eq {α : Type} {read : Members → α} (key : String)
    (blind : ∀ inner inner', Json.Orderly (.object inner) →
      Thinned (place ++ [key]) inner inner' → read inner' = read inner) :
    (m'.objectAt? key).map read = (m.objectAt? key).map read := by
  obtain same | ⟨null, gone⟩ | ⟨inner, inner', -, inside, held, held'⟩ :=
    t.found orderly.sorted.nodup key
  · rw [objectAt?, objectAt?, same]
  · rw [objectAt?, objectAt?, null, gone]
    rfl
  · have found : m.objectAt? key = some inner := by rw [objectAt?, held]; rfl
    have found' : m'.objectAt? key = some inner' := by rw [objectAt?, held']; rfl
    rw [found, found', Option.map_some, Option.map_some, blind _ _ (orderly.objectAt? found) inside]

end Readers

section Text

open Json

/-- Members take at least a comma, two quotes and a colon. -/
lemma length_compactMembers (m : Members) :
    (compactMembers m).length = 1 ∨ 4 ≤ (compactMembers m).length := by
  cases m with
  | nil => exact .inl rfl
  | cons field m =>
    have quoted : 2 ≤ (stringText field.1).length := by simp [stringText]
    right
    simp only [compactMembers, List.length_cons, List.length_append]
    omega

/-- The text of an object that is not empty starts with a brace where further members have a comma. -/
lemma length_compactChars_object (m : Members) :
    (compactChars (.object m)).length = max 2 (compactMembers m).length := by
  cases m with
  | nil => rfl
  | cons field m =>
    have whole := length_compactMembers (field :: m)
    have same : (compactChars (.object (field :: m))).length
      = (compactMembers (field :: m)).length := rfl
    simp only [compactMembers, List.length_cons, List.length_append] at same whole ⊢
    omega

/-- An object with shorter members is shorter. -/
lemma compactChars_lt (h : (compactMembers m').length < (compactMembers m).length) :
    (compactChars (.object m')).length < (compactChars (.object m)).length := by
  have few := length_compactMembers m'
  have many := length_compactMembers m
  rw [length_compactChars_object, length_compactChars_object]
  omega

/-- Leaving something out makes the text shorter. -/
lemma shorter (t : Thinned place m m') :
    m' = m ∨ (compactMembers m').length < (compactMembers m).length := by
  induction t with
  | nil => exact .inl rfl
  | @remove place key m m' _ ih =>
    right
    have rest : (compactMembers m').length ≤ (compactMembers m).length := by
      obtain rfl | shorter := ih
      · exact Nat.le_refl _
      · exact Nat.le_of_lt shorter
    simp only [compactMembers, List.length_cons, List.length_append]
    omega
  | @keep place field m m' _ ih =>
    obtain rfl | shorter := ih
    · exact .inl rfl
    · right
      simp only [compactMembers, List.length_cons, List.length_append]
      omega
  | @enter place key inner inner' m m' _ _ _ ihInside ihRest =>
    obtain rfl | shorterRest := ihRest
    · obtain rfl | shorterInside := ihInside
      · exact .inl rfl
      · have inside := compactChars_lt shorterInside
        right
        simp only [compactMembers, List.length_cons, List.length_append]
        omega
    · have inside : (compactChars (.object inner')).length ≤ (compactChars (.object inner)).length := by
        obtain rfl | shorterInside := ihInside
        · exact Nat.le_refl _
        · exact Nat.le_of_lt (compactChars_lt shorterInside)
      right
      simp only [compactMembers, List.length_cons, List.length_append]
      omega

/-- An object that is read as the same text is the same. -/
lemma eq_of_text (t : Thinned place m m')
    (same : (Json.object m').text = (Json.object m).text) : m' = m := by
  obtain rfl | shorter := t.shorter
  · rfl
  · have chars : compactChars (.object m') = compactChars (.object m) := String.ofList_injective same
    exact absurd (congrArg List.length chars) (Nat.ne_of_lt (compactChars_lt shorter))

end Text

end Members.Thinned

end ProxyChain
