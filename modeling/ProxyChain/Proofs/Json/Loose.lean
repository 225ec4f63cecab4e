import ProxyChain.Json.Loose
import ProxyChain.Proofs.Json.Members
import ProxyChain.Proofs.Text.Integer
import ProxyChain.Proofs.Text.Trim

/-!
# Loose readers read what was written strictly

A flag, an integer or a list of strings that stands in a document as such is read as that. An integer is
read from a number that is one and from a string that is one between blanks, and from no other value
(`Json.int64?_eq_some_iff`). The lemmas about members say what each reader gives once it is known what is
under the key.
-/

namespace ProxyChain

namespace Json

/-- A truth value is read as it is. -/
lemma isTrue_bool (b : Bool) : isTrue (.bool b) = b := by cases b <;> decide

/-- A number that is whole is shown in digits. -/
lemma text_int (n : Int) : (int n).text = Text.showInt n := rfl

/-- A value whose text is an integer gives it, if it fits. -/
lemma int64?_of_text {value : Json} {n : Int} (h : value.text = Text.showInt n) :
    value.int64? = Text.fitInt64? n := by
  rw [int64?, h, Text.showInt, String.toList_ofList, Text.strip_signedDecimal, Text.int64?,
    Text.integer?_signedDecimal, Option.bind_some]

/-- A number of 32 bits is read as it is. -/
lemma int64?_int (n : Int32) : (int n.toInt).int64? = some n.toInt64 := by
  rw [int64?_of_text (text_int _), Text.fitInt64?_toInt64]

/-- A value means an integer: it is that number, or a string of its digits between white space, a sign in
front of them or none. -/
inductive Means (n : Int) : Json → Prop where
  | number : Means n (.int n)
  | string {s : String} {cs : List Char} (trims : Text.TrimsTo s.toList cs)
      (numeral : Text.Numeral cs n) : Means n (.string s)

/-- The text of a double has a point or a mark for the power of ten in it. -/
lemma exists_mark_mem_decimalChars (digits : Nat) (exponent : Int) :
    ∃ c ∈ Number.decimalChars digits exponent, c = '.' ∨ c = 'e' := by
  unfold Number.decimalChars
  extract_lets ds point mantissa power
  split
  · split
    · exact ⟨'.', by simp, .inl rfl⟩
    · split
      · exact ⟨'.', by simp, .inl rfl⟩
      · exact ⟨'.', by simp, .inl rfl⟩
  · exact ⟨'e', by simp, .inr rfl⟩

/-- The same with the sign of the double in front. -/
lemma exists_mark_mem_doubleChars (x : Decimal.Binary64) :
    ∃ c ∈ Number.doubleChars x, c = '.' ∨ c = 'e' := by
  have magnitude : ∃ c ∈ (if x.isZero then "0.0".toList
      else Number.decimalChars x.shortest.1 x.shortest.2), c = '.' ∨ c = 'e' := by
    split
    · exact ⟨'.', by decide, .inl rfl⟩
    · exact exists_mark_mem_decimalChars _ _
  obtain ⟨c, mem, mark⟩ := magnitude
  refine ⟨c, ?_, mark⟩
  unfold Number.doubleChars
  extract_lets written
  split
  · exact List.mem_cons_of_mem _ mem
  · exact mem

/-- A text with anything in it that belongs to no integer is read as none. -/
lemma int64?_eq_none_of_mem {value : Json} {c : Char} (mem : c ∈ value.text.toList)
    (filled : Text.isBlank c = false) (strange : c.isDigit = false ∧ c ≠ '+' ∧ c ≠ '-') :
    value.int64? = none := by
  have stays : c ∈ Text.strip value.text.toList := by
    have kept : c ∈ value.text.toList.filter fun c => !Text.isBlank c :=
      List.mem_filter.2 ⟨mem, by rw [filled]; rfl⟩
    rw [← Text.filter_strip] at kept
    exact (List.mem_filter.1 kept).1
  rw [int64?, Text.int64?]
  cases read : Text.integer? (Text.strip value.text.toList) with
  | none => rfl
  | some n =>
    rcases (Text.integer?_eq_some_iff.1 read).isDigit_or_sign c stays with digit | plus | minus
    · rw [strange.1] at digit
      cases digit
    · exact absurd plus strange.2.1
    · exact absurd minus strange.2.2

/-- Neither doubles nor truth values, null, arrays and objects are read as integers. -/
lemma int64?_eq_none {value : Json} (noInteger : ∀ n, value ≠ .int n) (noString : ∀ s, value ≠ .string s) :
    value.int64? = none := by
  have none_of_head {c : Char} {rest : List Char} (text : value.text.toList = c :: rest)
      (filled : Text.isBlank c = false) (strange : c.isDigit = false ∧ c ≠ '+' ∧ c ≠ '-') :
      value.int64? = none :=
    int64?_eq_none_of_mem (text ▸ List.mem_cons_self) filled strange
  cases value with
  | null => rfl
  | bool b => cases b <;> rfl
  | number n =>
    cases n with
    | integer n => exact absurd rfl (noInteger n)
    | double x =>
      have text : (Json.number (.double x)).text.toList = Number.doubleChars x := String.toList_ofList
      obtain ⟨c, mem, mark⟩ := exists_mark_mem_doubleChars x
      refine int64?_eq_none_of_mem (text ▸ mem) ?_ ?_
      · rcases mark with rfl | rfl <;> rfl
      · rcases mark with rfl | rfl <;> decide
  | string s => exact absurd rfl (noString s)
  | array items =>
    cases items with
    | nil => rfl
    | cons item items =>
      exact none_of_head (c := '[') String.toList_ofList rfl (by decide)
  | object members =>
    cases members with
    | nil => rfl
    | cons member members =>
      exact none_of_head (c := '{') String.toList_ofList rfl (by decide)

/-- The integer that is read from a value is the one that it means, if that fits 64 bits. -/
theorem int64?_eq_some_iff {value : Json} {n : Int64} : value.int64? = some n ↔ value.Means n.toInt := by
  constructor
  · intro read
    by_cases number : ∃ k, value = .int k
    · obtain ⟨k, rfl⟩ := number
      rw [int64?_of_text (text_int k), Text.fitInt64?_eq_some_iff] at read
      exact read ▸ .number
    by_cases string : ∃ s, value = .string s
    · obtain ⟨s, rfl⟩ := string
      rw [int64?, Text.int64?] at read
      obtain ⟨k, integer, fits⟩ := Option.bind_eq_some_iff.1 read
      rw [Text.fitInt64?_eq_some_iff] at fits
      exact .string (Text.trimsTo_strip s.toList) (fits ▸ Text.integer?_eq_some_iff.1 integer)
    · rw [int64?_eq_none (not_exists.1 number) (not_exists.1 string)] at read
      cases read
  · intro means
    cases means with
    | number => rw [int64?_of_text (text_int _), Text.fitInt64?_toInt]
    | @string s cs trims numeral =>
      have stripped : Text.strip (Json.string s).text.toList = cs := Text.trimsTo_iff.1 trims
      rw [int64?, stripped, Text.int64?, Text.integer?_eq_some_iff.2 numeral, Option.bind_some,
        Text.fitInt64?_toInt]

/-- Texts that are written as a list are read back. -/
lemma strings?_strings (items : List String) : strings? (some (strings items)) = some items := by
  rw [strings, strings?, listOf?, List.filterMap_map]
  exact congrArg some List.filterMap_some

/-- A list that is there only if it is set is read back. -/
lemma strings?_map_strings (items? : Option (List String)) :
    strings? (items?.map strings) = items? := by
  cases items? with
  | none => rfl
  | some items => exact strings?_strings items

/-- The members of an object are the last of each key. -/
lemma members?_ofFields (fields : List (String × Json)) :
    (ofFields fields).members? = some (Members.ofList fields) := rfl

end Json

namespace Members

variable {m : Members} {key : String}

/-- What is not null is present. -/
lemma present?_of_get? {value : Option Json} (h : m.get? key = value) (notNull : value ≠ some .null) :
    m.present? key = value := by
  rw [present?_eq, h]
  cases value with
  | none => rfl
  | some value =>
    cases value with
    | null => exact absurd rfl notNull
    | _ => rfl

/-- A flag that is given is read. -/
lemma flag_of_get? {b : Bool} (h : m.get? key = some (.bool b)) : m.flag key = b := by
  rw [flag, h]

/-- A text that is given is read. -/
lemma textAt_of_get? {s : String} (h : m.get? key = some (.string s)) : m.textAt key = s := by
  rw [textAt, present?_of_get? h nofun]
  rfl

/-- A number of 32 bits that is given is read. -/
lemma intAt_of_get? {n : Int32} (h : m.get? key = some (.int n.toInt)) : m.intAt key = n.toInt64 := by
  rw [intAt, h, Option.bind_some, Json.int64?_int]
  rfl

/-- Only an object is read as one. -/
lemma objectAt?_eq_some_iff {inner : Members} :
    m.objectAt? key = some inner ↔ m.get? key = some (.object inner) := by
  rw [objectAt?]
  cases m.get? key with
  | none => exact iff_of_false nofun nofun
  | some value => cases value <;> simp [Json.members?]

/-- An object that is there only if it is set is found under its key. -/
lemma objectAt?_of_get? {α : Type} {toJson : α → Json} {ofMembers : Members → α}
    (lawful : ∀ a, (toJson a).members?.map ofMembers = some a) {a? : Option α}
    (h : m.get? key = a?.map toJson) : (m.objectAt? key).map ofMembers = a? := by
  rw [objectAt?, h]
  cases a? with
  | none => rfl
  | some a => exact lawful a

end Members

end ProxyChain
