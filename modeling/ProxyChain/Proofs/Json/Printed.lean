import ProxyChain.Json.Printer
import ProxyChain.Proofs.Json.Printable
import ProxyChain.Proofs.Text.Paragraph

/-!
# What the pretty form looks like

The pretty form of a document is JSON text (`isText_pretty`) and has no empty line in it, whatever the
document's strings hold and however deep it nests (`dense_pretty`): control characters are escaped in
strings, and every line that the printer starts has something on it. The numbers in the document have to
be proper, which those of a text that was parsed are.
-/

namespace ProxyChain.Json

open Text

/-! ## Strings -/

/-- A hexadecimal digit is read as one. -/
lemma isSome_hexDigit?_hexDigit : ∀ n < 16, (Scan.hexDigit? (hexDigit n)).isSome = true := by decide

/-- A character is written as one. -/
lemma isCharacter_charText (c : Char) : IsCharacter (charText c) := by
  unfold charText
  split_ifs with quote backslash feed carriage tab backspace formFeed control
  · exact .escape rfl
  · exact .escape rfl
  · exact .escape rfl
  · exact .escape rfl
  · exact .escape rfl
  · exact .escape rfl
  · exact .escape rfl
  · refine .unit rfl (List.forall_mem_cons.2 ⟨rfl, List.forall_mem_cons.2 ⟨rfl,
      List.forall_mem_cons.2 ⟨?_, List.forall_mem_singleton.2 ?_⟩⟩⟩)
    · exact isSome_hexDigit?_hexDigit _ (by omega)
    · exact isSome_hexDigit?_hexDigit _ (by omega)
  · exact .plain quote backslash (Nat.not_lt.1 control)

/-- A text is written as a string. -/
lemma isString_stringText (s : String) : IsString (stringText s) := by
  have characters (cs : List Char) : IsCharacters (cs.flatMap charText) := by
    induction cs with
    | nil => exact .nil
    | cons c cs ih =>
      rw [List.flatMap_cons]
      exact .cons (isCharacter_charText c) ih
  exact .quoted (characters s.toList)

variable {cs : List Char}

/-- There is no line feed in a character as it is written. -/
lemma IsCharacter.notMem_feed (h : IsCharacter cs) : '\n' ∉ cs := by
  cases h with
  | plain _ _ notControl =>
    rw [List.mem_singleton]
    rintro rfl
    exact absurd notControl (by decide)
  | escape known =>
    refine List.not_mem_cons_of_ne_of_not_mem (by decide) fun mem => ?_
    rw [← List.mem_singleton.1 mem] at known
    cases known
  | unit _ hex =>
    refine List.not_mem_cons_of_ne_of_not_mem (by decide) ?_
    exact List.not_mem_cons_of_ne_of_not_mem (by decide) fun mem => nomatch hex _ mem

/-- There is no line feed in characters as they are written. -/
lemma IsCharacters.notMem_feed (h : IsCharacters cs) : '\n' ∉ cs := by
  induction h with
  | nil => exact List.not_mem_nil
  | cons first _ ih => exact List.not_mem_append first.notMem_feed ih

/-- There is no line feed in a string. -/
lemma IsString.notMem_feed (h : IsString cs) : '\n' ∉ cs := by
  cases h with
  | quoted characters =>
    exact List.not_mem_append
      (List.not_mem_cons_of_ne_of_not_mem (by decide) characters.notMem_feed) (by decide)

/-! ## Numbers -/

/-- There is no line feed in digits. -/
lemma IsDigits.notMem_feed (h : IsDigits cs) : '\n' ∉ cs := fun mem => nomatch h.digits _ mem

/-- There is no line feed in a whole part. -/
lemma IsWhole.notMem_feed (h : IsWhole cs) : '\n' ∉ cs := by
  cases h with
  | zero => decide
  | digits digits _ => exact digits.notMem_feed

/-- There is no line feed in a fraction. -/
lemma IsFraction.notMem_feed (h : IsFraction cs) : '\n' ∉ cs := by
  cases h with
  | absent => exact List.not_mem_nil
  | digits digits => exact List.not_mem_cons_of_ne_of_not_mem (by decide) digits.notMem_feed

/-- There is no line feed in an exponent. -/
lemma IsExponent.notMem_feed (h : IsExponent cs) : '\n' ∉ cs := by
  cases h with
  | absent => exact List.not_mem_nil
  | @digits mark sign ds marks signed digits =>
    have notMark : '\n' ≠ mark := by
      rintro rfl
      cases marks
    have notSign : '\n' ∉ sign := by cases signed <;> decide
    exact List.not_mem_append (List.not_mem_cons_of_ne_of_not_mem notMark notSign) digits.notMem_feed

/-- There is no line feed in a magnitude. -/
lemma IsMagnitude.notMem_feed (h : IsMagnitude cs) : '\n' ∉ cs := by
  cases h with
  | parts whole fraction exponent =>
    exact List.not_mem_append (List.not_mem_append whole.notMem_feed fraction.notMem_feed)
      exponent.notMem_feed

/-- There is no line feed in a number. -/
lemma IsNumber.notMem_feed (h : IsNumber cs) : '\n' ∉ cs := by
  cases h with
  | positive magnitude => exact magnitude.notMem_feed
  | negative magnitude => exact List.not_mem_cons_of_ne_of_not_mem (by decide) magnitude.notMem_feed

/-! ## Lines -/

/-- A line starts with space. -/
lemma isSpace_lineStart (level : Nat) : IsSpace (lineStart level) := by
  refine List.forall_mem_cons.2 ⟨rfl, fun c mem => ?_⟩
  rw [List.eq_of_mem_replicate mem]
  rfl

/-- An indented line starts densely. -/
lemma dense_lineStart_succ (level : Nat) : Dense (lineStart (level + 1)) := by
  have indent : Dense (List.replicate (2 * level + 1) ' ') := .of_notMem fun mem =>
    absurd (List.eq_of_mem_replicate mem) (by decide)
  exact .feed (by decide) indent

/-- A line with a bracket on it. -/
lemma dense_lineStart_append (level : Nat) {c : Char} (plain : c ≠ '\n') :
    Dense (lineStart level ++ [c]) := by
  cases level with
  | zero => exact .feed plain .nil
  | succ level => exact (dense_lineStart_succ level).append (.char plain .nil)

/-! ## Values -/

/-- What is between the brackets of an array whose first item has been written. -/
lemma isElements_prettyItems {level : Nat} {items : List Json}
    (inside : ∀ item ∈ items, IsValue (prettyChars (level + 1) item)) {space value : List Char}
    (before : IsSpace space) (first : IsValue value) :
    ∃ cs, space ++ value ++ prettyItems level items = cs ++ [']'] ∧ IsElements cs := by
  induction items generalizing space value with
  | nil =>
    refine ⟨space ++ value ++ lineStart level, ?_, .last (.spaced before first (isSpace_lineStart _))⟩
    rw [prettyItems, List.append_assoc _ (lineStart level)]
  | cons item items ih =>
    rw [List.forall_mem_cons] at inside
    obtain ⟨cs, same, others⟩ := ih inside.2 (isSpace_lineStart (level + 1)) inside.1
    refine ⟨space ++ value ++ [] ++ ',' :: cs, ?_, .more (.spaced before first .nil) others⟩
    rw [prettyItems]
    simp [← same]

/-- The same for the braces of an object. -/
lemma isMembers_prettyMembers {level : Nat} {members : Members}
    (inside : ∀ field ∈ members, IsValue (prettyChars (level + 1) field.2)) {space value : List Char}
    (key : String) (before : IsSpace space) (first : IsValue value) :
    ∃ cs, space ++ stringText key ++ ':' :: ' ' :: value ++ prettyMembers level members = cs ++ ['}'] ∧
      IsMembers cs := by
  have gap : IsSpace [' '] := List.forall_mem_singleton.2 rfl
  induction members generalizing space value key with
  | nil =>
    refine ⟨space ++ stringText key ++ [] ++ ':' :: ([' '] ++ value ++ lineStart level), ?_,
      .last (.spaced before (isString_stringText key) .nil
        (.spaced gap first (isSpace_lineStart _)))⟩
    rw [prettyMembers]
    simp
  | cons field members ih =>
    rw [List.forall_mem_cons] at inside
    obtain ⟨cs, same, others⟩ := ih inside.2 field.1 (isSpace_lineStart (level + 1)) inside.1
    refine ⟨space ++ stringText key ++ [] ++ ':' :: ([' '] ++ value ++ []) ++ ',' :: cs, ?_,
      .more (.spaced before (isString_stringText key) .nil (.spaced gap first .nil)) others⟩
    rw [prettyMembers]
    simp [← same]

/-- An item on its line, after a bracket or a comma. -/
lemma dense_item {level : Nat} {mark : Char} {value : List Char} (plain : mark ≠ '\n')
    (h : Dense value) : Dense (mark :: lineStart (level + 1) ++ value) :=
  (Dense.char plain (dense_lineStart_succ level)).append h

/-- A member is dense if its value is. -/
lemma dense_member {level : Nat} {mark : Char} {value : List Char} (plain : mark ≠ '\n')
    (key : String) (h : Dense value) :
    Dense (mark :: lineStart (level + 1) ++ stringText key ++ ':' :: ' ' :: value) :=
  (dense_item plain (.of_notMem (isString_stringText key).notMem_feed)).append
    (.char (by decide) (.char (by decide) h))

/-- The items of a list are dense if all of them are. -/
lemma dense_prettyItems {level : Nat} {items : List Json}
    (inside : ∀ item ∈ items, Dense (prettyChars (level + 1) item)) :
    Dense (prettyItems level items) := by
  induction items with
  | nil => exact dense_lineStart_append level (by decide)
  | cons item items ih =>
    rw [List.forall_mem_cons] at inside
    exact (dense_item (by decide) inside.1).append (ih inside.2)

/-- The members of an object are dense if all of their values are. -/
lemma dense_prettyMembers {level : Nat} {members : Members}
    (inside : ∀ field ∈ members, Dense (prettyChars (level + 1) field.2)) :
    Dense (prettyMembers level members) := by
  induction members with
  | nil => exact dense_lineStart_append level (by decide)
  | cons field members ih =>
    rw [List.forall_mem_cons] at inside
    exact (dense_member (by decide) field.1 inside.1).append (ih inside.2)

namespace Printable

variable {doc : Json}

/-- A document that can be printed is printed as a value. -/
theorem isValue_prettyChars (h : Printable doc) (level : Nat) : IsValue (prettyChars level doc) := by
  induction h generalizing level with
  | null => exact .null
  | bool value =>
    cases value with
    | false => exact .false
    | true => exact .true
  | number proper => exact .number (Number.isNumber_chars proper)
  | string value => exact .string (isString_stringText value)
  | @array items _ ih =>
    cases items with
    | nil => exact .emptyArray .nil
    | cons item items =>
      rw [List.forall_mem_cons] at ih
      obtain ⟨cs, same, elements⟩ := isElements_prettyItems
        (fun item mem => ih.2 item mem (level + 1)) (isSpace_lineStart (level + 1)) (ih.1 (level + 1))
      rw [prettyChars, List.cons_append, List.cons_append, same]
      exact .array elements
  | @object members _ ih =>
    cases members with
    | nil => exact .emptyObject .nil
    | cons field members =>
      rw [List.forall_mem_cons] at ih
      obtain ⟨cs, same, members⟩ := isMembers_prettyMembers
        (fun field mem => ih.2 field mem (level + 1)) field.1 (isSpace_lineStart (level + 1))
        (ih.1 (level + 1))
      have braced : IsValue ('{' :: cs ++ ['}']) := .object members
      rw [List.cons_append, ← same] at braced
      simpa [prettyChars] using braced

/-- There is no empty line in the pretty form. -/
theorem dense_prettyChars (h : Printable doc) (level : Nat) : Dense (prettyChars level doc) := by
  induction h generalizing level with
  | null =>
    rw [prettyChars]
    exact .of_notMem (by decide)
  | bool value =>
    cases value with
    | false =>
      rw [prettyChars]
      exact .of_notMem (by decide)
    | true =>
      rw [prettyChars]
      exact .of_notMem (by decide)
  | number proper => exact .of_notMem (Number.isNumber_chars proper).notMem_feed
  | string value => exact .of_notMem (isString_stringText value).notMem_feed
  | @array items _ ih =>
    cases items with
    | nil =>
      rw [prettyChars]
      exact .of_notMem (by decide)
    | cons item items =>
      rw [List.forall_mem_cons] at ih
      exact (dense_item (by decide) (ih.1 (level + 1))).append
        (dense_prettyItems fun item mem => ih.2 item mem (level + 1))
  | @object members _ ih =>
    cases members with
    | nil =>
      rw [prettyChars]
      exact .of_notMem (by decide)
    | cons field members =>
      rw [List.forall_mem_cons] at ih
      exact (dense_member (by decide) field.1 (ih.1 (level + 1))).append
        (dense_prettyMembers fun field mem => ih.2 field mem (level + 1))

/-- A document that can be printed is printed as a text in the grammar. -/
theorem isText_pretty (h : Printable doc) : IsText doc.pretty := (h.isValue_prettyChars 0).isText

/-- It is printed without empty lines. -/
theorem dense_pretty (h : Printable doc) : Dense doc.pretty.toList := by
  rw [pretty, String.toList_ofList]
  exact h.dense_prettyChars 0

end Printable

end ProxyChain.Json
