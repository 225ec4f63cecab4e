import ProxyChain.Proofs.Text.Cut

/-!
# Trimmed texts and the parts between delimiters

What is left of a text without the white space around it (`TrimsTo`), what a delimiter cuts a text into
(`CutsInto`), and what is left of parts when each is trimmed and the blank ones are left out (`FillsIn`).
Each is told apart from the functions that compute it, which are shown to give just that.
-/

namespace ProxyChain.Text

/-- White space: the characters with Unicode's `White_Space` property. -/
def WhiteSpace (c : Char) : Prop :=
  c.toNat ∈ [0x09, 0x0A, 0x0B, 0x0C, 0x0D, 0x20, 0x85, 0xA0, 0x1680, 0x2000, 0x2001, 0x2002, 0x2003,
    0x2004, 0x2005, 0x2006, 0x2007, 0x2008, 0x2009, 0x200A, 0x2028, 0x2029, 0x202F, 0x205F, 0x3000]

/-- Blank characters are white space, and no others. -/
lemma isBlank_iff {c : Char} : isBlank c = true ↔ WhiteSpace c := by
  simp only [isBlank, WhiteSpace, Bool.or_eq_true, Bool.and_eq_true, decide_eq_true_eq, beq_iff_eq,
    List.mem_cons, List.not_mem_nil, or_false]
  omega

/-- A character that is not white space is not blank. -/
lemma isBlank_eq_false_iff {c : Char} : isBlank c = false ↔ ¬ WhiteSpace c := by
  rw [← isBlank_iff, Bool.not_eq_true]

/-- A text is blank altogether if all of it is white space. -/
lemma isAllBlank_iff {cs : List Char} : isAllBlank cs = true ↔ ∀ c ∈ cs, WhiteSpace c := by
  simp only [isAllBlank, List.all_eq_true, isBlank_iff]

/-- A text is what is left of another one without the white space around it. -/
structure TrimsTo (cs core : List Char) : Prop where
  around : ∃ before after, cs = before ++ core ++ after ∧
    (∀ c ∈ before, WhiteSpace c) ∧ ∀ c ∈ after, WhiteSpace c
  first : ∀ c ∈ core.head?, ¬ WhiteSpace c
  last : ∀ c ∈ core.getLast?, ¬ WhiteSpace c

/-- Every text is stripped of the white space around it. -/
lemma trimsTo_strip (cs : List Char) : TrimsTo cs (strip cs) where
  around := by
    have start : cs.takeWhile isBlank ++ cs.dropWhile isBlank = cs := List.takeWhile_append_dropWhile
    have stop : strip cs ++ (cs.dropWhile isBlank).rtakeWhile isBlank = cs.dropWhile isBlank :=
      List.rdropWhile_append_rtakeWhile
    refine ⟨cs.takeWhile isBlank, (cs.dropWhile isBlank).rtakeWhile isBlank, ?_, ?_, ?_⟩
    · rw [List.append_assoc, stop, start]
    · exact fun c mem => isBlank_iff.1 (List.mem_takeWhile_imp mem)
    · exact fun c mem => isBlank_iff.1 (List.mem_rtakeWhile_imp mem)
  first := fun c mem => isBlank_eq_false_iff.1 ((stripped_strip cs).first c mem)
  last := fun c mem => isBlank_eq_false_iff.1 ((stripped_strip cs).last c mem)

/-- What a text is trimmed to is what stripping leaves of it. -/
lemma trimsTo_iff {cs core : List Char} : TrimsTo cs core ↔ strip cs = core := by
  constructor
  · rintro ⟨⟨before, after, rfl, blankBefore, blankAfter⟩, first, last⟩
    rw [strip_append (isAllBlank_iff.2 blankBefore) (isAllBlank_iff.2 blankAfter)]
    exact Stripped.strip_eq ⟨fun c mem => isBlank_eq_false_iff.2 (first c mem),
      fun c mem => isBlank_eq_false_iff.2 (last c mem)⟩
  · rintro rfl
    exact trimsTo_strip cs

/-- Nothing is left of white space. -/
lemma strip_eq_nil_of_whiteSpace {cs : List Char} (h : ∀ c ∈ cs, WhiteSpace c) : strip cs = [] :=
  trimsTo_iff.1 ⟨⟨cs, [], by simp, h, nofun⟩, nofun, nofun⟩

/-- Only of white space nothing is left. -/
lemma whiteSpace_of_strip_eq_nil {cs : List Char} (h : strip cs = []) : ∀ c ∈ cs, WhiteSpace c := by
  obtain ⟨⟨before, after, whole, blankBefore, blankAfter⟩, -, -⟩ := trimsTo_iff.2 h
  rw [whole, List.append_nil]
  exact List.forall_mem_append.2 ⟨blankBefore, blankAfter⟩

/-- The parts of a text between the occurrences of a delimiter. -/
structure CutsInto (d : Char) (cs : List Char) (parts : List (List Char)) : Prop where
  filled : parts ≠ []
  without : ∀ part ∈ parts, d ∉ part
  joined : [d].intercalate parts = cs

/-- The parts of a text are its pieces. -/
lemma cutsInto_iff {d : Char} {cs : List Char} {parts : List (List Char)} :
    CutsInto d cs parts ↔ pieces d cs = parts := by
  constructor
  · rintro ⟨filled, without, rfl⟩
    exact pieces_intercalate filled without
  · rintro rfl
    exact ⟨pieces_ne_nil d cs, fun _ => notMem_of_mem_pieces, intercalate_pieces d cs⟩

/-- What is left of parts when each is trimmed and those that are blank are left out. -/
inductive FillsIn : (parts kept : List (List Char)) → Prop where
  | nil : FillsIn [] []
  | blank {part : List Char} {parts kept : List (List Char)} (white : ∀ c ∈ part, WhiteSpace c)
      (more : FillsIn parts kept) : FillsIn (part :: parts) kept
  | kept {part core : List Char} {parts kept : List (List Char)} (trims : TrimsTo part core)
      (filled : core ≠ []) (more : FillsIn parts kept) : FillsIn (part :: parts) (core :: kept)

/-- Parts are trimmed and left out one by one. -/
lemma fillsIn_iff {parts kept : List (List Char)} :
    FillsIn parts kept ↔ ((parts.map strip).filter fun part => !part.isEmpty) = kept := by
  constructor
  · intro fills
    induction fills with
    | nil => rfl
    | @blank part _ _ white more ih =>
      rw [List.map_cons, strip_eq_nil_of_whiteSpace white, List.filter_cons_of_neg (by simp), ih]
    | @kept part core _ _ trims filled more ih =>
      have stays : (!core.isEmpty) = true := by simpa using filled
      rw [List.map_cons, trimsTo_iff.1 trims, List.filter_cons, if_pos stays, ih]
  · rintro rfl
    induction parts with
    | nil => exact .nil
    | cons part parts ih =>
      by_cases empty : strip part = []
      · rw [List.map_cons, empty, List.filter_cons_of_neg (by simp)]
        exact .blank (whiteSpace_of_strip_eq_nil empty) ih
      · have stays : (!(strip part).isEmpty) = true := by simpa using empty
        rw [List.map_cons, List.filter_cons, if_pos stays]
        exact .kept (trimsTo_strip part) empty ih

end ProxyChain.Text
