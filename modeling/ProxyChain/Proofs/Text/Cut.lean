import ProxyChain.Text.Blank
import ProxyChain.Text.Cut
import Mathlib.Data.List.DropRight
import Mathlib.Tactic.Common

/-!
# Texts are taken apart where they were put together

What was put in front of a text is dropped again, a delimiter that is in none of the parts cuts between
them, and blanks around a text are stripped (`strip_append`). A text that was stripped has no more blanks
at its ends (`stripped_strip`), so that stripping it again changes nothing.
-/

namespace ProxyChain.Text

/-- A start is dropped from what begins with it. -/
lemma dropStart?_append (start cs : List Char) : dropStart? start (start ++ cs) = some cs := by
  induction start with
  | nil => rfl
  | cons s start ih =>
    rw [List.cons_append, dropStart?, if_pos rfl]
    exact ih

/-- A text is cut at the first delimiter. -/
lemma cut_append {d : Char} {before : List Char} (none : d ∉ before) (after : List Char) :
    cut d (before ++ d :: after) = some (before, after) := by
  induction before with
  | nil => rw [List.nil_append, cut, if_pos rfl]
  | cons c before ih =>
    obtain ⟨other, none⟩ := not_or.1 fun mem => none (List.mem_cons.2 mem)
    rw [List.cons_append, cut, if_neg (Ne.symm other), ih none]
    rfl

/-- Nothing is cut where there is no delimiter. -/
lemma cut_eq_none_iff {d : Char} {cs : List Char} : cut d cs = none ↔ d ∉ cs := by
  induction cs with
  | nil => exact iff_of_true rfl List.not_mem_nil
  | cons c cs ih =>
    by_cases same : c = d
    · rw [cut, if_pos same, same]
      exact iff_of_false (Option.some_ne_none _) (not_not_intro List.mem_cons_self)
    · rw [cut, if_neg same, Option.map_eq_none_iff, ih, List.mem_cons, not_or]
      exact ⟨fun none => ⟨Ne.symm same, none⟩, And.right⟩

/-- A text that is cut has the delimiter in it. -/
lemma mem_of_cut {d : Char} {cs before after : List Char} (h : cut d cs = some (before, after)) :
    d ∈ cs := by
  rw [eq_append_of_cut h]
  exact List.mem_append_right _ List.mem_cons_self

/-- Before the cut is what comes before the first delimiter. -/
lemma takeWhile_of_cut {d : Char} {cs before after : List Char} (h : cut d cs = some (before, after)) :
    cs.takeWhile (· != d) = before := by
  induction cs generalizing before with
  | nil => cases h
  | cons c cs ih =>
    by_cases same : c = d
    · rw [cut, if_pos same] at h
      cases h
      exact List.takeWhile_cons_of_neg (by simp [same])
    · rw [cut, if_neg same, Option.map_eq_some_iff] at h
      obtain ⟨⟨before', after'⟩, rest, is⟩ := h
      cases is
      rw [List.takeWhile_cons_of_pos (by simp [same]), ih rest]

/-- A text is cut at the last delimiter. -/
lemma cutLast_append {d : Char} {after : List Char} (none : d ∉ after) (before : List Char) :
    cutLast d (before ++ d :: after) = some (before, after) := by
  have reversed : (before ++ d :: after).reverse = after.reverse ++ d :: before.reverse := by simp
  have first := cut_append (fun mem => none (List.mem_reverse.1 mem)) before.reverse
  rw [cutLast, reversed, first]
  simp only [Option.map_some, List.reverse_reverse]

/-- The pieces of a text are those of the library. -/
lemma pieces_eq_splitOn (d : Char) (cs : List Char) : pieces d cs = cs.splitOn d := by
  induction cs with
  | nil => rfl
  | cons c cs ih =>
    rw [List.splitOn_eq_splitOnP, List.splitOnP_cons_eq_if_modifyHead, ← List.splitOn_eq_splitOnP,
      pieces, ih]
    by_cases same : c = d
    · rw [if_pos same, if_pos (beq_iff_eq.2 same)]
    · rw [if_neg same, if_neg (mt eq_of_beq same)]
      cases split : cs.splitOn d with
      | nil => exact absurd split (List.splitOnP_ne_nil _ cs)
      | cons piece more => rfl

/-- Texts without the delimiter are the pieces of what it joins them to. -/
lemma pieces_intercalate {d : Char} {parts : List (List Char)} (filled : parts ≠ [])
    (none : ∀ part ∈ parts, d ∉ part) : pieces d ([d].intercalate parts) = parts := by
  rw [pieces_eq_splitOn, List.splitOn_intercalate d none filled]

/-- No piece has the delimiter in it. -/
lemma notMem_of_mem_pieces {d : Char} {cs piece : List Char} (mem : piece ∈ pieces d cs) :
    d ∉ piece := by
  fun_induction pieces d cs generalizing piece with
  | case1 =>
    rw [List.mem_singleton.1 mem]
    exact List.not_mem_nil
  | case2 rest ih =>
    rcases List.mem_cons.1 mem with rfl | mem
    · exact List.not_mem_nil
    · exact ih mem
  | case3 c rest other empty ih =>
    rw [List.mem_singleton.1 mem, List.mem_singleton]
    exact Ne.symm other
  | case4 c rest other first more split ih =>
    rw [split] at ih
    rcases List.mem_cons.1 mem with rfl | mem
    · rw [List.mem_cons, not_or]
      exact ⟨Ne.symm other, ih List.mem_cons_self⟩
    · exact ih (List.mem_cons_of_mem _ mem)

/-- Characters are left out part by part if the delimiter stays. -/
lemma filter_intercalate {p : Char → Bool} {d : Char} (stays : p d = true) (parts : List (List Char)) :
    ([d].intercalate parts).filter p = [d].intercalate (parts.map (List.filter p)) := by
  have kept : [d].filter p = [d] := List.filter_cons_of_pos stays
  induction parts with
  | nil => rfl
  | cons part parts ih =>
    cases parts with
    | nil => simp only [List.intercalate_singleton, List.map_cons, List.map_nil]
    | cons next parts =>
      rw [List.intercalate_cons_cons, List.filter_append, List.filter_append, kept, ih]
      simp only [List.map_cons, List.intercalate_cons_cons]

/-- The pieces of a text are joined to that text. -/
lemma intercalate_pieces (d : Char) (cs : List Char) : [d].intercalate (pieces d cs) = cs := by
  rw [pieces_eq_splitOn]
  exact List.intercalate_splitOn d

/-- There is always a piece, if only an empty one. -/
lemma pieces_ne_nil (d : Char) (cs : List Char) : pieces d cs ≠ [] := by
  rw [pieces_eq_splitOn, List.splitOn_eq_splitOnP]
  exact List.splitOnP_ne_nil _ cs

/-- Parts without the delimiter are told apart by what it joins them to. -/
lemma intercalate_inj {d : Char} {parts parts' : List (List Char)} (filled : parts ≠ [])
    (filled' : parts' ≠ []) (none : ∀ part ∈ parts, d ∉ part) (none' : ∀ part ∈ parts', d ∉ part) :
    [d].intercalate parts = [d].intercalate parts' ↔ parts = parts' := by
  constructor
  · intro same
    rw [← pieces_intercalate filled none, same, pieces_intercalate filled' none']
  · rintro rfl
    rfl

section Ends

variable {p : Char → Bool} {cs before after : List Char}

/-- Nothing is dropped at the start if no character is to be. -/
lemma dropWhile_eq_self (none : ∀ c ∈ cs, p c = false) : cs.dropWhile p = cs := by
  cases cs with
  | nil => rfl
  | cons c cs => rw [List.dropWhile_cons, none c List.mem_cons_self]; rfl

/-- Nothing is dropped at the end if no character is to be. -/
lemma dropEndWhile_eq_self (none : ∀ c ∈ cs, p c = false) : dropEndWhile p cs = cs := by
  rw [dropEndWhile, dropWhile_eq_self fun c mem => none c (List.mem_reverse.1 mem),
    List.reverse_reverse]

/-- What all goes is dropped from the end of a text together with what goes before it. -/
lemma dropEndWhile_append (all : ∀ c ∈ after, p c = true) (cs : List Char) :
    dropEndWhile p (cs ++ after) = dropEndWhile p cs := by
  rw [dropEndWhile, List.reverse_append,
    List.dropWhile_append_of_pos fun c mem => all c (List.mem_reverse.1 mem), ← dropEndWhile]

/-- Nothing up to a character that stays is dropped. -/
lemma dropEndWhile_append_cons {d : Char} (stays : p d = false) (before after : List Char) :
    dropEndWhile p (before ++ d :: after) = before ++ d :: dropEndWhile p after := by
  induction after using List.reverseRecOn with
  | nil => exact List.rdropWhile_concat_neg p before d (Bool.eq_false_iff.1 stays)
  | append_singleton after c ih =>
    have last : before ++ d :: (after ++ [c]) = (before ++ d :: after) ++ [c] := by simp
    rw [last]
    cases goes : p c with
    | true =>
      have dropped : ∀ cs, dropEndWhile p (cs ++ [c]) = dropEndWhile p cs := fun cs =>
        List.rdropWhile_concat_pos p cs c goes
      rw [dropped, dropped, ih]
    | false =>
      have kept : ∀ cs, dropEndWhile p (cs ++ [c]) = cs ++ [c] := fun cs =>
        List.rdropWhile_concat_neg p cs c (Bool.eq_false_iff.1 goes)
      rw [kept, kept, last]

/-- Nothing is stripped from a text without blanks. -/
lemma strip_eq_self (none : ∀ c ∈ cs, isBlank c = false) : strip cs = cs := by
  rw [strip, dropWhile_eq_self none, dropEndWhile_eq_self none]

/-- A character that stays divides a text into the parts that are stripped at one end. -/
lemma strip_append_cons {d : Char} (stays : isBlank d = false) (before after : List Char) :
    strip (before ++ d :: after) = before.dropWhile isBlank ++ d :: dropEndWhile isBlank after := by
  have start : (before ++ d :: after).dropWhile isBlank = before.dropWhile isBlank ++ d :: after := by
    induction before with
    | nil => exact List.dropWhile_cons_of_neg (Bool.eq_false_iff.1 stays)
    | cons c before ih =>
      cases goes : isBlank c with
      | true =>
        rw [List.cons_append, List.dropWhile_cons_of_pos goes, ih, List.dropWhile_cons_of_pos goes]
      | false =>
        have kept := Bool.eq_false_iff.1 goes
        rw [List.cons_append, List.dropWhile_cons_of_neg kept, List.dropWhile_cons_of_neg kept]
        rfl
  rw [strip, start, dropEndWhile_append_cons stays]

/-- Blanks around a text are stripped. -/
lemma strip_append (blankBefore : isAllBlank before = true) (blankAfter : isAllBlank after = true)
    (cs : List Char) : strip (before ++ cs ++ after) = strip cs := by
  have allAfter := List.all_eq_true.1 blankAfter
  rw [strip, List.append_assoc, List.dropWhile_append_of_pos (List.all_eq_true.1 blankBefore), strip,
    List.dropWhile_append]
  cases rest : cs.dropWhile isBlank with
  | nil =>
    rw [List.isEmpty_nil, if_pos rfl, ← List.append_nil after, List.dropWhile_append_of_pos allAfter]
    rfl
  | cons c rest =>
    rw [List.isEmpty_cons, if_neg Bool.false_ne_true, dropEndWhile_append allAfter]

/-- Blanks at the end may be dropped beforehand. -/
lemma strip_dropEndWhile (cs : List Char) : strip (dropEndWhile isBlank cs) = strip cs := by
  have split : dropEndWhile isBlank cs ++ cs.rtakeWhile isBlank = cs := List.rdropWhile_append_rtakeWhile
  have blank : isAllBlank (cs.rtakeWhile isBlank) = true :=
    List.all_eq_true.2 fun _ => List.mem_rtakeWhile_imp
  have noneBefore : isAllBlank [] = true := rfl
  have stripped := strip_append noneBefore blank (dropEndWhile isBlank cs)
  rwa [List.nil_append, split, eq_comm] at stripped

/-- What is dropped from the start of a text would not be kept in it. -/
lemma filter_dropWhile (p : Char → Bool) (cs : List Char) :
    ((cs.dropWhile p).filter fun c => !p c) = cs.filter fun c => !p c := by
  induction cs with
  | nil => rfl
  | cons c cs ih =>
    cases goes : p c with
    | true => rw [List.dropWhile_cons_of_pos goes, ih, List.filter_cons_of_neg (by simp [goes])]
    | false => rw [List.dropWhile_cons_of_neg (Bool.eq_false_iff.1 goes)]

/-- Stripping takes blanks away and nothing else. -/
lemma filter_strip (cs : List Char) :
    ((strip cs).filter fun c => !isBlank c) = cs.filter fun c => !isBlank c := by
  rw [strip, dropEndWhile, List.filter_reverse, filter_dropWhile, List.filter_reverse,
    List.reverse_reverse, filter_dropWhile]

end Ends

/-- What is left by dropping the end is a start. -/
lemma isPrefix_dropEndWhile (p : Char → Bool) (cs : List Char) : dropEndWhile p cs <+: cs :=
  List.rdropWhile_prefix p cs

/-- What is left by stripping was there before. -/
lemma mem_of_mem_strip {cs : List Char} {c : Char} (mem : c ∈ strip cs) : c ∈ cs :=
  (List.dropWhile_suffix _).subset ((isPrefix_dropEndWhile _ _).subset mem)

/-- A text without blanks at its ends. -/
structure Stripped (cs : List Char) : Prop where
  first : ∀ c ∈ cs.head?, isBlank c = false
  last : ∀ c ∈ cs.getLast?, isBlank c = false

/-- A stripped text has no blanks around it. -/
lemma stripped_strip (cs : List Char) : Stripped (strip cs) where
  first := by
    intro c first
    have kept : c ∈ (cs.dropWhile isBlank).head? := by
      obtain ⟨after, whole⟩ := isPrefix_dropEndWhile isBlank (cs.dropWhile isBlank)
      rw [← whole]
      exact List.mem_head?_append_of_mem_head? first
    have found := List.head?_dropWhile_not isBlank cs
    rw [Option.mem_def.1 kept] at found
    exact found
  last := by
    intro c last
    rw [strip, dropEndWhile, List.getLast?_reverse] at last
    have found := List.head?_dropWhile_not isBlank (cs.dropWhile isBlank).reverse
    rw [Option.mem_def.1 last] at found
    exact found

namespace Stripped

variable {cs : List Char}

/-- A text without blanks around it stays as it is when it is stripped. -/
lemma strip_eq (h : Stripped cs) : strip cs = cs := by
  have noneBefore : cs.dropWhile isBlank = cs := by
    cases cs with
    | nil => rfl
    | cons c cs => exact List.dropWhile_cons_of_neg (Bool.eq_false_iff.1 (h.first c rfl))
  rw [strip, noneBefore]
  cases cs using List.reverseRecOn with
  | nil => rfl
  | append_singleton cs c _ =>
    exact List.rdropWhile_concat_neg _ _ _ (Bool.eq_false_iff.1 (h.last c List.getLast?_concat))

/-- It stays so if other characters that are not blank take the place of some. -/
lemma map (h : Stripped cs) {f : Char → Char} (filled : ∀ c, isBlank (f c) = isBlank c) :
    Stripped (cs.map f) where
  first := by
    intro c first
    rw [List.head?_map] at first
    obtain ⟨d, was, rfl⟩ := Option.map_eq_some_iff.1 first
    exact (filled d).trans (h.first d was)
  last := by
    intro c last
    rw [List.getLast?_map] at last
    obtain ⟨d, was, rfl⟩ := Option.map_eq_some_iff.1 last
    exact (filled d).trans (h.last d was)

end Stripped

section Filled

variable {parts : List (List Char)} {part : List Char}

/-- A part that is left when blanks are cut off and what is blank altogether is left out. -/
lemma of_mem_filled (mem : part ∈ (parts.map strip).filter fun part => !part.isEmpty) :
    ∃ whole ∈ parts, strip whole = part ∧ part ≠ [] := by
  obtain ⟨stripped, filled⟩ := List.mem_filter.1 mem
  obtain ⟨whole, among, is⟩ := List.mem_map.1 stripped
  refine ⟨whole, among, is, ?_⟩
  rintro rfl
  cases filled

/-- Nothing is cut off or left out any more of what is left. -/
lemma filled_eq_self (h : ∀ part ∈ parts, Stripped part ∧ part ≠ []) :
    ((parts.map strip).filter fun part => !part.isEmpty) = parts := by
  have stripped : parts.map strip = parts :=
    (List.map_congr_left fun part mem => (h part mem).1.strip_eq).trans parts.map_id
  rw [stripped]
  refine List.filter_eq_self.2 fun part mem => ?_
  rw [Bool.not_eq_true', List.isEmpty_eq_false_iff]
  exact (h part mem).2

end Filled

end ProxyChain.Text
