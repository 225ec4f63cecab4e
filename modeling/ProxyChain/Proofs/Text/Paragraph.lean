import Mathlib.Data.List.Basic

/-!
# Paragraphs

Between the paragraphs of a text stand two line feeds. They are found from the front, so that of three
line feeds the third belongs to the paragraph that follows. In a dense text no line feed is followed by
another one or by the end, which is why dense paragraphs that are joined are found again
(`paragraphs_intercalate`).
-/

namespace ProxyChain.Text

/-- What stands between two paragraphs. -/
def emptyLine : List Char := ['\n', '\n']

/-- The paragraphs of a text, in order. -/
def paragraphs : List Char → List (List Char)
  | [] => [[]]
  | '\n' :: '\n' :: cs => [] :: paragraphs cs
  | c :: cs => (paragraphs cs).modifyHead (c :: ·)

/-- Every line feed is followed by a character that is none. -/
inductive Dense : List Char → Prop where
  | nil : Dense []
  | char {c : Char} {cs : List Char} (plain : c ≠ '\n') (rest : Dense cs) : Dense (c :: cs)
  | feed {c : Char} {cs : List Char} (plain : c ≠ '\n') (rest : Dense cs) : Dense ('\n' :: c :: cs)

variable {c : Char} {cs ds : List Char}

/-- A plain character starts the first paragraph. -/
lemma paragraphs_cons (plain : c ≠ '\n') (cs : List Char) :
    paragraphs (c :: cs) = (paragraphs cs).modifyHead (c :: ·) := by
  rw [paragraphs]
  exact fun _ feed => absurd feed plain

/-- A line feed with a plain character behind it stays in the first paragraph. -/
lemma paragraphs_feed_cons (plain : c ≠ '\n') (cs : List Char) :
    paragraphs ('\n' :: c :: cs) = (paragraphs (c :: cs)).modifyHead ('\n' :: ·) := by
  rw [paragraphs]
  exact fun _ _ same => absurd (List.cons.inj same).1 plain

namespace Dense

/-- A text without line feeds is dense. -/
lemma of_notMem (h : '\n' ∉ cs) : Dense cs := by
  induction cs with
  | nil => exact .nil
  | cons c cs ih =>
    rw [List.mem_cons, not_or] at h
    exact .char (Ne.symm h.1) (ih h.2)

/-- A dense text goes on densely with another one. -/
lemma append (h : Dense cs) (h' : Dense ds) : Dense (cs ++ ds) := by
  induction h with
  | nil => exact h'
  | char plain _ ih => exact .char plain ih
  | feed plain _ ih => exact .feed plain ih

/-- A dense text holds no empty line and does not take part in one after it. -/
lemma paragraphs_append (h : Dense cs) (ds : List Char) :
    paragraphs (cs ++ ds) = (paragraphs ds).modifyHead (cs ++ ·) := by
  induction h with
  | nil => exact (congrFun List.modifyHead_id (paragraphs ds)).symm
  | char plain _ ih =>
    rw [List.cons_append, paragraphs_cons plain, ih, List.modifyHead_modifyHead]
    rfl
  | feed plain _ ih =>
    rw [List.cons_append, List.cons_append, paragraphs_feed_cons plain, paragraphs_cons plain, ih,
      List.modifyHead_modifyHead, List.modifyHead_modifyHead]
    rfl

end Dense

/-- Dense paragraphs that were joined by empty lines are found again. -/
theorem paragraphs_intercalate {first : List Char} {others : List (List Char)}
    (dense : ∀ part ∈ first :: others, Dense part) :
    paragraphs (emptyLine.intercalate (first :: others)) = first :: others := by
  induction others generalizing first with
  | nil =>
    have whole := (dense first List.mem_cons_self).paragraphs_append []
    rw [List.append_nil] at whole
    rw [List.intercalate_singleton, whole]
    exact congrArg (fun part => [part]) (List.append_nil first)
  | cons second others ih =>
    have rest := ih fun part mem => dense part (List.mem_cons_of_mem _ mem)
    rw [List.intercalate_cons_cons, List.append_assoc,
      (dense first List.mem_cons_self).paragraphs_append]
    change ([] :: paragraphs (emptyLine.intercalate (second :: others))).modifyHead (first ++ ·) = _
    rw [rest, List.modifyHead_cons, List.append_nil]

/-- Of three line feeds the third is no part of the empty line. -/
example : paragraphs "a\n\n\nb".toList = ["a".toList, "\nb".toList] := by decide

end ProxyChain.Text
