import ProxyChain.Outbound.Tls
import ProxyChain.Proofs.Text.Trim
import Mathlib.Tactic.Common

/-!
# Texts line by line

A text that is cut into lines and joined again loses its line ends, and the blanks around its lines if
those are cut off. `filledText` and `lineText` say what is left. Of `filledText` the same is left again
(`filledText_filledText`), but not always of `lineText`: joining sets line feeds between the lines and
cutting takes them for the ends of lines, so that a last line that is empty is lost, and carriage returns
at the ends of the others (`lineText_lineText_iff`).
-/

namespace ProxyChain

namespace Text

/-- The filled lines of a text, one a line. -/
def filledText (s : String) : String := joinLines (filledLines s)

/-- All lines of a text, one a line; nothing of a text that is blank. -/
def lineText (s : String) : String :=
  if isAllBlank s.toList then "" else joinLines ((lines s.toList).map String.ofList)

/-- A text that is empty counts as none. -/
lemma nonEmpty?_eq (s : String) : nonEmpty? s = if s = "" then none else some s := by
  simp only [nonEmpty?, String.isEmpty_iff]

/-- A text that is left out when it is empty is empty when it is left out. -/
lemma getD_nonEmpty? (s : String) : (nonEmpty? s).getD "" = s := by
  rw [nonEmpty?_eq]
  split
  · next empty => exact empty.symm
  · rfl

/-- The same for what is made of the text and kept. -/
lemma getD_map_nonEmpty? {α : Type} {make : String → α} {p : α → Bool} {read : α → String} {s : String}
    (kept : p (make s) = true) :
    ((((nonEmpty? s).map make).filter p).map read).getD "" = if s = "" then "" else read (make s) := by
  rw [nonEmpty?_eq]
  split
  · rfl
  · rw [Option.map_some, Option.filter_some, if_pos kept]
    rfl

section Lines

/-- A line without the carriage return at its end. -/
def withoutReturn (line : List Char) : List Char :=
  if line.getLast? = some '\r' then line.dropLast else line

/-- Nothing is cut off a line exactly if it does not end in a carriage return. -/
lemma withoutReturn_eq_self_iff {line : List Char} :
    withoutReturn line = line ↔ line.getLast? ≠ some '\r' := by
  unfold withoutReturn
  split
  · next ending =>
    refine iff_of_false (fun same => ?_) (fun other => other ending)
    have length := congrArg List.length same
    rw [List.length_dropLast] at length
    cases line with
    | nil => cases ending
    | cons c line => simp at length
  · next other => exact iff_of_true rfl other

/-- The first character of a line stays, unless it is a carriage return and nothing follows. -/
lemma withoutReturn_cons {c : Char} {line : List Char} (h : c = '\r' → line ≠ []) :
    withoutReturn (c :: line) = c :: withoutReturn line := by
  cases line with
  | nil =>
    have other : c ≠ '\r' := fun same => h same rfl
    simp [withoutReturn, other]
  | cons d line =>
    simp only [withoutReturn, List.getLast?_cons_cons, List.dropLast_cons_cons]
    split <;> rfl

/-- A character that ends no line is in front of the first one. -/
lemma lines_cons {c : Char} {rest : List Char} (feed : c ≠ '\n')
    (ending : c = '\r' → rest.head? ≠ some '\n') :
    lines (c :: rest) = match lines rest with
      | [] => [[c]]
      | line :: more => (c :: line) :: more := by
  have noReturn (after : List Char) (same : c = '\r') (next : rest = '\n' :: after) : False :=
    ending same (congrArg List.head? next)
  exact lines.eq_4 c rest feed noReturn

/-- The first line ends at the first line feed. -/
lemma lines_append_feed {line : List Char} (noFeed : '\n' ∉ line) (rest : List Char) :
    lines (line ++ '\n' :: rest) = withoutReturn line :: lines rest := by
  induction line with
  | nil => rfl
  | cons c line ih =>
    obtain ⟨other, noFeed⟩ := not_or.1 fun mem => noFeed (List.mem_cons.2 mem)
    by_cases ending : c = '\r' ∧ line = []
    · obtain ⟨rfl, rfl⟩ := ending
      rfl
    · have kept : c = '\r' → line ≠ [] := fun same empty => ending ⟨same, empty⟩
      rw [List.cons_append, lines_cons (Ne.symm other), ih noFeed, withoutReturn_cons kept]
      intro same first
      cases line with
      | nil => exact kept same rfl
      | cons d line => exact noFeed (Option.some.inj first ▸ List.mem_cons_self)

/-- A text without line feeds is a line, unless it is empty. -/
lemma lines_of_notMem {line : List Char} (noFeed : '\n' ∉ line) :
    lines line = if line = [] then [] else [line] := by
  induction line with
  | nil => rfl
  | cons c line ih =>
    obtain ⟨other, noFeed⟩ := not_or.1 fun mem => noFeed (List.mem_cons.2 mem)
    rw [lines_cons (Ne.symm other) fun _ first => noFeed (List.mem_of_mem_head? first), ih noFeed]
    cases line <;> rfl

/-- There is no line feed in a line. -/
lemma notMem_of_mem_lines {cs line : List Char} (mem : line ∈ lines cs) : '\n' ∉ line := by
  fun_induction lines cs generalizing line with
  | case1 => cases mem
  | case2 rest ih | case3 rest ih =>
    rcases List.mem_cons.1 mem with rfl | mem
    · exact List.not_mem_nil
    · exact ih mem
  | case4 c rest feed _ empty ih =>
    rw [List.mem_singleton.1 mem, List.mem_singleton]
    exact Ne.symm feed
  | case5 c rest feed _ first more split ih =>
    rw [split] at ih
    rcases List.mem_cons.1 mem with rfl | mem
    · rw [List.mem_cons, not_or]
      exact ⟨Ne.symm feed, ih List.mem_cons_self⟩
    · exact ih (List.mem_cons_of_mem _ mem)

/-- Every character that is not blank is in a line. -/
lemma exists_line {cs : List Char} {c : Char} (mem : c ∈ cs) (filled : isBlank c = false) :
    ∃ line ∈ lines cs, c ∈ line := by
  fun_induction lines cs with
  | case1 => cases mem
  | case2 rest ih =>
    rcases List.mem_cons.1 mem with rfl | mem
    · cases filled
    · obtain ⟨line, among, mem⟩ := ih mem
      exact ⟨line, List.mem_cons_of_mem _ among, mem⟩
  | case3 rest ih =>
    obtain rfl | rfl | mem := (List.mem_cons.1 mem).imp_right List.mem_cons.1
    · cases filled
    · cases filled
    · obtain ⟨line, among, mem⟩ := ih mem
      exact ⟨line, List.mem_cons_of_mem _ among, mem⟩
  | case4 d rest _ _ empty ih =>
    rcases List.mem_cons.1 mem with rfl | mem
    · exact ⟨[c], List.mem_cons_self, List.mem_cons_self⟩
    · obtain ⟨line, among, -⟩ := ih mem
      rw [empty] at among
      cases among
  | case5 d rest _ _ first more split ih =>
    rcases List.mem_cons.1 mem with rfl | mem
    · exact ⟨_, List.mem_cons_self, List.mem_cons_self⟩
    · obtain ⟨line, among, mem⟩ := ih mem
      rw [split] at among
      rcases List.mem_cons.1 among with rfl | among
      · exact ⟨_, List.mem_cons_self, List.mem_cons_of_mem _ mem⟩
      · exact ⟨line, List.mem_cons_of_mem _ among, mem⟩

/-- A text that is not blank has lines. -/
lemma lines_ne_nil {cs : List Char} (h : isAllBlank cs = false) : lines cs ≠ [] := by
  obtain ⟨c, mem, filled⟩ := List.all_eq_false.1 h
  obtain ⟨line, among, -⟩ := exists_line mem (Bool.eq_false_iff.2 filled)
  exact List.ne_nil_of_mem among

end Lines

section Joined

variable {ls : List (List Char)} {last : List Char}

/-- What is in a part is in what the parts are joined to. -/
lemma mem_intercalate {sep part : List Char} {parts : List (List Char)} {c : Char}
    (among : part ∈ parts) (mem : c ∈ part) : c ∈ sep.intercalate parts := by
  induction parts with
  | nil => cases among
  | cons first parts ih =>
    cases parts with
    | nil =>
      rw [List.intercalate_singleton, ← List.mem_singleton.1 among]
      exact mem
    | cons second parts =>
      rw [List.intercalate_cons_cons, List.append_assoc]
      rcases List.mem_cons.1 among with rfl | among
      · exact List.mem_append_left _ mem
      · exact List.mem_append_right _ (List.mem_append_right _ (ih among))

/-- A text that is not blank is not blank either when its lines are joined. -/
lemma isAllBlank_intercalate_lines {cs : List Char} (h : isAllBlank cs = false) :
    isAllBlank (['\n'].intercalate (lines cs)) = false := by
  obtain ⟨c, mem, filled⟩ := List.all_eq_false.1 h
  obtain ⟨line, among, mem⟩ := exists_line mem (Bool.eq_false_iff.2 filled)
  exact List.all_eq_false.2 ⟨c, mem_intercalate among mem, filled⟩

/-- Lines that are joined and cut again lose the carriage returns at their ends, except for the last line,
which is lost altogether if it is empty. -/
lemma lines_intercalate (noFeed : ∀ line ∈ ls, '\n' ∉ line) (noFeed' : '\n' ∉ last) :
    lines (['\n'].intercalate (ls ++ [last]))
      = ls.map withoutReturn ++ if last = [] then [] else [last] := by
  induction ls with
  | nil =>
    rw [List.nil_append, List.intercalate_singleton, lines_of_notMem noFeed']
    rfl
  | cons line ls ih =>
    rw [List.cons_append, List.intercalate_cons_of_ne_nil (by simp), List.append_assoc,
      List.singleton_append, lines_append_feed (noFeed line List.mem_cons_self),
      ih fun line mem => noFeed line (List.mem_cons_of_mem _ mem)]
    rfl

/-- Other lines are found again. -/
lemma lines_intercalate_eq_self (noFeed : ∀ line ∈ ls, '\n' ∉ line)
    (noReturn : ∀ line ∈ ls.dropLast, line.getLast? ≠ some '\r') (filled : ls.getLast? ≠ some []) :
    lines (['\n'].intercalate ls) = ls := by
  cases ls using List.reverseRecOn with
  | nil => rfl
  | append_singleton ls last =>
    rw [List.dropLast_concat] at noReturn
    rw [List.getLast?_concat] at filled
    have kept : ls.map withoutReturn = ls.map id :=
      List.map_congr_left fun line mem => withoutReturn_eq_self_iff.2 (noReturn line mem)
    rw [lines_intercalate (fun line mem => noFeed line (List.mem_append_left _ mem))
      (noFeed last List.mem_concat_self), kept, List.map_id,
      if_neg fun empty => filled (congrArg some empty)]

/-- Joined lines stay as they are when they are cut and joined again exactly if they are found again. -/
lemma intercalate_lines_eq_self_iff {cs : List Char} (h : isAllBlank cs = false) :
    ['\n'].intercalate (lines (['\n'].intercalate (lines cs))) = ['\n'].intercalate (lines cs) ↔
      (lines cs).getLast? ≠ some [] ∧ ∀ line ∈ (lines cs).dropLast, line.getLast? ≠ some '\r' := by
  constructor
  · intro same
    have again : lines (['\n'].intercalate (lines cs)) = lines cs := by
      have pieces := congrArg (pieces '\n') same
      rwa [pieces_intercalate (lines_ne_nil (isAllBlank_intercalate_lines h))
        fun _ => notMem_of_mem_lines, pieces_intercalate (lines_ne_nil h)
        fun _ => notMem_of_mem_lines] at pieces
    obtain empty | ⟨ls, last, split⟩ := (lines cs).eq_nil_or_concat'
    · exact absurd empty (lines_ne_nil h)
    have noFeed (line : List Char) (mem : line ∈ ls ++ [last]) : '\n' ∉ line :=
      notMem_of_mem_lines (split ▸ mem)
    rw [split, lines_intercalate (fun line mem => noFeed line (List.mem_append_left _ mem))
      (noFeed last List.mem_concat_self)] at again
    rw [split, List.getLast?_concat, List.dropLast_concat]
    by_cases empty : last = []
    · -- One line would be missing.
      have length := congrArg List.length again
      simp [empty] at length
    · rw [if_neg empty] at again
      have kept : ls.map withoutReturn = ls.map id :=
        (List.append_cancel_right again).trans ls.map_id.symm
      exact ⟨fun same => empty (Option.some.inj same), fun line mem =>
        withoutReturn_eq_self_iff.1 (List.map_inj_left.1 kept line mem)⟩
  · rintro ⟨filled, noReturn⟩
    rw [lines_intercalate_eq_self (fun _ => notMem_of_mem_lines) noReturn filled]

/-- Lines are joined by line feeds. -/
lemma toList_joinLines (ls : List (List Char)) :
    (joinLines (ls.map String.ofList)).toList = ['\n'].intercalate ls := by
  have same : (ls.map String.ofList).map String.toList = ls := by
    rw [List.map_map]
    exact (List.map_congr_left fun line _ => String.toList_ofList).trans ls.map_id
  rw [joinLines, String.toList_intercalate, same]
  rfl

end Joined

/-- A text whose lines are found again when it has been cut into lines and joined: it is blank, or its last
line is not empty and none of the others ends in a carriage return. -/
def LinesKept (s : String) : Prop :=
  isAllBlank s.toList = true ∨ (lines s.toList).getLast? ≠ some [] ∧
    ∀ line ∈ (lines s.toList).dropLast, line.getLast? ≠ some '\r'
  deriving Decidable

/-- A text that is not blank is written as its lines, joined by line feeds. -/
lemma toList_lineText {s : String} (h : isAllBlank s.toList = false) :
    (lineText s).toList = ['\n'].intercalate (lines s.toList) := by
  rw [lineText, h, if_neg Bool.false_ne_true, toList_joinLines]

/-- The lines that are left of a text are left again exactly if they are found again. -/
lemma lineText_lineText_iff (s : String) : lineText (lineText s) = lineText s ↔ LinesKept s := by
  unfold LinesKept
  cases blank : isAllBlank s.toList with
  | true =>
    rw [lineText, lineText, blank]
    exact iff_of_true rfl (.inl rfl)
  | false =>
    have blank' : isAllBlank (lineText s).toList = false := by
      rw [toList_lineText blank]
      exact isAllBlank_intercalate_lines blank
    rw [← String.toList_inj, toList_lineText blank', toList_lineText blank,
      intercalate_lines_eq_self_iff blank, or_iff_right Bool.false_ne_true]

/-- What is left of the filled lines of a text is left again. -/
lemma filledText_filledText (s : String) : filledText (filledText s) = filledText s := by
  have shape : ∃ ls : List (List Char), filledLines s = ls.map String.ofList ∧
      ∀ line ∈ ls, '\n' ∉ line ∧ Stripped line ∧ line ≠ [] := by
    refine ⟨_, rfl, fun line mem => ?_⟩
    obtain ⟨whole, among, rfl, filled⟩ := of_mem_filled mem
    exact ⟨fun feed => notMem_of_mem_lines among (mem_of_mem_strip feed), stripped_strip whole, filled⟩
  obtain ⟨ls, filled, shaped⟩ := shape
  have again : lines (['\n'].intercalate ls) = ls := by
    refine lines_intercalate_eq_self (fun line mem => (shaped line mem).1) ?_ ?_
    · intro line mem ending
      -- A carriage return is blank.
      cases (shaped line ((List.dropLast_sublist ls).subset mem)).2.1.last _ ending
    · intro last
      exact (shaped [] (List.mem_of_getLast? last)).2.2 rfl
  have fixed : filledLines (filledText s) = filledLines s := by
    rw [filledLines, filledText, filled, toList_joinLines, again,
      filled_eq_self fun line mem => (shaped line mem).2]
  rw [filledText, fixed, filledText]

section Told

/-- The lines of a text. Each ends in a line feed or in a carriage return and a line feed. Only the last one
may go without, if it is not empty. -/
inductive IsLines : (cs : List Char) → (ls : List (List Char)) → Prop where
  | none : IsLines [] []
  | last {line : List Char} (filled : line ≠ []) (noFeed : '\n' ∉ line) : IsLines line [line]
  | feed {line rest : List Char} {ls : List (List Char)} (noFeed : '\n' ∉ line)
      (noReturn : line.getLast? ≠ some '\r') (more : IsLines rest ls) :
      IsLines (line ++ '\n' :: rest) (line :: ls)
  | returnFeed {line rest : List Char} {ls : List (List Char)} (noFeed : '\n' ∉ line)
      (more : IsLines rest ls) : IsLines (line ++ '\r' :: '\n' :: rest) (line :: ls)

/-- A carriage return at the end of a line is cut off. -/
lemma withoutReturn_concat (line : List Char) : withoutReturn (line ++ ['\r']) = line := by
  rw [withoutReturn, List.getLast?_concat, if_pos rfl, List.dropLast_concat]

/-- A line may end in both characters. -/
lemma lines_append_returnFeed {line : List Char} (noFeed : '\n' ∉ line) (rest : List Char) :
    lines (line ++ '\r' :: '\n' :: rest) = line :: lines rest := by
  have noFeed' : '\n' ∉ line ++ ['\r'] := by simpa using noFeed
  have cut := lines_append_feed noFeed' rest
  rwa [List.append_assoc, List.singleton_append, withoutReturn_concat] at cut

/-- A text is cut into its lines. -/
lemma isLines_lines (cs : List Char) : IsLines cs (lines cs) := by
  induction length : cs.length using Nat.strongRecOn generalizing cs with
  | ind n ih =>
    subst length
    by_cases feed : '\n' ∈ cs
    · obtain ⟨line, rest, rfl, noFeed⟩ := List.eq_append_cons_of_mem feed
      have more : IsLines rest (lines rest) := ih _ (by simp; omega) rest rfl
      by_cases ending : line.getLast? = some '\r'
      · obtain ⟨line, rfl⟩ := List.getLast?_eq_some_iff.1 ending
        have noFeed' : '\n' ∉ line := fun mem => noFeed (List.mem_append_left _ mem)
        rw [List.append_assoc, List.singleton_append, lines_append_returnFeed noFeed']
        exact .returnFeed noFeed' more
      · rw [lines_append_feed noFeed, withoutReturn_eq_self_iff.2 ending]
        exact .feed noFeed ending more
    · rw [lines_of_notMem feed]
      split
      · next empty =>
        subst empty
        exact .none
      · next filled => exact .last filled feed

/-- The lines of a text are those that it is cut into. -/
lemma isLines_iff {cs : List Char} {ls : List (List Char)} : IsLines cs ls ↔ lines cs = ls := by
  constructor
  · intro isLines
    induction isLines with
    | none => rfl
    | last filled noFeed => rw [lines_of_notMem noFeed, if_neg filled]
    | feed noFeed noReturn _ ih =>
      rw [lines_append_feed noFeed, withoutReturn_eq_self_iff.2 noReturn, ih]
    | returnFeed noFeed _ ih => rw [lines_append_returnFeed noFeed, ih]
  · rintro rfl
    exact isLines_lines cs

/-- A text holds the trimmed lines of another one that are not blank, one a line. -/
def HoldsTrimmed (s held : String) : Prop :=
  ∃ ls kept, IsLines s.toList ls ∧ FillsIn ls kept ∧ held.toList = ['\n'].intercalate kept

/-- A text holds the lines of another one, one a line; if that is blank it is empty. -/
inductive HoldsLines (s : String) : (held : String) → Prop where
  | blank (white : ∀ c ∈ s.toList, WhiteSpace c) : HoldsLines s ""
  | lines {ls : List (List Char)} {held : String} {c : Char} (mem : c ∈ s.toList)
      (filled : ¬ WhiteSpace c) (isLines : IsLines s.toList ls)
      (joined : held.toList = ['\n'].intercalate ls) : HoldsLines s held

/-- The trimmed lines are those of `filledText`. -/
lemma holdsTrimmed_iff {s held : String} : HoldsTrimmed s held ↔ filledText s = held := by
  rw [← String.toList_inj, filledText, filledLines, toList_joinLines]
  constructor
  · rintro ⟨ls, kept, isLines, fills, joined⟩
    rw [joined, isLines_iff.1 isLines, fillsIn_iff.1 fills]
  · intro joined
    exact ⟨_, _, isLines_lines _, fillsIn_iff.2 rfl, joined.symm⟩

/-- The lines are those of `lineText`. -/
lemma holdsLines_iff {s held : String} : HoldsLines s held ↔ lineText s = held := by
  constructor
  · intro holds
    cases holds with
    | blank white => rw [lineText, isAllBlank_iff.2 white, if_pos rfl]
    | lines mem filled isLines joined =>
      have notBlank : isAllBlank s.toList = false :=
        List.all_eq_false.2 ⟨_, mem, by rw [isBlank_eq_false_iff.2 filled]; exact Bool.false_ne_true⟩
      rw [← String.toList_inj, toList_lineText notBlank, isLines_iff.1 isLines, joined]
  · rintro rfl
    cases blank : isAllBlank s.toList with
    | true =>
      rw [lineText, blank, if_pos rfl]
      exact .blank (isAllBlank_iff.1 blank)
    | false =>
      obtain ⟨c, mem, filled⟩ := List.all_eq_false.1 blank
      exact .lines mem (isBlank_eq_false_iff.1 (Bool.eq_false_iff.2 filled)) (isLines_lines _)
        (toList_lineText blank)

end Told

end Text

namespace Tls

/-- The filled lines of a text are read as its trimmed lines. -/
lemma lines_filledLines? (s : String) : lines (Text.filledLines? s) = Text.filledText s := by
  rw [lines, Text.filledLines?, Text.filledText]
  cases Text.filledLines s <;> rfl

/-- The lines of a text are read as they are. -/
lemma lines_allLines? (s : String) : lines (Text.allLines? s) = Text.lineText s := by
  rw [lines, Text.allLines?, Text.lineText]
  split <;> rfl

/-- What a profile's encrypted client hello leaves of its configuration. -/
lemma lines_config_ofProfile? (enabled : Bool) (config : String) :
    lines ((Ech.ofProfile? enabled config).bind (·.config))
      = if enabled then Text.filledText config else "" := by
  rw [← lines_filledLines?]
  cases enabled <;> rfl

/-- An encrypted client hello is on exactly if it is set. -/
lemma enabled_ofProfile? (enabled : Bool) (config : String) :
    ((Ech.ofProfile? enabled config).map (·.enabled)).getD false = enabled := by
  cases enabled <;> rfl

end Tls

end ProxyChain
