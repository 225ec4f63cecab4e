/-!
# Cutting texts at a delimiter

The first or the last occurrence of a delimiter cuts a text in two; all occurrences cut it into
pieces. The delimiter itself is in no piece.
-/

namespace ProxyChain.Text

/-- The parts before and after the first `d`, if there is one. -/
def cut (d : Char) : List Char → Option (List Char × List Char)
  | [] => none
  | c :: rest =>
    if c = d then some ([], rest) else (cut d rest).map fun (before, after) => (c :: before, after)

/-- The parts before and after the last `d`, if there is one. -/
def cutLast (d : Char) (cs : List Char) : Option (List Char × List Char) :=
  (cut d cs.reverse).map fun (after, before) => (before.reverse, after.reverse)

/-- The pieces between occurrences of `d`; one more than there are occurrences. -/
def pieces (d : Char) : List Char → List (List Char)
  | [] => [[]]
  | c :: rest =>
    if c = d then [] :: pieces d rest
    else
      match pieces d rest with
      | [] => [[c]]
      | piece :: more => (c :: piece) :: more

/-- The text after `start`, if the text starts so. -/
def dropStart? : (start cs : List Char) → Option (List Char)
  | [], cs => some cs
  | _ :: _, [] => none
  | s :: start, c :: cs => if s = c then dropStart? start cs else none

/-- Every `old` becomes `new`. -/
def swap (old new : Char) (s : String) : String :=
  String.ofList (s.toList.map fun c => if c = old then new else c)

/-- Nothing but the delimiter is lost. -/
theorem eq_append_of_cut {d : Char} {cs before after : List Char}
    (h : cut d cs = some (before, after)) : cs = before ++ d :: after := by
  induction cs generalizing before with
  | nil => simp [cut] at h
  | cons c rest ih =>
    by_cases hc : c = d
    · simp [cut, hc] at h
      simp [← h.1, ← h.2, hc]
    · simp only [cut, hc, if_false, Option.map_eq_some_iff] at h
      obtain ⟨⟨b, a⟩, hcut, heq⟩ := h
      cases heq
      simp [ih hcut]

end ProxyChain.Text
