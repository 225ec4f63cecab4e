import ProxyChain.Text.Blank

/-!
# Lines

A text is cut into lines at line feeds. A carriage return right before a line feed belongs to the
line end; one anywhere else belongs to the line. A line feed at the end of the text ends the last
line and starts none.
-/

namespace ProxyChain.Text

/-- The lines of a text. -/
def lines : List Char → List (List Char)
  | [] => []
  | '\n' :: rest => [] :: lines rest
  | '\r' :: '\n' :: rest => [] :: lines rest
  | c :: rest =>
    match lines rest with
    | [] => [[c]]
    | line :: more => (c :: line) :: more

/-- The lines of a text, blank ends cut off, those that are blank altogether left out. -/
def filledLines (s : String) : List String :=
  ((lines s.toList).map strip).filter (fun line => !line.isEmpty) |>.map String.ofList

/-- The filled lines of a text, unless there are none. -/
def filledLines? (s : String) : Option (List String) :=
  match filledLines s with
  | [] => none
  | items => some items

/-- All lines of a text, unless it is blank. -/
def allLines? (s : String) : Option (List String) :=
  if isAllBlank s.toList then none else some ((lines s.toList).map String.ofList)

/-- Joins texts with a line feed between neighbours. -/
def joinLines (items : List String) : String := "\n".intercalate items

/-- The text itself, unless it is empty. -/
def nonEmpty? (s : String) : Option String := if s.isEmpty then none else some s

end ProxyChain.Text
