import ProxyChain.Json.Scanner
import Mathlib.Tactic.Common

/-!
# The grammar of JSON text

The rules of RFC 8259 as predicates on characters, apart from any parser: a text is JSON if it is a
value with white space around it (`IsText`). The grammar has no limit on how deep arrays and objects
nest and none on the size of numbers.
-/

namespace ProxyChain.Json

/-- White space, possibly none. -/
def IsSpace (cs : List Char) : Prop := ∀ c ∈ cs, Scan.isSpace c = true

/-! ## Numbers -/

/-- At least one digit. -/
structure IsDigits (cs : List Char) : Prop where
  filled : cs ≠ []
  digits : ∀ c ∈ cs, c.isDigit = true

/-- A whole part is zero or does not start with zero. -/
inductive IsWhole : List Char → Prop where
  | zero : IsWhole ['0']
  | digits {cs : List Char} (digits : IsDigits cs) (first : cs.head? ≠ some '0') : IsWhole cs

inductive IsFraction : List Char → Prop where
  | absent : IsFraction []
  | digits {cs : List Char} (digits : IsDigits cs) : IsFraction ('.' :: cs)

inductive IsSign : List Char → Prop where
  | absent : IsSign []
  | plus : IsSign ['+']
  | minus : IsSign ['-']

inductive IsExponent : List Char → Prop where
  | absent : IsExponent []
  | digits {mark : Char} {sign cs : List Char} (marks : Scan.isExponentMark mark = true)
      (signed : IsSign sign) (digits : IsDigits cs) : IsExponent (mark :: sign ++ cs)

/-- A number without its sign. -/
inductive IsMagnitude : List Char → Prop where
  | parts {ws fs es : List Char} (whole : IsWhole ws) (fraction : IsFraction fs)
      (exponent : IsExponent es) : IsMagnitude (ws ++ fs ++ es)

inductive IsNumber : List Char → Prop where
  | positive {cs : List Char} (magnitude : IsMagnitude cs) : IsNumber cs
  | negative {cs : List Char} (magnitude : IsMagnitude cs) : IsNumber ('-' :: cs)

/-! ## Strings -/

/-- One character of a string as it is written. -/
inductive IsCharacter : List Char → Prop where
  | plain {c : Char} (notQuote : c ≠ '"') (notBackslash : c ≠ '\\') (notControl : 0x20 ≤ c.toNat) :
      IsCharacter [c]
  | escape {c : Char} (known : (Scan.escaped? c).isSome = true) : IsCharacter ['\\', c]
  | unit {cs : List Char} (four : cs.length = 4)
      (hex : ∀ c ∈ cs, (Scan.hexDigit? c).isSome = true) : IsCharacter ('\\' :: 'u' :: cs)

inductive IsCharacters : List Char → Prop where
  | nil : IsCharacters []
  | cons {cs rest : List Char} (first : IsCharacter cs) (others : IsCharacters rest) :
      IsCharacters (cs ++ rest)

inductive IsString : List Char → Prop where
  | quoted {cs : List Char} (characters : IsCharacters cs) : IsString ('"' :: cs ++ ['"'])

/-! ## Values -/

mutual

inductive IsValue : List Char → Prop where
  | null : IsValue "null".toList
  | true : IsValue "true".toList
  | false : IsValue "false".toList
  | number {cs : List Char} (number : IsNumber cs) : IsValue cs
  | string {cs : List Char} (string : IsString cs) : IsValue cs
  | emptyArray {cs : List Char} (space : IsSpace cs) : IsValue ('[' :: cs ++ [']'])
  | array {cs : List Char} (elements : IsElements cs) : IsValue ('[' :: cs ++ [']'])
  | emptyObject {cs : List Char} (space : IsSpace cs) : IsValue ('{' :: cs ++ ['}'])
  | object {cs : List Char} (members : IsMembers cs) : IsValue ('{' :: cs ++ ['}'])

/-- A value with white space around it. -/
inductive IsElement : List Char → Prop where
  | spaced {bs cs ds : List Char} (before : IsSpace bs) (value : IsValue cs) (after : IsSpace ds) :
      IsElement (bs ++ cs ++ ds)

inductive IsElements : List Char → Prop where
  | last {cs : List Char} (element : IsElement cs) : IsElements cs
  | more {cs rest : List Char} (element : IsElement cs) (others : IsElements rest) :
      IsElements (cs ++ ',' :: rest)

inductive IsMember : List Char → Prop where
  | spaced {bs ks ds cs : List Char} (before : IsSpace bs) (key : IsString ks) (after : IsSpace ds)
      (element : IsElement cs) : IsMember (bs ++ ks ++ ds ++ ':' :: cs)

inductive IsMembers : List Char → Prop where
  | last {cs : List Char} (member : IsMember cs) : IsMembers cs
  | more {cs rest : List Char} (member : IsMember cs) (others : IsMembers rest) :
      IsMembers (cs ++ ',' :: rest)

end

/-- A whole text. -/
def IsText (text : String) : Prop := IsElement text.toList

/-- There may be no space at all. -/
lemma IsSpace.nil : IsSpace [] := nofun

/-- A value by itself is a whole text. -/
lemma IsValue.isText {cs : List Char} (h : IsValue cs) : IsText (String.ofList cs) := by
  have element := IsElement.spaced .nil h .nil
  rw [List.nil_append, List.append_nil] at element
  rw [IsText, String.toList_ofList]
  exact element

end ProxyChain.Json
