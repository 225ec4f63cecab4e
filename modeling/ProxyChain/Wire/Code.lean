import ProxyChain.Wire.Integer

/-!
# Coded enumerations

Some fields hold one of a few names, each stored as a number of its own. A type with such codes lists
its values; the value of a code is the first one that has it.
-/

namespace ProxyChain.Wire

/-- A type whose finitely many values are stored as numbers. -/
class Coded (α : Type) where
  /-- Every value. -/
  values : List α
  /-- The number that a value is stored as. -/
  code : α → Int32

/-- The value that a number stands for. -/
def Coded.ofCode? {α : Type} [Coded α] (n : Int32) : Option α :=
  (values (α := α)).find? fun a => code a == n

/-- A coded value. -/
def writeCoded {α : Type} [Coded α] (a : α) : Bytes := writeInt32 (Coded.code a)

/-- A coded value of a field. -/
def Reader.codedField {α : Type} [Coded α] (field : String) : Reader α :=
  coded field Coded.ofCode?

end ProxyChain.Wire
