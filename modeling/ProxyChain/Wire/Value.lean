import ProxyChain.Wire.Text

/-!
# Typed values on the wire

What the formats are made of: six types of value, each written in one way and read back as the type
it was written with.
-/

namespace ProxyChain.Wire

/-- The types of value. -/
inductive Shape where
  | int32
  | int64
  | bool
  | length
  | blob
  | string
  deriving DecidableEq, Repr

/-- A value of one of the types. -/
inductive Value where
  | int32 (n : Int32)
  | int64 (n : Int64)
  | bool (b : Bool)
  | length (n : UInt32)
  | blob (bytes : Bytes)
  | string (s : Option String)
  deriving DecidableEq, Repr

namespace Value

/-- The type of a value. -/
def shape : Value → Shape
  | int32 _ => .int32
  | int64 _ => .int64
  | bool _ => .bool
  | length _ => .length
  | blob _ => .blob
  | string _ => .string

/-- The bytes of a value. -/
def write : Value → Bytes
  | int32 n => writeInt32 n
  | int64 n => writeInt64 n
  | bool b => writeBool b
  | length n => writeLength n
  | blob bytes => writeBlob bytes
  | string s => writeString? s

/-- The bytes of values, one after the other. -/
def writeAll (values : List Value) : Bytes := values.flatMap write

end Value

/-- Reads a value of a type. -/
def Shape.read : Shape → Reader Value
  | int32 => Value.int32 <$> Reader.int32
  | int64 => Value.int64 <$> Reader.int64
  | bool => Value.bool <$> Reader.bool
  | length => Value.length <$> Reader.length
  | blob => Value.blob <$> Reader.blob
  | string => Value.string <$> Reader.string?

/-- Reads values of the given types, one after the other. -/
def Shape.readAll : List Shape → Reader (List Value)
  | [] => pure []
  | shape :: shapes => do
    let value ← shape.read
    return value :: (← readAll shapes)

end ProxyChain.Wire
