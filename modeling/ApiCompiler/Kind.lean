/-!
Primitive kinds: how each is spelled, which type and parser the generated module uses for it, and
which JSON schema type it has.
-/

set_option autoImplicit false

namespace ApiCompiler

inductive Kind
  | string
  | bool
  | int
  | int8
  | int16
  | int32
  | int64
  | uint
  | uint8
  | uint16
  | uint32
  | uint64
  | float32
  | float64
  deriving DecidableEq, Repr, Inhabited

/-- Kinds of one family share the body of their parsers. -/
inductive KindFamily
  | text
  | boolean
  | integer
  | float
  deriving DecidableEq, Repr

def KindFamily.name : KindFamily → String
  | .text => "text"
  | .boolean => "boolean"
  | .integer => "integer"
  | .float => "float"

namespace Kind

def all : List Kind := [
  .string, .bool, .int, .int8, .int16, .int32, .int64, .uint, .uint8, .uint16, .uint32, .uint64,
  .float32, .float64]

def name : Kind → String
  | string => "string"
  | bool => "bool"
  | int => "int"
  | int8 => "int8"
  | int16 => "int16"
  | int32 => "int32"
  | int64 => "int64"
  | uint => "uint"
  | uint8 => "uint8"
  | uint16 => "uint16"
  | uint32 => "uint32"
  | uint64 => "uint64"
  | float32 => "float32"
  | float64 => "float64"

def ofName? (name : String) : Option Kind := all.find? fun kind => kind.name == name

def unknownMessage (name : String) : String := "Unknown type kind: " ++ name

/-- The type a parser produces; `int` and `uint` have 64 bits. -/
def rustType : Kind → String
  | string => "String"
  | bool => "bool"
  | int | int64 => "i64"
  | int8 => "i8"
  | int16 => "i16"
  | int32 => "i32"
  | uint | uint64 => "u64"
  | uint8 => "u8"
  | uint16 => "u16"
  | uint32 => "u32"
  | float32 => "f32"
  | float64 => "f64"

def parserName (kind : Kind) : String := "parse_" ++ kind.name

def family : Kind → KindFamily
  | string => .text
  | bool => .boolean
  | float32 | float64 => .float
  | _ => .integer

/-- The type of a JSON schema and its format. -/
def schemaType : Kind → String × Option String
  | string => ("string", none)
  | bool => ("boolean", none)
  | int | int64 => ("integer", some "int64")
  | int8 => ("integer", some "int8")
  | int16 => ("integer", some "int16")
  | int32 => ("integer", some "int32")
  | uint | uint64 => ("integer", some "uint64")
  | uint8 => ("integer", some "uint8")
  | uint16 => ("integer", some "uint16")
  | uint32 => ("integer", some "uint32")
  | float32 => ("number", some "float")
  | float64 => ("number", some "double")

end Kind

end ApiCompiler
