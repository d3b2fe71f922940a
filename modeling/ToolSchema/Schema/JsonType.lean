import ToolSchema.Text.Blank

/-!
# Types

The primitive types of JSON Schema, and the type that a documented type name stands for. Of a name only
its base counts (`baseName`): references before it, the modules it lives in and the arguments behind it
do not.
-/

namespace ToolSchema

/-- A primitive type of JSON Schema. -/
inductive JsonType where
  | string
  | integer
  | number
  | boolean
  | array
  | object
  | null
  deriving DecidableEq, Repr, Inhabited

namespace JsonType

/-- All types. -/
def all : List JsonType := [string, integer, number, boolean, array, object, null]

/-- The name of the type in a schema. -/
def name : JsonType → String
  | string => "string"
  | integer => "integer"
  | number => "number"
  | boolean => "boolean"
  | array => "array"
  | object => "object"
  | null => "null"

/-- The names that stand for a type in documentation. -/
def documentedNames : JsonType → List String
  | string => ["String", "string", "Symbol", "str", "char", "Cow", "PathBuf"]
  | integer =>
    ["Integer", "integer", "Int", "i8", "i16", "i32", "i64", "i128", "isize", "u8", "u16", "u32",
      "u64", "u128", "usize"]
  | number => ["Float", "Numeric", "Number", "number", "Decimal", "BigDecimal", "f32", "f64"]
  | boolean => ["Boolean", "boolean", "Bool", "bool", "TrueClass", "FalseClass", "true", "false"]
  | array => ["Array", "array", "Vec", "VecDeque", "Set", "HashSet", "BTreeSet"]
  | object => ["Hash", "Object", "object", "Map", "HashMap", "BTreeMap", "IndexMap", "Value"]
  | null => ["Null", "null", "nil", "NilClass", "None", "()"]

end JsonType

/-- Starts the arguments of a type name. -/
def opensArguments (c : Char) : Bool := c == '<' || c == '\x7b' || c == '(' || c == '['

/-- What stands behind the last double colon of a text, if it has one. -/
def afterModules? : List Char → Option (List Char)
  | ':' :: ':' :: rest => some ((afterModules? (':' :: rest)).getD rest)
  | _ :: rest => afterModules? rest
  | [] => none

/-- The name of a type without references, modules and arguments. The empty pair of parentheses is a
name of its own. -/
def baseName (cs : List Char) : List Char :=
  let name := trim ((trim cs).dropWhile (· == '&'))
  if name = ['(', ')'] then name
  else
    let path := trimEnd (name.takeWhile fun c ↦ !opensArguments c)
    (afterModules? path).getD path

/-- The type that a documented type name stands for. -/
def JsonType.ofTypeName? (typeName : String) : Option JsonType :=
  let base := String.ofList (baseName typeName.toList)
  JsonType.all.find? fun type ↦ type.documentedNames.contains base

end ToolSchema
