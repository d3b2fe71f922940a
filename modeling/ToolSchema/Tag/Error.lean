import ToolSchema.Json.Fault
import ToolSchema.Tag.Kind

/-!
# Tag errors

A tag whose text does not follow its grammar. The error keeps the text.
-/

namespace ToolSchema

/-- The type names that an array's item type can have. -/
def itemTypeNames : List String :=
  ["String", "Integer", "Float", "Boolean", "Object", "Array", "Null"]

/-- Why the text of a tag does not follow its grammar. -/
inductive TagFault where
  /-- The tag must name a parameter first. -/
  | noParameter
  /-- The text is not a parameter and something behind it. -/
  | noPayload
  | notList
  | unbalancedBrackets
  /-- The list is no JSON text. -/
  | notJson (error : TextError)
  | emptyList
  /-- The list holds something else than strings, numbers and truth values. -/
  | notScalar (value : Json)
  | unknownItemType
  | negativeCount
  | notInteger
  | countTooLarge
  | zeroCount
  deriving Repr

/-- The fault in words. -/
def TagFault.message : TagFault → String
  | noParameter => "expected a parameter name"
  | noPayload => "expected `<parameter> <value>`"
  | notList => "expected a list like [\"a\", \"b\"]"
  | unbalancedBrackets => "unbalanced brackets"
  | notJson error => "not a JSON array: " ++ error.message
  | emptyList => "expected at least one value"
  | notScalar value =>
    "values must be strings, numbers or booleans, found " ++ value.compactText
  | unknownItemType => "expected one of " ++ String.intercalate ", " itemTypeNames
  | negativeCount => "count must not be negative"
  | notInteger => "expected an integer"
  | countTooLarge => "count out of range: number too large to fit in target type"
  | zeroCount => "expected a positive integer"

/-- A tag whose text does not follow its grammar. -/
structure TagError where
  kind : TagKind
  /-- The text of the tag; that of a `@param` tag is put together again from its parts. -/
  text : String
  fault : TagFault
  deriving Repr

namespace TagError

/-- Why the text was refused. -/
def reason (e : TagError) : String := e.fault.message

/-- The error in words. -/
def message (e : TagError) : String :=
  "invalid @" ++ e.kind.tagName ++ " tag format `" ++ e.text ++ "`: " ++ e.reason

end TagError

end ToolSchema
