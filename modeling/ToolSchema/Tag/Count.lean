import ToolSchema.Json.Scanner
import ToolSchema.Tag.Payload

/-!
# Counts and item types

The payloads of the tags that describe an array: a number of items in decimal digits, which must fit 64
bits, and the name of a type for the items.
-/

namespace ToolSchema

/-- The number that decimal digits spell. -/
def decimalValue (digits : List Char) : Nat :=
  digits.foldl (fun n c ↦ 10 * n + Json.digitValue c) 0

/-- The count that a payload spells. -/
def countOf (payload : List Char) : Except TagFault UInt64 :=
  if payload.head? == some '-' then .error .negativeCount
  else if !payload.all Json.isDigit then .error .notInteger
  else if decimalValue payload < UInt64.size then .ok (UInt64.ofNat (decimalValue payload))
  else .error .countTooLarge

/-- The parameter and the count of a tag text. -/
def parseCount (kind : TagKind) (text : String) : Except TagError (String × UInt64) :=
  match Payload.ofChars? text.toList with
  | none => .error ⟨kind, text, .noPayload⟩
  | some p =>
    match countOf p.content with
    | .error fault => .error ⟨kind, text, fault⟩
    | .ok n => .ok (String.ofList p.parameter, n)

/-- The parameter and the count of a `@min_items` text. -/
def parseMinItems (text : String) : Except TagError (String × UInt64) := parseCount .minItems text

/-- The parameter and the count of a `@max_items` text, which is positive. -/
def parseMaxItems (text : String) : Except TagError (String × UInt64) :=
  match parseCount .maxItems text with
  | .error e => .error e
  | .ok (parameter, n) =>
    if n = 0 then .error ⟨.maxItems, text, .zeroCount⟩ else .ok (parameter, n)

/-- The parameter and the type name of an `@items_type` text. -/
def parseItemsType (text : String) : Except TagError (String × String) :=
  match Payload.ofChars? text.toList with
  | none => .error ⟨.itemsType, text, .noPayload⟩
  | some p =>
    let typeName := String.ofList p.content
    if itemTypeNames.contains typeName then .ok (String.ofList p.parameter, typeName)
    else .error ⟨.itemsType, text, .unknownItemType⟩

end ToolSchema
