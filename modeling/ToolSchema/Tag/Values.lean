import ToolSchema.Json.Decoder
import ToolSchema.Tag.Payload
import ToolSchema.Text.Pieces

/-!
# Value lists

The payload of a `@values` tag is a JSON list of strings, numbers and truth values. In permissive mode
a list without quotes and brackets may stand there as well, and stands for the texts between its
commas; a list that is JSON is always read as JSON.
-/

namespace ToolSchema

/-- How strictly value lists are read. -/
inductive ValuesParsing where
  /-- Only JSON lists count. -/
  | strict
  /-- A list of bare words counts if it is no JSON list. -/
  | permissive
  deriving DecidableEq, Repr, Inhabited

/-- Where a check of brackets stands: how many are open, and whether it is inside a string. -/
inductive Quoting where
  | outside
  | inside
  /-- Inside a string, behind a backslash. -/
  | escaped
  deriving DecidableEq, Repr

/-- Every closing square bracket outside strings has an opening one before it and all are closed at the
end, where no string is open either. -/
def isBalanced (level : Nat) : Quoting → List Char → Bool
  | .outside, [] => level == 0
  | .inside, [] => false
  | .escaped, [] => false
  | .escaped, _ :: rest => isBalanced level .inside rest
  | .inside, c :: rest =>
    isBalanced level (if c == '\\' then .escaped else if c == '"' then .outside else .inside) rest
  | .outside, c :: rest =>
    if c == '"' then isBalanced level .inside rest
    else if c == '[' then isBalanced (level + 1) .outside rest
    else if c == ']' then
      match level with
      | 0 => false
      | level + 1 => isBalanced level .outside rest
    else isBalanced level .outside rest

/-- May not stand in a list of bare words. -/
def isListMark (c : Char) : Bool :=
  c == '[' || c == ']' || c == '"' || c == '\'' || c == '\x7b' || c == '\x7d'

/-- What stands between the square brackets around a text. -/
def bracketed? : List Char → Option (List Char)
  | '[' :: rest => if rest.getLast? == some ']' then some rest.dropLast else none
  | _ => none

/-- The words of a list without quotes and brackets, none of them blank. -/
def bareWords? (payload : List Char) : Option (List Json) := do
  let inner ← bracketed? payload
  let words := (piecesAt ',' inner).map trim
  if inner.any isListMark || words.any List.isEmpty then none
  else some (words.map fun w ↦ .string (String.ofList w))

/-- A string, a number or a truth value. -/
def Json.isScalar : Json → Bool
  | .string _ | .number _ | .bool _ => true
  | _ => false

/-- The values of a list that is surrounded by balanced square brackets. -/
def readList (mode : ValuesParsing) (payload : List Char) : Except TagFault (List Json) :=
  match (Json.Decoder.list .any).readText (String.ofList payload), mode with
  | .ok values, _ => .ok values
  | .error e, .strict => .error (.notJson e)
  | .error e, .permissive =>
    match bareWords? payload with
    | some words => .ok words
    | none => .error (.notJson e)

/-- At least one value, and only strings, numbers and truth values. -/
def checkValues (values : List Json) : Except TagFault (List Json) :=
  if values.isEmpty then .error .emptyList
  else
    match values.find? fun v ↦ !v.isScalar with
    | some bad => .error (.notScalar bad)
    | none => .ok values

/-- The values that a payload lists. -/
def valuesOf (mode : ValuesParsing) (payload : List Char) : Except TagFault (List Json) := do
  if payload.head? != some '[' || payload.getLast? != some ']' then throw .notList
  if !isBalanced 0 .outside payload then throw .unbalancedBrackets
  checkValues (← readList mode payload)

/-- The parameter and the values of a `@values` text. -/
def parseValues (text : String) (mode : ValuesParsing) : Except TagError (String × List Json) :=
  match Payload.ofChars? text.toList with
  | none => .error ⟨.values, text, .noPayload⟩
  | some p =>
    match valuesOf mode p.content with
    | .error fault => .error ⟨.values, text, fault⟩
    | .ok values => .ok (String.ofList p.parameter, values)

end ToolSchema
