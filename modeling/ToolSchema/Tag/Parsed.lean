import ToolSchema.Comment.Basic
import ToolSchema.Tag.Count
import ToolSchema.Tag.Values

/-!
# Parsed tags

What a tag says about a parameter, once its text has been read by the grammar of its kind. Tags of
other names say nothing about a schema.
-/

namespace ToolSchema

/-- What a tag says about a parameter. -/
inductive ParsedTag where
  | param (parameter : String) (types : List String) (description : String)
  | values (parameter : String) (values : List Json)
  | itemsType (parameter : String) (typeName : String)
  | minItems (parameter : String) (count : UInt64)
  | maxItems (parameter : String) (count : UInt64)
  deriving BEq, Repr, Inhabited

namespace ParsedTag

/-- The parameter that the tag is about. -/
def parameter : ParsedTag → String
  | param p _ _ => p
  | values p _ => p
  | itemsType p _ => p
  | minItems p _ => p
  | maxItems p _ => p

/-- The kind of the tag. -/
def kind : ParsedTag → TagKind
  | param .. => .param
  | values .. => .values
  | itemsType .. => .itemsType
  | minItems .. => .minItems
  | maxItems .. => .maxItems

end ParsedTag

/-- The text of a `@param` tag without a parameter name, put together again from its types and what
stands behind them. It is not what was written if blanks or empty types were left out. -/
def Tag.paramText (t : Tag) : String :=
  match t.types with
  | some types => trimmed ("[" ++ String.intercalate ", " types ++ "] " ++ t.text)
  | none => t.text

/-- What a `@param` tag says. -/
def parseParam (t : Tag) : Except TagError ParsedTag :=
  match t.name with
  | none => .error ⟨.param, t.paramText, .noParameter⟩
  | some name => .ok (.param name (t.types.getD []) t.text)

/-- Reads a tag by the grammar of a kind. -/
def TagKind.parse (mode : ValuesParsing) (t : Tag) : TagKind → Except TagError ParsedTag
  | param => parseParam t
  | values => (parseValues t.text mode).map fun (p, vs) ↦ .values p vs
  | itemsType => (parseItemsType t.text).map fun (p, name) ↦ .itemsType p name
  | minItems => (parseMinItems t.text).map fun (p, n) ↦ .minItems p n
  | maxItems => (parseMaxItems t.text).map fun (p, n) ↦ .maxItems p n

/-- Reads a tag by the grammar that its name stands for; none if it says nothing about a schema. -/
def Tag.parse? (mode : ValuesParsing) (t : Tag) : Option (Except TagError ParsedTag) :=
  (TagKind.ofTagName? t.tagName).map (TagKind.parse mode t)

end ToolSchema
