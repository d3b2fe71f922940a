/-!
# Tag kinds

The tags that a schema is built from. Every kind has a grammar of its own for the text of the tag.
-/

namespace ToolSchema

/-- A tag that a schema is built from. -/
inductive TagKind where
  /-- The description and the types of a parameter. -/
  | param
  /-- The values that a parameter can have. -/
  | values
  /-- The type of the items of an array. -/
  | itemsType
  /-- The least number of items of an array. -/
  | minItems
  /-- The greatest number of items of an array. -/
  | maxItems
  deriving DecidableEq, Repr, Inhabited

namespace TagKind

/-- All kinds, in the order in which a schema takes them up. -/
def all : List TagKind := [param, values, itemsType, minItems, maxItems]

/-- The name of the tag behind its `@`. -/
def tagName : TagKind → String
  | param => "param"
  | values => "values"
  | itemsType => "items_type"
  | minItems => "min_items"
  | maxItems => "max_items"

/-- The kind of tag with a name. -/
def ofTagName? (name : String) : Option TagKind := all.find? fun kind ↦ kind.tagName == name

/-- The tag describes an array. -/
def isArrayConstraint : TagKind → Bool
  | itemsType | minItems | maxItems => true
  | param | values => false

theorem ofTagName?_tagName (kind : TagKind) : ofTagName? kind.tagName = some kind := by
  cases kind <;> decide

end TagKind

end ToolSchema
