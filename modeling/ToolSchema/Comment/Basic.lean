/-!
# Documentation comments

A documentation comment is a description and a list of tags. A tag has a name and a text; the tags
that document a parameter or a type carry their parts apart.
-/

namespace ToolSchema

/-- A tag of a comment, such as the one of the line `@param size [Integer] How many.` -/
structure Tag where
  /-- What stands behind the `@`. -/
  tagName : String
  /-- The parameter that the tag is about, if it names one. -/
  name : Option String := none
  /-- The declared types, if the tag lists some. -/
  types : Option (List String) := none
  /-- What is left of the tag's text. -/
  text : String
  deriving DecidableEq, Repr, Inhabited

/-- A parsed documentation comment. -/
structure DocComment where
  /-- The text outside the tags. -/
  description : String := ""
  /-- The tags in written order. -/
  tags : List Tag := []
  deriving DecidableEq, Repr, Inhabited

namespace DocComment

/-- Neither a description nor a tag is there. -/
def isEmpty (d : DocComment) : Bool := d.description.isEmpty && d.tags.isEmpty

/-- The tags of a name. -/
def tagsNamed (d : DocComment) (tagName : String) : List Tag :=
  d.tags.filter fun t ↦ t.tagName == tagName

/-- The comment with the tags of another one behind its own. -/
def extendTags (d other : DocComment) : DocComment := { d with tags := d.tags ++ other.tags }

end DocComment

end ToolSchema
