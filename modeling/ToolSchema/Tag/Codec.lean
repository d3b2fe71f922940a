import ToolSchema.Tag.Parsed

/-!
# Tags in JSON

The kinds of tags by their names, and parsed tags with their kind before their parts.
-/

namespace ToolSchema

open Json

/-- Reads a kind of tag. -/
def TagKind.decoder : Decoder TagKind := .names (all.map fun k ↦ (k.tagName, k))

end ToolSchema
