import ToolSchema.Comment.Basic
import ToolSchema.Json.Decoder

/-!
# Comments in JSON

Parts of a tag that are not there have no member.
-/

namespace ToolSchema

open Json

/-- A member, if its value is there. -/
def optionalMember {α : Type} (key : String) (encode : α → Json) : Option α → List (String × Json)
  | some v => [(key, encode v)]
  | none => []

namespace Tag

/-- The tag as JSON. -/
def toJson (t : Tag) : Json :=
  .object ([("tag_name", .string t.tagName)] ++ optionalMember "name" .string t.name ++
    optionalMember "types" Json.ofStrings t.types ++ [("text", .string t.text)])

/-- Reads a tag. -/
def decoder : Decoder Tag :=
  .record "Tag" { tagName := "", text := "" }
    [.required "tag_name" .string fun v t ↦ { t with tagName := v },
      .defaulted "name" (.option .string) fun v t ↦ { t with name := v },
      .defaulted "types" (.option (.list .string)) fun v t ↦ { t with types := v },
      .required "text" .string fun v t ↦ { t with text := v }]

end Tag

/-- The comment as JSON. -/
def DocComment.toJson (d : DocComment) : Json :=
  .object [("description", .string d.description), ("tags", .array (d.tags.map Tag.toJson))]

end ToolSchema
