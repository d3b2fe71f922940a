import ToolSchema.Comment.Codec
import ToolSchema.Schema.Tool

/-!
# Tools in JSON

What is not there has no member, and members stand in a fixed order.
-/

namespace ToolSchema

open Json

/-- The type as JSON. -/
def JsonType.toJson (t : JsonType) : Json := .string t.name

/-- Reads a type. -/
def JsonType.decoder : Decoder JsonType := .names (JsonType.all.map fun t ↦ (t.name, t))

/-- The schema of the items of an array as JSON. -/
def itemsJson (t : JsonType) : Json := .object [("type", t.toJson)]

/-- Reads the schema of the items of an array. -/
def itemsDecoder : Decoder JsonType :=
  .record "ItemsSchema" .string [.required "type" JsonType.decoder fun v _ ↦ v]

namespace Property

/-- The schema as JSON. -/
def toJson (p : Property) : Json :=
  .object ([("type", p.type.toJson), ("description", .string p.description)] ++
    optionalMember "enum" Json.array p.enumValues ++
    optionalMember "items" itemsJson p.itemsType ++
    optionalMember "minItems" Json.ofUInt64 p.minItems ++
    optionalMember "maxItems" Json.ofUInt64 p.maxItems)

/-- Reads a schema. -/
def decoder : Decoder Property :=
  .record "PropertySchema" { type := .string, description := "" }
    [.required "type" JsonType.decoder fun v p ↦ { p with type := v },
      .required "description" .string fun v p ↦ { p with description := v },
      .defaulted "enum" (.option (.list .any)) fun v p ↦ { p with enumValues := v },
      .defaulted "items" (.option itemsDecoder) fun v p ↦ { p with itemsType := v },
      .defaulted "minItems" (.option .u64) fun v p ↦ { p with minItems := v },
      .defaulted "maxItems" (.option .u64) fun v p ↦ { p with maxItems := v }]

end Property

namespace Parameters

/-- The schema as JSON. -/
def toJson (p : Parameters) : Json :=
  .object [("type", p.type.toJson),
    ("properties", .object (p.properties.map fun m ↦ (m.1, m.2.toJson))),
    ("required", Json.ofStrings p.required)]

/-- Reads a schema. -/
def decoder : Decoder Parameters :=
  .record "ParametersSchema" {}
    [.required "type" JsonType.decoder fun v p ↦ { p with type := v },
      .required "properties" (.dictionary Property.decoder) fun v p ↦ { p with properties := v },
      .required "required" (.list .string) fun v p ↦ { p with required := v }]

end Parameters

namespace FunctionSchema

/-- The schema as JSON. -/
def toJson (f : FunctionSchema) : Json :=
  .object [("name", .string f.name), ("description", .string f.description),
    ("parameters", f.parameters.toJson)]

/-- Reads a schema. -/
def decoder : Decoder FunctionSchema :=
  .record "FunctionSchema" { name := "" }
    [.required "name" .string fun v f ↦ { f with name := v },
      .required "description" .string fun v f ↦ { f with description := v },
      .required "parameters" Parameters.decoder fun v f ↦ { f with parameters := v }]

end FunctionSchema

namespace Tool

/-- The tool as JSON. -/
def toJson (t : Tool) : Json :=
  .object [("type", .string "function"), ("function", t.function.toJson)]

/-- Reads a tool. -/
def decoder : Decoder Tool :=
  .record "SchemaResult" { function := { name := "" } }
    [.required "type" (.names [("function", ())]) fun _ t ↦ t,
      .required "function" FunctionSchema.decoder fun v _ ↦ { function := v }]

/-- The text of a tool in a layout. -/
def text (layout : Layout) (t : Tool) : String := t.toJson.text layout

end Tool

end ToolSchema
