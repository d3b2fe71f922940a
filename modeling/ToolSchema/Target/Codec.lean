import ToolSchema.Comment.Codec
import ToolSchema.Target.Basic

/-!
# Targets in JSON

Documentation and a constructor that are not there have no member, and neither has the description of a
parameter. Targets carry their kind in a member of its own, before all others.
-/

namespace ToolSchema

open Json

/-- Reads a path. -/
def Path.decoder : Decoder Path := (Decoder.text "path string").map Path.mk

namespace Location

/-- The location as JSON. -/
def toJson (l : Location) : Json :=
  .object [("file", .string l.file.text), ("line", .ofUInt32 l.line)]

/-- Reads a location. -/
def decoder : Decoder Location :=
  .record "SourceLocation" { file := ⟨""⟩, line := 0 }
    [.required "file" Path.decoder fun v l ↦ { l with file := v },
      .required "line" .u32 fun v l ↦ { l with line := v }]

end Location

namespace ParamKind

/-- The kind as JSON. -/
def toJson (k : ParamKind) : Json := .string k.name

/-- Reads a kind. -/
def decoder : Decoder ParamKind := .names (all.map fun k ↦ (k.name, k))

end ParamKind

namespace Param

/-- The parameter as JSON. -/
def toJson (p : Param) : Json :=
  .object ([("name", .string p.name), ("kind", p.kind.toJson)] ++
    optionalMember "doc" Json.string p.doc)

/-- Reads a parameter. -/
def decoder : Decoder Param :=
  .record "ParamSpec" { name := "", kind := .requiredNamed }
    [.required "name" .string fun v p ↦ { p with name := v },
      .required "kind" ParamKind.decoder fun v p ↦ { p with kind := v },
      .defaulted "doc" (.option .string) fun v p ↦ { p with doc := v }]

end Param

/-- The parameters of a function as JSON. -/
def paramsJson (ps : List Param) : Json := .array (ps.map Param.toJson)

namespace DocSource

/-- The source as JSON. -/
def toJson : DocSource → Json
  | none => .string "none"
  | inline text => .object [("inline", .string text)]
  | location l => .object [("location", l.toJson)]

/-- The member of a source, if there is documentation. -/
def member : DocSource → List (String × Json)
  | none => []
  | source => [("docs", source.toJson)]

/-- Reads a source. -/
def decoder : Decoder DocSource :=
  .choice [.bare "none" none, .carrying "inline" (Decoder.string.map inline),
    .carrying "location" (Location.decoder.map location)]

end DocSource

namespace Callable

/-- The members of a function. -/
def members (c : Callable) : List (String × Json) :=
  [("name", .string c.name), ("params", paramsJson c.params)] ++ c.docs.member

/-- The function as JSON. -/
def toJson (c : Callable) : Json := .object c.members

/-- Reads a function. -/
def decoder : Decoder Callable :=
  .record "Callable" { name := "" }
    [.required "name" .string fun v c ↦ { c with name := v },
      .defaulted "params" (.list Param.decoder) fun v c ↦ { c with params := v },
      .defaulted "docs" DocSource.decoder fun v c ↦ { c with docs := v }]

end Callable

namespace ClassTarget

/-- The members of a class. -/
def members (c : ClassTarget) : List (String × Json) :=
  [("name", .string c.name)] ++ c.docs.member ++
    optionalMember "constructor" Callable.toJson c.constructor

/-- Reads a class. -/
def decoder : Decoder ClassTarget :=
  .record "Class" { name := "" }
    [.required "name" .string fun v c ↦ { c with name := v },
      .defaulted "docs" DocSource.decoder fun v c ↦ { c with docs := v },
      .defaulted "constructor" (.option Callable.decoder) fun v c ↦ { c with constructor := v }]

end ClassTarget

namespace Target

/-- The target as JSON. -/
def toJson : Target → Json
  | function c => .object (("kind", .string "function") :: c.members)
  | classType c => .object (("kind", .string "class") :: c.members)

/-- Reads a target. -/
def decoder : Decoder Target :=
  .tagged "kind" "Target"
    [("function", Callable.decoder.map function), ("class", ClassTarget.decoder.map classType)]

/-- The text of a target. -/
def text (t : Target) : String := t.toJson.compactText

end Target

end ToolSchema
