import ToolSchema.Convert.Assembly
import ToolSchema.Convert.Documentation
import ToolSchema.Convert.Shape
import ToolSchema.Schema.Codec

/-!
# Conversions

A conversion looks at the shape of its target first, then at the documentation, and builds the schema
from both (`Target.convert`). It reads files through an index and gives the index back, with the files
that it has read.
-/

namespace ToolSchema

/-- What a conversion leaves behind: its notes, its result, and the index. -/
structure Conversion where
  notes : List Note
  result : Except ConvertError Tool
  index : DocIndex

/-- A schema and the warnings that came up while it was built. -/
structure Report where
  tool : Tool
  warnings : List Warning

/-- A schema in the form that was asked for. -/
inductive Output where
  | serialized (text : String)
  | structured (tool : Tool)

/-- The number of parameters of a tool. -/
def Tool.parameterCount (t : Tool) : Nat := t.function.parameters.properties.length

/-- A schema in a form. -/
def Tool.output (config : Config) (format : Format) (t : Tool) : Output :=
  match format with
  | .serialized => .serialized (t.text config.layout)
  | .structured => .structured t

/-- Builds the schema of a target whose shape and comment are known. -/
def build (config : Config) (name : String) (ps : List Parameter) (found : Lookup) : Conversion :=
  let steps : Traced Tool := do
    let tool ← assemble config name found.doc ps
    Traced.note (.assembled tool.parameterCount)
    return tool
  ⟨.started :: found.notes ++ steps.notes, steps.result, found.index⟩

/-- Converts a target. -/
def Target.convert (config : Config) (disk : Disk) (index : DocIndex) (t : Target) : Conversion :=
  match t.shape with
  | .error e => ⟨[.started], .error e, index⟩
  | .ok ps => build config t.name ps (t.lookUp disk index)

namespace Conversion

/-- The warnings of a conversion. -/
def warnings (c : Conversion) : List Warning := warningsOf c.notes

/-- The report of a conversion that did not fail. -/
def report (c : Conversion) : Except ConvertError Report := c.result.map fun t ↦ ⟨t, c.warnings⟩

end Conversion

namespace Report

/-- No warning came up. -/
def isClean (r : Report) : Bool := r.warnings.isEmpty

end Report

end ToolSchema
