import ToolSchema.Json.Basic
import ToolSchema.Schema.JsonType

/-!
# Tools

The schema of a tool: a function with a name, a description and an object of parameters, each with a
schema of its own. A schema is built from parameters one by one (`FunctionSchema.addParameter`); a
parameter whose name is there already replaces the one before it.
-/

namespace ToolSchema

/-- What is known about a parameter while its schema is built. -/
structure Parameter where
  name : String
  isRequired : Bool
  type : JsonType := .string
  description : String := ""
  enumValues : Option (List Json) := none
  itemsType : Option JsonType := none
  minItems : Option UInt64 := none
  maxItems : Option UInt64 := none
  deriving BEq, Repr, Inhabited

/-- The schema of a parameter. -/
structure Property where
  type : JsonType
  description : String
  enumValues : Option (List Json) := none
  itemsType : Option JsonType := none
  minItems : Option UInt64 := none
  maxItems : Option UInt64 := none
  deriving BEq, Repr, Inhabited

/-- The schema of all parameters together. -/
structure Parameters where
  type : JsonType := .object
  /-- The schemas of the parameters, in declaration order and without repetition. -/
  properties : List (String × Property) := []
  /-- The names of the parameters that must be supplied. -/
  required : List String := []
  deriving BEq, Repr, Inhabited

/-- The schema of a function. -/
structure FunctionSchema where
  name : String
  description : String := ""
  parameters : Parameters := {}
  deriving BEq, Repr, Inhabited

/-- The schema of a tool, whose only kind is a function. -/
structure Tool where
  function : FunctionSchema
  deriving BEq, Repr, Inhabited

/-- The schema of a parameter. -/
def Parameter.property (p : Parameter) : Property where
  type := p.type
  description := p.description
  enumValues := p.enumValues
  itemsType := p.itemsType
  minItems := p.minItems
  maxItems := p.maxItems

/-- The function with one more parameter. -/
def FunctionSchema.addParameter (f : FunctionSchema) (p : Parameter) : FunctionSchema :=
  { f with
    parameters :=
      { f.parameters with
        properties := insertMember f.parameters.properties p.name p.property
        required :=
          if p.isRequired then f.parameters.required ++ [p.name] else f.parameters.required } }

/-- The function with more parameters. -/
def FunctionSchema.addParameters (f : FunctionSchema) (ps : List Parameter) : FunctionSchema :=
  ps.foldl FunctionSchema.addParameter f

end ToolSchema
