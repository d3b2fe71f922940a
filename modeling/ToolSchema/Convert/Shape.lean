import ToolSchema.Convert.Diagnostics
import ToolSchema.Text.Identifier

/-!
# The shape of a target

A target has a schema if its name is an identifier and its parameters are passed by name, under names
that are identifiers and differ from each other. What is known about the parameters from their
declarations alone is where a schema starts from.
-/

namespace ToolSchema

/-- What a declaration says about a parameter. -/
def Param.seed (p : Param) : Parameter where
  name := p.name
  isRequired := p.kind.isRequired
  description := trimmed (p.doc.getD "")

/-- Why a parameter cannot stand behind the parameters with the given names. -/
def Param.fault? (earlier : List String) (p : Param) : Option ShapeFault :=
  if !p.kind.isNamed then some (.notNamed p.name p.kind)
  else if !isIdentifier p.name then some (.badParameter p.name)
  else if earlier.contains p.name then some (.repeated p.name)
  else none

/-- The first fault of parameters that stand behind those with the given names. -/
def paramsFault? (earlier : List String) : List Param → Option ShapeFault
  | [] => none
  | p :: rest =>
    match p.fault? earlier with
    | some fault => some fault
    | none => paramsFault? (earlier ++ [p.name]) rest

/-- What the declarations of a callable say about its parameters, unless it cannot be a tool. -/
def extractParameters (callable : String) (params : List Param) :
    Except ConvertError (List Parameter) :=
  match paramsFault? [] params with
  | some fault => .error (.invalidShape callable fault)
  | none => .ok (params.map Param.seed)

/-- What the declarations of a target say about its parameters, unless it cannot be a tool. -/
def Target.shape (t : Target) : Except ConvertError (List Parameter) :=
  if isIdentifier t.name then extractParameters t.name t.params
  else .error (.invalidShape t.name .badName)

end ToolSchema
