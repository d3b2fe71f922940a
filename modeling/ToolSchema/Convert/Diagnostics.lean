import ToolSchema.Schema.Tool
import ToolSchema.Source.DocIndex
import ToolSchema.Tag.Parsed
import ToolSchema.Target.Basic

/-!
# Errors and warnings

What stops a conversion (`ConvertError`) and what it puts up with (`Warning`). Under a strict policy a
warning becomes the error of the same cause.
-/

namespace ToolSchema

/-- Why a target has no schema, whatever its documentation says. -/
inductive ShapeFault where
  /-- The name of the target is no identifier. -/
  | badName
  /-- A parameter is not passed by name. -/
  | notNamed (parameter : String) (kind : ParamKind)
  /-- The name of a parameter is no identifier. -/
  | badParameter (parameter : String)
  /-- A parameter has the name of an earlier one. -/
  | repeated (parameter : String)
  deriving DecidableEq, Repr, Inhabited

/-- The fault in words. -/
def ShapeFault.message : ShapeFault → String
  | badName => "the name must be a non-empty identifier"
  | notNamed parameter kind =>
    "only named arguments are supported, but `" ++ parameter ++ "` is a " ++ kind.describe ++
      " parameter"
  | badParameter parameter => "`" ++ parameter ++ "` is not a valid parameter name"
  | repeated parameter => "parameter `" ++ parameter ++ "` is declared more than once"

/-- What stops a conversion. -/
inductive ConvertError where
  /-- The target cannot be called as a tool. -/
  | invalidShape (callable : String) (fault : ShapeFault)
  /-- A tag does not follow its grammar. -/
  | invalidTag (error : TagError)
  /-- A type name stands for no type. -/
  | unsupportedType (parameter typeName : String)
  deriving Repr

/-- The error in words. -/
def ConvertError.message : ConvertError → String
  | invalidShape callable fault => "cannot convert `" ++ callable ++ "`: " ++ fault.message
  | invalidTag error => error.message
  | unsupportedType parameter typeName =>
    "unsupported type `" ++ typeName ++ "` for parameter `" ++ parameter ++ "`"

/-- The failure of one target among several. -/
structure BatchError where
  index : Nat
  error : ConvertError
  deriving Repr

/-- The failure in words. -/
def BatchError.message (e : BatchError) : String :=
  "batch element " ++ toString e.index ++ " failed: " ++ e.error.message

/-- What a conversion puts up with. -/
inductive Warning where
  /-- A tag does not follow its grammar and was left out. -/
  | malformedTag (error : TagError)
  /-- A tag is about a parameter that is not declared. -/
  | unknownParameter (kind : TagKind) (parameter : String)
  /-- A type name stands for no type, and a string was taken for it. -/
  | unknownType (parameter typeName : String)
  /-- The file of a location cannot be read. -/
  | docLookupFailed (location : Location) (error : DocError)
  /-- Nothing is documented at a location. -/
  | missingDocs (location : Location)
  deriving Repr

/-- The warning in words. -/
def Warning.message : Warning → String
  | malformedTag error => "skipped malformed tag: " ++ error.message
  | unknownParameter kind parameter =>
    "@" ++ kind.tagName ++ " documents unknown parameter `" ++ parameter ++ "`"
  | unknownType parameter typeName =>
    "unknown type `" ++ typeName ++ "` for parameter `" ++ parameter ++ "`, using string"
  | docLookupFailed location error =>
    "could not read documentation at " ++ location.text ++ ": " ++ error.message
  | missingDocs location => "no documentation found at " ++ location.text

end ToolSchema
