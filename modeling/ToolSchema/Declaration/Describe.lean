import ToolSchema.Declaration.Attribute
import ToolSchema.Declaration.TypeForm
import ToolSchema.Target.Basic
import ToolSchema.Text.Casing
import ToolSchema.Text.Quoted
import ToolSchema.Text.UnicodeName

/-!
# Describing declarations

A function or a struct is described by a target. A parameter that is a plain name is passed by name, and
may be left out if its type says so; any other pattern is passed by position. A struct is a class whose
constructor takes its fields.

A described function gets a companion struct that is named after it in pascal case, which must be a
name.
-/

namespace ToolSchema

/-- The pattern of a parameter. -/
inductive Pattern where
  /-- A name, which may be taken by reference, be mutable, or name what another pattern takes apart. -/
  | binding (name : String)
  | other
  deriving DecidableEq, Repr, Inhabited

namespace Pattern

/-- The words that are no names for a value. -/
def wordsForNoValue : List String := ["_", "true", "false", "Self", "super", "crate"]

/-- The pattern behind the words that may stand before a name. A choice between patterns is no name, even
if it starts with one. -/
def afterWords : List Token → Pattern
  | [.name s] => if wordsForNoValue.contains s then other else binding s
  | .name s :: .mark '@' :: rest => if rest.contains (.mark '|') then other else binding s
  | _ => other

/-- The form of a pattern. What stands in brackets has no say in it. -/
def ofTokens (tokens : List Token) : Pattern :=
  match Token.outline tokens with
  | .name "ref" :: .name "mut" :: rest => afterWords rest
  | .name "ref" :: rest => afterWords rest
  | .name "mut" :: rest => afterWords rest
  | tokens => afterWords tokens

end Pattern

/-- The name without the mark of a raw name. -/
def plainName (name : String) : String :=
  match name.toList with
  | 'r' :: '#' :: rest => String.ofList rest
  | _ => name

/-- What a function takes. -/
inductive FnInput where
  /-- The value that a method is called on. -/
  | receiver
  | typed (pattern : Pattern) (type : TypeForm) (attributes : List Attribute)
  deriving DecidableEq, Repr, Inhabited

/-- A function. -/
structure FnItem where
  name : String
  visibility : List Token := []
  attributes : List Attribute := []
  inputs : List FnInput := []
  deriving Repr, Inhabited

/-- The fields of a struct. -/
inductive Fields where
  | named (fields : List (String × TypeForm × List Attribute))
  | tuple (attributes : List (List Attribute))
  | unit
  deriving Repr, Inhabited

/-- A struct. -/
structure StructItem where
  name : String
  visibility : List Token := []
  attributes : List Attribute := []
  fields : Fields := .unit
  deriving Repr, Inhabited

/-- A parameter that is passed by name. -/
def namedParam (name : String) (type : TypeForm) (attributes : List Attribute) : Param where
  name := plainName name
  kind := if type.isOptional then .optionalNamed else .requiredNamed
  doc := Attribute.comment attributes

/-- A parameter that is passed by position. -/
def positionalParam (name : String) (attributes : List Attribute) : Param where
  name := name
  kind := .positional
  doc := Attribute.comment attributes

/-- The parameters of inputs, the first of which has the number `index`. -/
def paramsFrom (index : Nat) : List FnInput → List Param
  | [] => []
  | .receiver :: rest => paramsFrom (index + 1) rest
  | .typed (.binding name) type attributes :: rest =>
    namedParam name type attributes :: paramsFrom (index + 1) rest
  | .typed .other _ attributes :: rest =>
    positionalParam ("arg" ++ toString index) attributes :: paramsFrom (index + 1) rest

/-- The documentation of attributes. -/
def docSourceOf (attributes : List Attribute) : DocSource :=
  match Attribute.comment attributes with
  | some text => .inline text
  | none => .none

/-- The parameters of tuple fields, the first of which has the number `index`. -/
def tupleParamsFrom (index : Nat) : List (List Attribute) → List Param
  | [] => []
  | attributes :: rest =>
    positionalParam (toString index) attributes :: tupleParamsFrom (index + 1) rest

/-- The parameters of a struct's constructor. -/
def Fields.params : Fields → List Param
  | named fields => fields.map fun (name, type, attributes) ↦ namedParam name type attributes
  | tuple attributes => tupleParamsFrom 0 attributes
  | unit => []

namespace FnItem

/-- The target that describes the function. -/
def target (f : FnItem) : Target :=
  .function { name := f.name, params := paramsFrom 0 f.inputs, docs := docSourceOf f.attributes }

/-- The name of the companion struct. -/
def companionName (f : FnItem) : String :=
  String.ofList (pascalCase f.name.toList ++ "Schema".toList)

/-- The documentation of the companion struct. -/
def companionDoc (f : FnItem) : String := "Schema description of [`" ++ f.name ++ "`]."

/-- The number of documentation attributes. -/
def docCount (f : FnItem) : Nat := f.attributes.countP Attribute.isDoc

/-- The number of parameters, which lose their documentation attributes. -/
def inputCount (f : FnItem) : Nat := f.inputs.length

end FnItem

/-- The target that describes a struct. -/
def StructItem.target (s : StructItem) : Target :=
  .classType
    { name := s.name
      docs := docSourceOf s.attributes
      constructor := some { name := "new", params := s.fields.params } }

/-- Why a function cannot be described. -/
inductive DescribeError where
  /-- It is a method. -/
  | receiver
  /-- Its companion struct would have no name. -/
  | badCompanion (name : String)
  deriving DecidableEq, Repr

/-- The error in words. -/
def DescribeError.message : DescribeError → String
  | receiver =>
    "#[describe] functions cannot have a `self` receiver; describe the type with a `Class` instead"
  | badCompanion name => quoted name ++ " is not a valid Ident"

/-- The function, if it can be described. -/
def FnItem.check (f : FnItem) : Except DescribeError FnItem :=
  if f.inputs.head? = some .receiver then .error .receiver
  else if UnicodeName.isName f.companionName.toList then .ok f
  else .error (.badCompanion f.companionName)

end ToolSchema
