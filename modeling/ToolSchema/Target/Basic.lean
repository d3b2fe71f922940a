import ToolSchema.Source.Location

/-!
# Targets

What a schema can be made for: a function, or a class by way of its constructor. Both say by which
parameters they are called and where their documentation is.
-/

namespace ToolSchema

/-- How a parameter is passed. -/
inductive ParamKind where
  /-- By name, and it must be there. -/
  | requiredNamed
  /-- By name, and it may be left out. -/
  | optionalNamed
  /-- By position, and it must be there. -/
  | positional
  /-- By position, and it may be left out. -/
  | optionalPositional
  /-- All further positions. -/
  | rest
  /-- A block or callback. -/
  | block
  deriving DecidableEq, Repr, Inhabited

namespace ParamKind

/-- All kinds. -/
def all : List ParamKind :=
  [requiredNamed, optionalNamed, positional, optionalPositional, rest, block]

/-- The parameter is passed by name. Schemas know no others. -/
def isNamed : ParamKind → Bool
  | requiredNamed | optionalNamed => true
  | _ => false

/-- The parameter is passed by name and must be there. -/
def isRequired (k : ParamKind) : Bool := k == requiredNamed

/-- The kind in words. -/
def describe : ParamKind → String
  | requiredNamed => "required named"
  | optionalNamed => "optional named"
  | positional => "positional"
  | optionalPositional => "optional positional"
  | rest => "rest"
  | block => "block"

/-- The name of the kind in manifests. -/
def name : ParamKind → String
  | requiredNamed => "required_named"
  | optionalNamed => "optional_named"
  | positional => "positional"
  | optionalPositional => "optional_positional"
  | rest => "rest"
  | block => "block"

end ParamKind

/-- A declared parameter. -/
structure Param where
  name : String
  kind : ParamKind
  /-- The description beside the declaration. -/
  doc : Option String := none
  deriving DecidableEq, Repr, Inhabited

/-- Where documentation is found. -/
inductive DocSource where
  | none
  /-- The comment itself, without its markers. -/
  | inline (text : String)
  /-- The comment of a declaration in a source file. -/
  | location (place : Location)
  deriving DecidableEq, Repr, Inhabited

/-- A function or method. -/
structure Callable where
  name : String
  params : List Param := []
  docs : DocSource := .none
  deriving DecidableEq, Repr, Inhabited

/-- A class, which is called by its constructor. -/
structure ClassTarget where
  name : String
  docs : DocSource := .none
  constructor : Option Callable := none
  deriving DecidableEq, Repr, Inhabited

/-- What a schema is made for. -/
inductive Target where
  | function (callable : Callable)
  | classType (type : ClassTarget)
  deriving DecidableEq, Repr, Inhabited

namespace DocSource

/-- The source with its file relative to `base`. -/
def resolve (base : Path) : DocSource → DocSource
  | location l => location (l.resolve base)
  | source => source

/-- The locations that the source leads to. -/
def locations : DocSource → List Location
  | location l => [l]
  | _ => []

end DocSource

namespace Callable

/-- The function with its files relative to `base`. -/
def resolve (base : Path) (c : Callable) : Callable := { c with docs := c.docs.resolve base }

end Callable

namespace ClassTarget

/-- The class with its files relative to `base`. -/
def resolve (base : Path) (c : ClassTarget) : ClassTarget :=
  { c with docs := c.docs.resolve base, constructor := c.constructor.map (Callable.resolve base) }

/-- The parameters of the constructor; none without one. -/
def params (c : ClassTarget) : List Param :=
  match c.constructor with
  | some constructor => constructor.params
  | none => []

end ClassTarget

namespace Target

/-- The name of the tool. -/
def name : Target → String
  | function c => c.name
  | classType c => c.name

/-- The parameters of the tool. -/
def params : Target → List Param
  | function c => c.params
  | classType c => c.params

/-- The target with its files relative to `base`. -/
def resolve (base : Path) : Target → Target
  | function c => function (c.resolve base)
  | classType c => classType (c.resolve base)

/-- The locations of the target's documentation, in the order in which they are looked up. -/
def locations : Target → List Location
  | function c => c.docs.locations
  | classType c =>
    c.docs.locations ++
      match c.constructor with
      | some constructor => constructor.docs.locations
      | none => []

end Target

end ToolSchema
