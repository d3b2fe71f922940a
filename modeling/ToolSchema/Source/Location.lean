import ToolSchema.Source.Path

/-!
# Locations

The place of a declaration: a line of a source file.
-/

namespace ToolSchema

/-- A line of a source file, counted from one. -/
structure Location where
  file : Path
  line : UInt32
  deriving DecidableEq, Repr, Inhabited

namespace Location

/-- The location with a file relative to `base`. -/
def resolve (base : Path) (l : Location) : Location := { l with file := base.join l.file }

/-- The location as messages show it. -/
def text (l : Location) : String := l.file.text ++ ":" ++ toString l.line.toNat

end Location

end ToolSchema
