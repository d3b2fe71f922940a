import ToolSchema.Convert.Config
import ToolSchema.Convert.Diagnostics

/-!
# Traces

A conversion notes down what it does, warnings among the rest. The notes do not depend on how much of
them is told in the end (`Note.level`). A `Traced` step keeps the notes that were made before it
failed.
-/

namespace ToolSchema

/-- What a conversion notes down. -/
inductive Note where
  /-- It starts. -/
  | started
  /-- A comment with this many tags was found at a location. -/
  | loaded (location : Location) (tags : Nat)
  | warning (warning : Warning)
  /-- A tag was taken up, and the parameter has this type now. -/
  | applied (parameter : String) (kind : TagKind) (type : JsonType)
  /-- The schema is complete, with this many parameters. -/
  | assembled (parameters : Nat)
  deriving Repr

namespace Note

/-- The level from which on a note is told. -/
def level : Note → LogLevel
  | warning _ => .warn
  | _ => .debug

/-- The warning that the note holds. -/
def warning? : Note → Option Warning
  | warning w => some w
  | _ => none

end Note

/-- The warnings among notes. -/
def warningsOf (notes : List Note) : List Warning := notes.filterMap Note.warning?

/-- What a step of a conversion gives, and what it noted down. -/
structure Traced (α : Type) where
  notes : List Note
  result : Except ConvertError α

namespace Traced

variable {α β : Type}

/-- A step that notes nothing. -/
def done (a : α) : Traced α := ⟨[], .ok a⟩

/-- A step that fails. -/
def fail (e : ConvertError) : Traced α := ⟨[], .error e⟩

/-- A step that only notes something down. -/
def note (n : Note) : Traced Unit := ⟨[n], .ok ()⟩

/-- A step that only warns. -/
def warn (w : Warning) : Traced Unit := note (.warning w)

/-- A step and, if it did not fail, the next one. -/
def andThen (x : Traced α) (f : α → Traced β) : Traced β :=
  match x.result with
  | .error e => ⟨x.notes, .error e⟩
  | .ok a => ⟨x.notes ++ (f a).notes, (f a).result⟩

instance : Monad Traced where
  pure := done
  bind := andThen

/-- Warns under the lenient policy and goes on with a value, and fails under the strict one. -/
def tolerate (policy : Policy) (w : Warning) (e : ConvertError) (a : α) : Traced α :=
  match policy with
  | .lenient => do
    warn w
    return a
  | .strict => fail e

end Traced

end ToolSchema
