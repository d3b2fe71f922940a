import ToolSchema.Convert.Report

/-!
# Several targets

Targets are converted in their order, each with the index that the one before it left behind. Either
the first failure ends the work (`convertAll`), or every target has a result of its own
(`convertEach`).
-/

namespace ToolSchema

/-- A note and the target that it was made about. -/
structure Event where
  callable : String
  note : Note

namespace Event

/-- The events of the notes about a target. -/
def ofNotes (callable : String) (notes : List Note) : List Event := notes.map (⟨callable, ·⟩)

/-- The events that are told at a level. -/
def told (level : LogLevel) (events : List Event) : List Event :=
  events.filter fun e ↦ level.enables e.note.level

end Event

/-- What the work on several targets leaves behind. -/
structure Batch (α : Type) where
  events : List Event
  result : α
  index : DocIndex

/-- Converts every target. -/
def convertEach (config : Config) (disk : Disk) (index : DocIndex) :
    List Target → Batch (List (Except ConvertError Tool))
  | [] => ⟨[], [], index⟩
  | t :: rest =>
    let c := t.convert config disk index
    let others := convertEach config disk c.index rest
    ⟨Event.ofNotes t.name c.notes ++ others.events, c.result :: others.result, others.index⟩

/-- Converts targets up to the first failure. The first of them has the number `position`. -/
def convertFrom (config : Config) (disk : Disk) (position : Nat) (index : DocIndex) :
    List Target → Batch (Except BatchError (List Tool))
  | [] => ⟨[], .ok [], index⟩
  | t :: rest =>
    let c := t.convert config disk index
    let events := Event.ofNotes t.name c.notes
    match c.result with
    | .error e => ⟨events, .error ⟨position, e⟩, c.index⟩
    | .ok tool =>
      let others := convertFrom config disk (position + 1) c.index rest
      ⟨events ++ others.events, others.result.map (tool :: ·), others.index⟩

/-- Converts targets up to the first failure. -/
def convertAll (config : Config) (disk : Disk) (index : DocIndex) (targets : List Target) :
    Batch (Except BatchError (List Tool)) :=
  convertFrom config disk 0 index targets

end ToolSchema
