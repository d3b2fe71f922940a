import ToolSchema.Convert.Batch
import ToolSchema.Target.Codec

/-!
# Manifests

A manifest is a JSON file that lists targets. The files that its targets are documented in are relative
to its own directory. Its targets are converted either up to the first failure, or all of them, with a
line for each that fails.
-/

namespace ToolSchema

/-- Targets in the order of their schemas. -/
structure Manifest where
  targets : List Target := []
  deriving DecidableEq, Repr, Inhabited

namespace Manifest

/-- The manifest with all files relative to `base`. -/
def resolve (base : Path) (m : Manifest) : Manifest := ⟨m.targets.map (Target.resolve base)⟩

open Json in
/-- Reads a manifest. -/
def decoder : Decoder Manifest :=
  .record "Manifest" {} [.required "targets" (.list Target.decoder) fun v _ ↦ ⟨v⟩]

/-- The manifest as JSON. -/
def toJson (m : Manifest) : Json := .object [("targets", .array (m.targets.map Target.toJson))]

end Manifest

/-- What a file that was to be loaded holds. -/
inductive Document where
  | manifest
  | config
  deriving DecidableEq, Repr

/-- The document in words. -/
def Document.name : Document → String
  | manifest => "manifest"
  | config => "config"

/-- Why a document cannot be loaded. -/
inductive LoadFault where
  | unreadable (cause : ReadError)
  | unparsable (cause : TextError)
  deriving DecidableEq, Repr

/-- A document that cannot be loaded. -/
structure LoadError where
  document : Document
  path : Path
  fault : LoadFault
  deriving DecidableEq, Repr

namespace LoadError

/-- The error in words, without its cause. -/
def message (e : LoadError) : String :=
  let failure :=
    match e.fault with
    | .unreadable _ => "failed to read "
    | .unparsable _ => "failed to parse "
  failure ++ e.document.name ++ " " ++ e.path.text

/-- The cause in words. -/
def cause (e : LoadError) : String :=
  match e.fault with
  | .unreadable cause => cause.message
  | .unparsable cause => cause.message

end LoadError

/-- Loads a document from a file. -/
def load {α : Type} (document : Document) (d : Json.Decoder α) (disk : Disk) (p : Path) :
    Except LoadError α :=
  match disk p with
  | .error cause => .error ⟨document, p, .unreadable cause⟩
  | .ok text =>
    match d.readText text with
    | .error cause => .error ⟨document, p, .unparsable cause⟩
    | .ok v => .ok v

/-- Loads a configuration. -/
def Config.load (disk : Disk) (p : Path) : Except LoadError Config :=
  ToolSchema.load .config Config.decoder disk p

/-- Loads a manifest. -/
def Manifest.load (disk : Disk) (p : Path) : Except LoadError Manifest :=
  (ToolSchema.load .manifest Manifest.decoder disk p).map (Manifest.resolve p.parent)

/-- A target that was passed over, and why. -/
structure Skipped where
  index : Nat
  target : String
  error : ConvertError

/-- The line about a target that was passed over. -/
def Skipped.line (s : Skipped) : String :=
  "error: target " ++ toString s.index ++ " (`" ++ s.target ++ "`): " ++ s.error.message

/-- What the conversion of a manifest leaves behind. -/
structure Run where
  events : List Event
  skipped : List Skipped
  result : Except BatchError (List Tool)

/-- The failures among results, with their targets; the first result has the number `index`. -/
def skippedFrom (index : Nat) : List Target → List (Except ConvertError Tool) → List Skipped
  | t :: targets, .error e :: results => ⟨index, t.name, e⟩ :: skippedFrom (index + 1) targets results
  | _ :: targets, .ok _ :: results => skippedFrom (index + 1) targets results
  | _, _ => []

/-- The tools among results. -/
def toolsOf (results : List (Except ConvertError Tool)) : List Tool :=
  results.filterMap fun
    | .ok tool => some tool
    | .error _ => none

/-- Converts the targets of a manifest: all that can be, or up to the first failure. -/
def Manifest.run (config : Config) (disk : Disk) (index : DocIndex) (keepGoing : Bool)
    (m : Manifest) : Run :=
  if keepGoing then
    let batch := convertEach config disk index m.targets
    ⟨batch.events, skippedFrom 0 m.targets batch.result, .ok (toolsOf batch.result)⟩
  else
    let batch := convertAll config disk index m.targets
    ⟨batch.events, [], batch.result⟩

/-- The text of several tools. -/
def renderTools (pretty : Bool) (tools : List Tool) : String :=
  (Json.array (tools.map Tool.toJson)).text (if pretty then .pretty else .compact)

end ToolSchema
