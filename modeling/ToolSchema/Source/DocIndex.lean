import ToolSchema.Source.Disk
import ToolSchema.Source.FileDocs
import ToolSchema.Source.Location
import ToolSchema.Text.Quoted

/-!
# The index of documented files

Files are read and parsed when their documentation is first asked for, and kept. A file that cannot be
read leaves no trace, so that it is tried again the next time.
-/

namespace ToolSchema

/-- A file whose documentation cannot be had. -/
structure DocError where
  path : Path
  cause : ReadError
  deriving DecidableEq, Repr, Inhabited

/-- The error in words. -/
def DocError.message (e : DocError) : String :=
  "failed to read source file '" ++ e.path.text ++ "': " ++ e.cause.message

/-- The documentation of the files that have been read, each under the spelling of its path that came
first. -/
structure DocIndex where
  files : List (Path × FileDocs) := []
  deriving Repr, Inhabited

namespace DocIndex

/-- The documentation under a path. -/
def find? (index : DocIndex) (p : Path) : Option FileDocs :=
  (index.files.find? fun entry ↦ entry.1.same p).map Prod.snd

/-- The path has been read. -/
def contains (index : DocIndex) (p : Path) : Bool := (index.find? p).isSome

/-- Puts documentation under a path, in place of what is there. -/
def insertFile (p : Path) (docs : FileDocs) : List (Path × FileDocs) → List (Path × FileDocs)
  | [] => [(p, docs)]
  | entry :: rest =>
    if entry.1.same p then (entry.1, docs) :: rest else entry :: insertFile p docs rest

/-- The index with documentation under a path. -/
def insert (index : DocIndex) (p : Path) (docs : FileDocs) : DocIndex :=
  ⟨insertFile p docs index.files⟩

/-- The index with the documentation of a text under a path. -/
def insertSource (index : DocIndex) (p : Path) (source : String) : DocIndex :=
  index.insert p (.parse source)

/-- The index without a path. -/
def erase (index : DocIndex) (p : Path) : DocIndex :=
  ⟨index.files.filter fun entry ↦ !entry.1.same p⟩

/-- The number of paths. -/
def size (index : DocIndex) : Nat := index.files.length

/-- The documentation of a file, which is read if it is not there yet, and the index afterwards. -/
def file (index : DocIndex) (disk : Disk) (p : Path) : Except DocError FileDocs × DocIndex :=
  match index.find? p with
  | some docs => (.ok docs, index)
  | none =>
    match disk p with
    | .error cause => (.error ⟨p, cause⟩, index)
    | .ok source => (.ok (.parse source), index.insertSource p source)

/-- The comment at a location, if one is there, and the index afterwards. -/
def lookup (index : DocIndex) (disk : Disk) (l : Location) :
    Except DocError (Option DocComment) × DocIndex :=
  let (docs, index) := index.file disk l.file
  (docs.map fun docs ↦ docs.get? l.line.toNat, index)

/-- The paths in their order. -/
def paths (index : DocIndex) : List Path := (index.files.map Prod.fst).mergeSort Path.le

/-- The index as a diagnostic shows it: the paths alone. -/
def summary (index : DocIndex) : String :=
  "DocIndex \x7b files: [" ++
    String.intercalate ", " (index.paths.map fun p ↦ quoted p.text) ++ "] \x7d"

end DocIndex

end ToolSchema
