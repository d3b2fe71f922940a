import ToolSchema.Source.Path

/-!
# Reading files

A `Disk` says what reading a file gives: its text, or why it cannot be read. `FileTree` is a disk that
is held as a value: a working directory with files and directories in it. Outside of the working
directory there are only directories without entries.
-/

namespace ToolSchema

/-- Why a file cannot be read. -/
inductive ReadError where
  | notFound
  | isDirectory
  | notDirectory
  | nameTooLong
  /-- The path has a null character. -/
  | nullInPath
  /-- The file is not text in UTF-8. -/
  | notText
  /-- Any other reason, in the words of the system. -/
  | other (message : String)
  deriving DecidableEq, Repr, Inhabited

/-- The reason in words. -/
def ReadError.message : ReadError → String
  | notFound => "No such file or directory (os error 2)"
  | isDirectory => "Is a directory (os error 21)"
  | notDirectory => "Not a directory (os error 20)"
  | nameTooLong => "File name too long (os error 36)"
  | nullInPath => "file name contained an unexpected NUL byte"
  | notText => "stream did not contain valid UTF-8"
  | other message => message

/-- What reading a file gives. -/
abbrev Disk := Path → Except ReadError String

/-- The disk that a list of readings makes up. A file that was not read is not there. -/
def Disk.ofReadings (readings : List (Path × Except ReadError String)) : Disk := fun p ↦
  (readings.lookup p).getD (.error .notFound)

/-- A file with its bytes, or a directory. -/
inductive FileNode where
  | directory
  | file (bytes : ByteArray)
  deriving Inhabited

/-- The files and directories in a working directory, by the names on the way to them. -/
structure FileTree where
  entries : List (List String × FileNode) := []
  deriving Inhabited

/-- A directory on the way of a path: one in the working directory, or one outside. -/
inductive Place where
  | inside (names : List String)
  | outside
  deriving DecidableEq, Repr

namespace FileTree

/-- What stands at the end of a way. -/
def find? (t : FileTree) (names : List String) : Option FileNode :=
  if names.isEmpty then some .directory else t.entries.lookup names

/-- The tree without what stands at the end of a way. -/
def remove (t : FileTree) (names : List String) : FileTree :=
  ⟨t.entries.filter fun e ↦ e.1 != names⟩

/-- The tree with something at the end of a way. -/
def put (t : FileTree) (names : List String) (node : FileNode) : FileTree :=
  ⟨(names, node) :: (t.remove names).entries⟩

/-- The longest name that a directory can hold, in bytes. -/
def maxName : Nat := 255

/-- The longest path, in bytes. -/
def maxPath : Nat := 4095

/-- Follows the pieces of a path from a place. Every piece but the last must lead to a directory, and
so must the last one if it is empty or made of dots. -/
def follow (t : FileTree) (place : Place) : List (List Char) → Except ReadError FileNode
  | [] => .ok .directory
  | piece :: rest =>
    if piece.isEmpty || piece = ['.'] then follow t place rest
    else if piece = ['.', '.'] then
      match place with
      | .inside names => follow t (if names.isEmpty then .outside else .inside names.dropLast) rest
      | .outside => follow t .outside rest
    else
      let name := String.ofList piece
      if maxName < name.utf8ByteSize then .error .nameTooLong
      else
        match place with
        | .outside => .error .notFound
        | .inside names =>
          match t.find? (names ++ [name]) with
          | none => .error .notFound
          | some .directory => follow t (.inside (names ++ [name])) rest
          | some (.file bytes) => if rest.isEmpty then .ok (.file bytes) else .error .notDirectory

/-- What a path leads to. -/
def node (t : FileTree) (p : Path) : Except ReadError FileNode :=
  if p.text.isEmpty then .error .notFound
  else if p.text.toList.contains '\x00' then .error .nullInPath
  else if maxPath < p.text.utf8ByteSize then .error .nameTooLong
  else follow t (if p.isAbsolute then .outside else .inside []) (slashPieces p.text.toList)

/-- The text of bytes in UTF-8. -/
def decode (bytes : ByteArray) : Except ReadError String :=
  match String.fromUTF8? bytes with
  | some text => .ok text
  | none => .error .notText

/-- Reads the file that a path leads to. -/
def disk (t : FileTree) : Disk := fun p ↦
  match t.node p with
  | .error e => .error e
  | .ok .directory => .error .isDirectory
  | .ok (.file bytes) => decode bytes

/-- Puts a node where the pieces of a path lead, with all directories on the way. -/
def writeAt (node : FileNode) (names : List String) (t : FileTree) : List (List Char) → FileTree
  | [] => t
  | piece :: rest =>
    if piece.isEmpty || piece = ['.'] then writeAt node names t rest
    else if piece = ['.', '.'] then writeAt node names.dropLast t rest
    else
      let way := names ++ [String.ofList piece]
      if rest.isEmpty then t.put way node
      else
        match t.find? way with
        | some _ => writeAt node way t rest
        | none => writeAt node way (t.put way .directory) rest

/-- Writes a file or makes a directory, with all directories on the way. -/
def write (t : FileTree) (p : Path) (node : FileNode) : FileTree :=
  writeAt node [] t (slashPieces p.text.toList)

/-- The way that the pieces of a path name. -/
def wayOf (names : List String) : List (List Char) → List String
  | [] => names
  | piece :: rest =>
    if piece.isEmpty || piece = ['.'] then wayOf names rest
    else if piece = ['.', '.'] then wayOf names.dropLast rest
    else wayOf (names ++ [String.ofList piece]) rest

/-- Deletes a file, if the path leads to one. -/
def delete (t : FileTree) (p : Path) : FileTree :=
  match t.node p with
  | .ok (.file _) => t.remove (wayOf [] (slashPieces p.text.toList))
  | _ => t

end FileTree

end ToolSchema
