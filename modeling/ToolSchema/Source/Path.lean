import ToolSchema.Text.Pieces

/-!
# Paths

Paths of source files are texts; joining keeps their spelling (`Path.join`). Two spellings name the
same entry of an index if their parts agree: doubled and trailing slashes and inner single dots do not
count, while a leading single dot and double dots do (`Path.parts`).
-/

namespace ToolSchema

/-- The path of a file, as it is spelled. -/
structure Path where
  text : String
  deriving DecidableEq, Repr, Inhabited

/-- A part of a path. -/
inductive PathPart where
  /-- The slash that an absolute path starts with. -/
  | root
  /-- A single dot at the start. -/
  | current
  /-- A double dot. -/
  | parent
  | name (text : String)
  deriving DecidableEq, Repr, Inhabited

namespace PathPart

/-- Where parts of different form stand in the order of paths. -/
def rank : PathPart → Nat
  | root => 0
  | current => 1
  | parent => 2
  | name _ => 3

/-- The order of parts: by form, and names by their characters. -/
def le : PathPart → PathPart → Bool
  | name s, name t => decide (s ≤ t)
  | p, q => p.rank ≤ q.rank

end PathPart

/-- The pieces of a text between its slashes. -/
def slashPieces (cs : List Char) : List (List Char) := piecesAt '/' cs

/-- The text without the slashes at its start (of a reversed path: at its end), and without the single
dots between them. The slash of the root stays. -/
def stripSlashes : List Char → List Char
  | ['/'] => ['/']
  | '/' :: rest => stripSlashes rest
  | '.' :: '/' :: rest => stripSlashes ('/' :: rest)
  | rest => rest

namespace Path

/-- The path starts at the root. -/
def isAbsolute (p : Path) : Bool := p.text.toList.head? == some '/'

/-- The file of a path that is relative to `base`. An absolute path stays as it is, and so does every
path if the base is empty. -/
def join (base p : Path) : Path :=
  if p.isAbsolute || base.text.isEmpty then p
  else if base.text.toList.getLast? == some '/' then ⟨base.text ++ p.text⟩
  else ⟨base.text ++ "/" ++ p.text⟩

/-- The part that a piece between slashes stands for. Nothing and single dots stand for none. -/
def partOf? (piece : List Char) : Option PathPart :=
  if piece.isEmpty || piece = ['.'] then none
  else if piece = ['.', '.'] then some .parent
  else some (.name (String.ofList piece))

/-- The parts of a path, which decide what it names. -/
def parts (p : Path) : List PathPart :=
  let pieces := slashPieces p.text.toList
  let start :=
    if p.isAbsolute then [.root] else if pieces.head? == some ['.'] then [.current] else []
  start ++ pieces.filterMap partOf?

/-- The two paths have the same parts. -/
def same (p q : Path) : Bool := p.parts == q.parts

/-- The order of paths, by their parts. -/
def partsLE : List PathPart → List PathPart → Bool
  | [], _ => true
  | _ :: _, [] => false
  | a :: as, b :: bs => if a = b then partsLE as bs else a.le b

/-- The order of paths. -/
def le (p q : Path) : Bool := partsLE p.parts q.parts

/-- The directory of the file that a path names. It is empty for a path of one part, as the root is. -/
def parent (p : Path) : Path :=
  if p.parts = [.root] then ⟨""⟩
  else
    let reversed := stripSlashes p.text.toList.reverse
    ⟨String.ofList (stripSlashes (reversed.dropWhile fun c ↦ !(c == '/'))).reverse⟩

end Path

end ToolSchema
