import ToolSchema.Comment.Parser

/-!
# Documented source files

A block of documentation lines belongs to the next line of code. Attributes and plain comments may
stand between the two, a blank line parts them. Documentation lines start with `///` or `#`.

An attribute starts with `#[` and ends with the line on which as many square brackets have been closed
as were opened; no line of it is looked at otherwise.

Line numbers have 32 bits. Where a file has more lines than that, all lines that are left share the
greatest number, and the documentation under it is that of the last of them.
-/

namespace ToolSchema

/-- What a line of a source file is, outside of attributes. -/
inductive SourceLine where
  /-- A line of documentation, without its marker and one space behind it. -/
  | doc (text : List Char)
  | blank
  /-- The first line of an attribute. -/
  | attribute
  | comment
  | code
  deriving DecidableEq, Repr

/-- The text without the one space that it may start with. -/
def dropSpace : List Char → List Char
  | ' ' :: rest => rest
  | cs => cs

/-- What a line without leading blanks is. -/
def SourceLine.ofChars : List Char → SourceLine
  | [] => .blank
  | '/' :: '/' :: '/' :: '/' :: _ => .comment
  | '/' :: '/' :: '/' :: rest => .doc (dropSpace rest)
  | '/' :: '/' :: _ => .comment
  | '#' :: '[' :: _ => .attribute
  | '#' :: '!' :: _ => .code
  | '#' :: rest => .doc (dropSpace rest)
  | _ => .code

/-- The number of open square brackets behind a line. -/
def bracketLevel (level : Nat) (line : List Char) : Nat :=
  line.foldl (fun level c ↦ if c == '[' then level + 1 else if c == ']' then level - 1 else level)
    level

/-- The documentation that belongs to a line of code. -/
structure DocBlock where
  /-- The line of code, counted from one. -/
  line : Nat
  doc : DocComment
  deriving DecidableEq, Repr, Inhabited

/-- The greatest line number. -/
def lastLine : Nat := UInt32.size - 1

/-- The number of a line that is counted from one. -/
def lineNumber (line : Nat) : Nat := min line lastLine

/-- The comment that the lines of a block make up. -/
def DocComment.ofLines (ls : List (List Char)) : DocComment := .ofChars (joinWith ['\n'] ls)

/-- The documentation of a source file, by ascending lines. -/
structure FileDocs where
  blocks : List DocBlock := []
  deriving DecidableEq, Repr, Inhabited

namespace FileDocs

/-- The blocks of the lines from line `n` on. `level` counts the open brackets of an attribute, and
`found` holds the documentation lines that no line of code has taken yet, the last one first. -/
def scan (n level : Nat) (found : List (List Char)) : List (List Char) → List DocBlock
  | [] => []
  | line :: rest =>
    let content := trimStart line
    if 0 < level then scan (n + 1) (bracketLevel level content) found rest
    else
      match SourceLine.ofChars content with
      | .doc text => scan (n + 1) 0 (text :: found) rest
      | .blank => scan (n + 1) 0 [] rest
      | .attribute => scan (n + 1) (bracketLevel 0 content) found rest
      | .comment => scan (n + 1) 0 found rest
      | .code =>
        if found.isEmpty then scan (n + 1) 0 [] rest
        else ⟨n, .ofLines found.reverse⟩ :: scan (n + 1) 0 [] rest

/-- The blocks under the numbers of their lines. Of those under one number the last is kept. -/
def numbered : List DocBlock → List DocBlock
  | [] => []
  | b :: rest =>
    let kept := numbered rest
    if kept.any (fun c ↦ c.line == lineNumber b.line) then kept
    else { b with line := lineNumber b.line } :: kept

/-- The documentation in the characters of a source file. -/
def ofChars (cs : List Char) : FileDocs := ⟨numbered (scan 1 0 [] (lines cs))⟩

/-- The documentation in a source file. -/
def parse (source : String) : FileDocs := ofChars source.toList

/-- The documentation of a line of code. -/
def get? (docs : FileDocs) (line : Nat) : Option DocComment :=
  (docs.blocks.find? fun b ↦ b.line == line).map DocBlock.doc

/-- The documented lines of code. -/
def lineNumbers (docs : FileDocs) : List Nat := docs.blocks.map DocBlock.line

/-- The number of documented lines. -/
def size (docs : FileDocs) : Nat := docs.blocks.length

/-- Nothing is documented. -/
def isEmpty (docs : FileDocs) : Bool := docs.blocks.isEmpty

end FileDocs

end ToolSchema
