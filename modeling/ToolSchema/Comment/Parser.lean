import ToolSchema.Comment.Basic
import ToolSchema.Comment.TypeList
import ToolSchema.Text.Identifier
import ToolSchema.Text.Lines
import ToolSchema.Text.Pieces

/-!
# Parsing comments

A comment is read by lines, and every line is one of three things (`Line`): the head of a tag, a blank
line, or text. Text belongs to the tag before it if no blank line lies between, and else to the
description. An `Outline` puts every line in its place; it is built from the last line to the first, so
that a line only has to say what it does to the outline of the lines behind it.

A tag's body is then split into its parts by the name of the tag (`Tag.ofBody`).
-/

namespace ToolSchema

/-! ### Lines -/

/-- What a line of a comment is. Texts have no blanks at their ends. -/
inductive Line where
  /-- The head of a tag: its name and the text behind it. -/
  | head (tagName rest : List Char)
  | blank
  | text (content : List Char)
  deriving DecidableEq, Repr

/-- The name and the rest of a tag head, from a line without blanks at its ends. -/
def splitHead? : List Char → Option (List Char × List Char)
  | '@' :: rest => (splitWord? rest).map fun (name, after) ↦ (name, trimStart after)
  | _ => none

/-- What a line is. Blanks at its ends do not matter. -/
def Line.ofChars (cs : List Char) : Line :=
  let content := trim cs
  match splitHead? content with
  | some (name, rest) => .head name rest
  | none => if content.isEmpty then .blank else .text content

/-! ### Outlines -/

/-- The texts of a tag body: pieces that are not empty, with single spaces between them. -/
def joinBody (pieces : List (List Char)) : List Char :=
  joinWith [' '] (pieces.filter fun p ↦ !p.isEmpty)

/-- Where the lines of a comment, or of its end, belong. -/
structure Outline where
  /-- The text lines at the start, which belong to whatever stands before them. -/
  run : List (List Char) := []
  /-- The other lines of the description. Blank lines are empty. -/
  description : List (List Char) := []
  /-- Names and bodies of the tags. -/
  tags : List (List Char × List Char) := []

namespace Outline

/-- The outline with a line before it. -/
def cons (line : Line) (o : Outline) : Outline :=
  match line with
  | .head name rest =>
    { run := [], description := o.description, tags := (name, joinBody (rest :: o.run)) :: o.tags }
  | .blank => { run := [], description := [] :: (o.run ++ o.description), tags := o.tags }
  | .text content => { o with run := content :: o.run }

/-- The outline of lines. -/
def ofLines (ls : List Line) : Outline := ls.foldr cons {}

/-- The lines of the description. At the start of a comment no tag is open. -/
def prose (o : Outline) : List (List Char) := o.run ++ o.description

end Outline

/-- Puts a line before others. An empty one is left out at the end and before another empty one. -/
def consLine (line : List Char) (rest : List (List Char)) : List (List Char) :=
  if !line.isEmpty then line :: rest
  else
    match rest with
    | [] => []
    | [] :: _ => rest
    | _ => [] :: rest

/-- Lines with every run of empty ones made one, and none at either end. -/
def collapse (ls : List (List Char)) : List (List Char) :=
  (ls.foldr consLine []).dropWhile List.isEmpty

/-! ### Tags -/

/-- The tags that can list types. -/
def typedTags : List String := ["param", "return", "raise", "yieldparam", "yieldreturn"]

/-- The tags that can name a parameter. -/
def namingTags : List String := ["param", "yieldparam"]

/-- A parameter name at the start of a text, and the text behind it without its leading blanks. -/
def splitParameter? (cs : List Char) : Option (List Char × List Char) :=
  (splitWord? cs).map fun (name, rest) ↦ (name, trimStart rest)

/-- The parts of a tag body. -/
structure BodyParts where
  name : Option (List Char)
  types : Option (List (List Char))
  text : List Char

/-- Splits the body of a tag that can list types. A tag that names a parameter may do so before or
after the types. -/
def BodyParts.ofBody (isNaming : Bool) (body : List Char) : BodyParts :=
  match splitTypeList? body with
  | some (types, rest) =>
    match if isNaming then splitParameter? rest else none with
    | some (name, rest) => ⟨some name, some types, rest⟩
    | none => ⟨none, some types, rest⟩
  | none =>
    match if isNaming then splitParameter? body else none with
    | some (name, rest) =>
      match splitTypeList? rest with
      | some (types, rest) => ⟨some name, some types, rest⟩
      | none => ⟨some name, none, rest⟩
    | none => ⟨none, none, body⟩

/-- The tag of a name and a body. -/
def Tag.ofBody (tagName body : List Char) : Tag :=
  let key := String.ofList tagName
  let body := trim body
  if typedTags.contains key then
    let parts := BodyParts.ofBody (namingTags.contains key) body
    { tagName := key
      name := parts.name.map String.ofList
      types := parts.types.map fun ts ↦ ts.map String.ofList
      text := String.ofList (trim parts.text) }
  else { tagName := key, text := String.ofList body }

/-! ### Comments -/

namespace DocComment

/-- The comment of an outline. -/
def ofOutline (o : Outline) : DocComment where
  description := String.ofList (joinWith ['\n'] (collapse o.prose))
  tags := o.tags.map fun t ↦ Tag.ofBody t.1 t.2

/-- Parses the characters of a comment. -/
def ofChars (cs : List Char) : DocComment :=
  ofOutline (Outline.ofLines ((lines cs).map Line.ofChars))

/-- Parses a comment whose markers have been stripped. -/
def parse (text : String) : DocComment := ofChars text.toList

end DocComment

end ToolSchema
