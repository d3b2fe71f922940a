import ToolSchema.Text.Blank

/-!
# Type lists

A tag can list types in square brackets: `[String, Array<Integer>]`. The list ends at the first closing
square bracket outside all other brackets, and its types are parted by the commas outside brackets.
Brackets of any form nest, and a closing one closes whatever was opened last.
-/

namespace ToolSchema

/-- Opens a level of a type expression. -/
def isOpening (c : Char) : Bool := c == '[' || c == '<' || c == '\x7b' || c == '('

/-- Closes a level of a type expression. -/
def isClosing (c : Char) : Bool := c == ']' || c == '>' || c == '\x7d' || c == ')'

/-- The number of open brackets behind a character. -/
def levelAfter (level : Nat) (c : Char) : Nat :=
  if isOpening c then level + 1 else if isClosing c then level - 1 else level

/-- The text before the square bracket that closes the list, and the text behind it. -/
def splitAtClose (level : Nat) : List Char → Option (List Char × List Char)
  | [] => none
  | c :: rest =>
    if c == ']' && level == 0 then some ([], rest)
    else (splitAtClose (levelAfter level c) rest).map fun (inner, after) ↦ (c :: inner, after)

/-- The pieces of a text between the commas outside brackets. -/
def splitAtCommas (level : Nat) : List Char → List (List Char)
  | [] => [[]]
  | c :: rest =>
    if c == ',' && level == 0 then [] :: splitAtCommas 0 rest
    else
      match splitAtCommas (levelAfter level c) rest with
      | [] => [[c]]
      | piece :: pieces => (c :: piece) :: pieces

/-- The types of a list: its pieces without the blanks around them, empty ones left out. -/
def listedTypes (inner : List Char) : List (List Char) :=
  ((splitAtCommas 0 inner).map trim).filter fun t ↦ !t.isEmpty

/-- The types that a text starts with in square brackets, and the text behind them without its leading
blanks. -/
def splitTypeList? : List Char → Option (List (List Char) × List Char)
  | '[' :: rest =>
    (splitAtClose 0 rest).map fun (inner, after) ↦ (listedTypes inner, trimStart after)
  | _ => none

end ToolSchema
