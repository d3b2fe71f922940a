import ToolSchema.Tag.Error
import ToolSchema.Text.Identifier

/-!
# Payloads

Every tag but the one for a parameter's description has the same outer form: the name of a parameter,
blanks, and a payload that runs to the last character that is not blank.
-/

namespace ToolSchema

/-- A parameter and what a tag says about it. -/
structure Payload where
  parameter : List Char
  content : List Char
  deriving DecidableEq, Repr

/-- The parameter and the payload of a tag text; neither may be empty. -/
def Payload.ofChars? (cs : List Char) : Option Payload :=
  match splitName? (trimStart cs) with
  | none => none
  | some (name, rest) =>
    let content := trim rest
    if startsBlank rest && !content.isEmpty then some ⟨name, content⟩ else none

end ToolSchema
