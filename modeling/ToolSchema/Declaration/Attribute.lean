import ToolSchema.Declaration.Token.Lexer
import ToolSchema.Text.Pieces

/-!
# Attributes

The attributes of a declaration. Only documentation is looked at: a documentation comment, of one line
or in a block, or the attribute that stands for one.
-/

namespace ToolSchema

/-- An attribute. -/
inductive Attribute where
  /-- A line of documentation. -/
  | doc (text : String)
  /-- A documentation attribute without a text. -/
  | docOther
  | other
  deriving DecidableEq, Repr, Inhabited

namespace Attribute

/-- The attribute with the given tokens between its brackets. -/
def ofContent : List Token → Attribute
  | [.name "doc", .mark '=', .text value] => doc value
  | .name "doc" :: .colons :: _ => other
  | .name "doc" :: _ => docOther
  | _ => other

/-- The attributes of a source text, one for each pair of brackets outside of all others. -/
def ofText (text : String) : List Attribute :=
  (Token.groupContents (Token.ofText text)).map ofContent

/-- The attribute is one for documentation. -/
def isDoc : Attribute → Bool
  | doc _ | docOther => true
  | other => false

/-- The line of documentation. -/
def line? : Attribute → Option String
  | doc text => some text
  | _ => none

/-- The lines of documentation among attributes. -/
def docLines (attributes : List Attribute) : List String := attributes.filterMap line?

/-- The comment of a declaration: its lines without the blanks at their ends. Blank lines stay. None if
there is no line. -/
def comment (attributes : List Attribute) : Option String :=
  match docLines attributes with
  | [] => none
  | ls => some (String.ofList (joinWith ['\n'] (ls.map fun l ↦ trim l.toList)))

end Attribute

end ToolSchema
