/-!
# Tokens of declarations

The words of a declaration's parts: names, lifetimes, literals and marks, in one flat list in which
brackets are marks like any other. Two readings of such a list are given here: what stands outside of its
brackets (`outline`), and what stands inside of them (`groupContents`).
-/

namespace ToolSchema

/-- A token of a declaration. A raw name keeps the `r#` that it is written with. -/
inductive Token where
  | name (text : String)
  /-- A name behind a single quote. -/
  | lifetime
  /-- The value of a string literal. -/
  | text (value : String)
  /-- Any other literal. -/
  | literal
  /-- The double colon of a path. -/
  | colons
  /-- The arrow before the type of a result. -/
  | arrow
  | mark (c : Char)
  deriving DecidableEq, Repr, Inhabited

namespace Token

/-- The token opens a group. -/
def isOpening : Token → Bool
  | mark c => c == '(' || c == '[' || c == '\x7b'
  | _ => false

/-- The token closes a group. -/
def isClosing : Token → Bool
  | mark c => c == ')' || c == ']' || c == '\x7d'
  | _ => false

/-- The tokens outside of groups, `depth` of which are open. Of a group its opening mark is left. -/
def outlineFrom : Nat → List Token → List Token
  | _, [] => []
  | 0, t :: rest => t :: outlineFrom (if t.isOpening then 1 else 0) rest
  | depth + 1, t :: rest =>
    outlineFrom (if t.isOpening then depth + 2 else if t.isClosing then depth else depth + 1) rest

/-- The tokens outside of groups. Of a group its opening mark is left. -/
def outline (tokens : List Token) : List Token := outlineFrom 0 tokens

/-- The rest of the group that is open, if `depth` is not zero, and the contents of the groups behind
it. -/
def groupsFrom : Nat → List Token → List Token × List (List Token)
  | _, [] => ([], [])
  | 0, t :: rest =>
    if t.isOpening then
      let (content, groups) := groupsFrom 1 rest
      ([], content :: groups)
    else groupsFrom 0 rest
  | depth + 1, t :: rest =>
    let next := if t.isOpening then depth + 2 else if t.isClosing then depth else depth + 1
    let (content, groups) := groupsFrom next rest
    if next == 0 then ([], groups) else (t :: content, groups)

/-- The contents of the groups that stand in no other group. -/
def groupContents (tokens : List Token) : List (List Token) := (groupsFrom 0 tokens).2

/-- The text of names and marks, as a visibility consists of: single spaces stand between tokens, but
not inside parentheses at their ends. -/
def spaced : List Token → String
  | [] => ""
  | name s :: mark ')' :: rest => s ++ spaced (mark ')' :: rest)
  | [name s] => s
  | name s :: rest => s ++ " " ++ spaced rest
  | mark '(' :: rest => "(" ++ spaced rest
  | colons :: rest => ":: " ++ spaced rest
  | mark c :: rest => c.toString ++ spaced rest
  | _ :: rest => spaced rest

end Token

end ToolSchema
