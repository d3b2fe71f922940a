import ToolSchema.Declaration.Token

/-!
# Types of declarations

Of a declared type only one thing matters: whether a value may be left out. It may if the type is a path
whose last segment is `Option` with one type as its only argument (`isOptional`). References, tuples,
and types that only hold such a path inside are not.

What stands in parentheses, brackets and braces has no say in this, so a type is read from its outline, in
which every angle belongs to a list of arguments. A path is read from pieces (`Piece`), in which everything
between angles has been put together.
-/

namespace ToolSchema

/-- An argument of a path segment. -/
inductive TypeArgument where
  | type
  | lifetime
  | constant
  /-- A name with a type or a bound for it. -/
  | binding
  deriving DecidableEq, Repr, Inhabited

/-- The number of angles that are open behind a token. -/
def anglesAfter (angles : Nat) (t : Token) : Nat :=
  if t = .mark '<' then angles + 1 else if t = .mark '>' then angles - 1 else angles

namespace TypeArgument

/-- The arguments of a list, parted by the commas outside of further angles. -/
def split (angles : Nat) : List Token → List (List Token)
  | [] => [[]]
  | t :: rest =>
    if t = .mark ',' && angles == 0 then [] :: split angles rest
    else
      match split (anglesAfter angles t) rest with
      | [] => [[t]]
      | arg :: args => (t :: arg) :: args

/-- An equals sign or a colon stands outside of angles. -/
def hasBinding (angles : Nat) : List Token → Bool
  | [] => false
  | t :: rest =>
    (angles == 0 && (t = .mark '=' || t = .mark ':')) || hasBinding (anglesAfter angles t) rest

/-- What an argument is. A lifetime that a bound follows starts a type. -/
def ofTokens (tokens : List Token) : TypeArgument :=
  match tokens with
  | [.lifetime] => lifetime
  | .text _ :: _ => constant
  | .literal :: _ => constant
  | .name "true" :: _ => constant
  | .name "false" :: _ => constant
  | .mark '-' :: _ => constant
  | .mark '\x7b' :: _ => constant
  | _ => if hasBinding 0 tokens then binding else type

/-- The arguments between two angles. A comma may stand behind the last one. -/
def ofContent (content : List Token) : List TypeArgument :=
  ((split 0 content).filter fun arg ↦ !arg.isEmpty).map ofTokens

end TypeArgument

/-- A part of the outline of a type. -/
inductive Piece where
  | token (t : Token)
  /-- Two angles and what stands between them. -/
  | angles (content : List Token)
  deriving DecidableEq, Repr, Inhabited

namespace Piece

/-- The pieces of an outline, from inside of angles if there are any: the number of those open within
them, and what has been read, the latest first. -/
def ofOutlineFrom : Option (Nat × List Token) → List Token → List Piece
  | _, [] => []
  | none, t :: rest =>
    if t = .mark '<' then ofOutlineFrom (some (0, [])) rest else token t :: ofOutlineFrom none rest
  | some (depth, content), t :: rest =>
    if t = .mark '>' && depth == 0 then angles content.reverse :: ofOutlineFrom none rest
    else ofOutlineFrom (some (anglesAfter depth t, t :: content)) rest

/-- The pieces of an outline. -/
def ofOutline (tokens : List Token) : List Piece := ofOutlineFrom none tokens

end Piece

/-- The words that are no names, and so no segments of a path. -/
def reservedWords : List String :=
  ["_", "abstract", "as", "async", "await", "become", "box", "break", "const", "continue", "do", "dyn",
    "else", "enum", "extern", "false", "final", "fn", "for", "if", "impl", "in", "let", "loop", "macro",
    "match", "mod", "move", "mut", "override", "priv", "pub", "ref", "return", "static", "struct",
    "trait", "true", "type", "typeof", "unsafe", "unsized", "use", "virtual", "where", "while", "yield"]

/-- A segment of a path, with the arguments it may have between angles. -/
structure PathSegment where
  name : String
  arguments : Option (List TypeArgument) := none
  deriving DecidableEq, Repr, Inhabited

namespace PathSegment

/-- The segments of a path. Parentheses may stand behind a name in place of angles, and a result in
parentheses behind those. -/
def ofPieces? : List Piece → Option (List PathSegment)
  | .token (.name s) :: rest =>
    if reservedWords.contains s then none
    else
      match rest with
      | [] => some [{ name := s }]
      | [.angles content] | [.token .colons, .angles content] =>
        some [{ name := s, arguments := some (TypeArgument.ofContent content) }]
      | .angles content :: .token .colons :: rest
      | .token .colons :: .angles content :: .token .colons :: rest =>
        (ofPieces? rest).map
          ({ name := s, arguments := some (TypeArgument.ofContent content) } :: ·)
      | .token (.mark '(') :: .token .colons :: rest
      | .token .colons :: .token (.mark '(') :: .token .colons :: rest
      | .token (.mark '(') :: .token .arrow :: .token (.mark '(') :: .token .colons :: rest
      | .token .colons :: .token (.mark '(') :: .token .arrow :: .token (.mark '(') ::
          .token .colons :: rest
      | .token .colons :: rest => (ofPieces? rest).map ({ name := s } :: ·)
      | _ => none
  | _ => none

end PathSegment

/-- A declared type, as far as it matters. -/
inductive TypeForm where
  | path (segments : List PathSegment)
  | other
  deriving DecidableEq, Repr, Inhabited

namespace TypeForm

/-- The form of a type. A path may start with a double colon, or behind a type in angles. -/
def ofTokens (tokens : List Token) : TypeForm :=
  let segments :=
    match Piece.ofOutline (Token.outline tokens) with
    | .token .colons :: rest => PathSegment.ofPieces? rest
    | .angles _ :: .token .colons :: rest => PathSegment.ofPieces? rest
    | pieces => PathSegment.ofPieces? pieces
  match segments with
  | some segments => path segments
  | none => other

/-- A value of the type may be left out. -/
def isOptional : TypeForm → Bool
  | path segments => segments.getLast? == some ⟨"Option", some [.type]⟩
  | other => false

end TypeForm

end ToolSchema
