import ToolSchema.Text.Casing.Table

/-!
# Case mapping

Capital and small forms of letters, with the letters whose other form takes several characters
(`ß`, `ŉ`, `İ`), and the small sigma, which has a form of its own at the end of a word. The pascal
form of a name (`pascalCase`) is built from the two.
-/

namespace ToolSchema

namespace Casing

/-- Looks a code point up in a table of spellings, then in the runs, and keeps it if neither has
it. -/
def convert (spellings : List (Nat × List Nat)) (runs : List CaseRun) (c : Char) : List Char :=
  match spellings.lookup c.toNat with
  | some image => image.map Char.ofNat
  | none =>
    match runs.findSome? (·.map? c.toNat) with
    | some image => [Char.ofNat image]
    | none => [c]

/-- The capital form of a character. -/
def capital (c : Char) : List Char :=
  if c.toNat < 0x80 then [c.toUpper] else convert capitalSpellings capitalRuns c

/-- The small form of a character that stands alone. -/
def small (c : Char) : List Char :=
  if c.toNat < 0x80 then [c.toLower] else convert smallSpellings smallRuns c

/-- The first character that case mapping does not pass over has a case. -/
def meetsCased (cs : List Char) : Bool :=
  match cs.dropWhile fun c ↦ inRanges passedRanges c.toNat with
  | c :: _ => inRanges casedRanges c.toNat
  | [] => false

/-- The small form of a text. `before` holds the characters already passed, the latest first: a sigma
after a cased character that no cased character follows ends a word. -/
def smallAfter (before : List Char) : List Char → List Char
  | [] => []
  | c :: rest =>
    let image :=
      if c == 'Σ' then
        [if meetsCased before && !meetsCased rest then 'ς' else 'σ']
      else small c
    image ++ smallAfter (c :: before) rest

/-- The small form of a text. -/
def smallText (cs : List Char) : List Char := smallAfter [] cs

end Casing

/-- The pieces of a text between the underscores, empty ones included. -/
def splitUnderscores : List Char → List (List Char)
  | [] => [[]]
  | '_' :: rest => [] :: splitUnderscores rest
  | c :: rest =>
    match splitUnderscores rest with
    | [] => [[c]]
    | word :: words => (c :: word) :: words

/-- A word with a capital first character and small ones after it. -/
def capitalized : List Char → List Char
  | [] => []
  | c :: rest => Casing.capital c ++ Casing.smallText rest

/-- The pascal form of a name in words joined by underscores: every word is capitalized and the
underscores go. -/
def pascalCase (name : List Char) : List Char := (splitUnderscores name).flatMap capitalized

end ToolSchema
