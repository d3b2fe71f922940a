import ToolSchema.Json.Basic

/-!
# JSON texts

Writing a value as text, in one line or laid out. Both layouts are one function (`Json.write`): they
differ only in what stands between the parts, and that is blank.
-/

namespace ToolSchema

/-- What stands between the parts of a JSON text. -/
inductive Layout where
  /-- Nothing stands there. -/
  | compact
  /-- Every item stands on a line of its own, indented by two spaces for each level. -/
  | pretty
  deriving DecidableEq, Repr, Inhabited

namespace Layout

/-- What precedes an item at this depth, and the bracket that closes the items one level deeper. -/
def gap (layout : Layout) (depth : Nat) : List Char :=
  match layout with
  | compact => []
  | pretty => '\n' :: List.replicate (2 * depth) ' '

/-- What stands between a key and its value. -/
def colon : Layout → List Char
  | compact => [':']
  | pretty => [':', ' ']

end Layout

namespace Json

/-- A hexadecimal digit below sixteen. -/
def hexDigit (n : Nat) : Char := Nat.digitChar n

/-- How a character is written inside a JSON string: quotes, backslashes and control characters are
escaped, all else stands for itself. -/
def escapedChar (c : Char) : List Char :=
  match c with
  | '"' => ['\\', '"']
  | '\\' => ['\\', '\\']
  | '\x08' => ['\\', 'b']
  | '\x0c' => ['\\', 'f']
  | '\n' => ['\\', 'n']
  | '\r' => ['\\', 'r']
  | '\t' => ['\\', 't']
  | c =>
    if c.toNat < 0x20 then ['\\', 'u', '0', '0', hexDigit (c.toNat / 16), hexDigit (c.toNat % 16)]
    else [c]

/-- A JSON string with its quotes. -/
def stringText (s : String) : List Char := '"' :: s.toList.flatMap escapedChar ++ ['"']

mutual

/-- The text of a value whose items stand at `depth + 1`. -/
def write (layout : Layout) (depth : Nat) : Json → List Char
  | null => "null".toList
  | bool true => "true".toList
  | bool false => "false".toList
  | number n => n.text
  | string s => stringText s
  | array [] => ['[', ']']
  | array (j :: rest) =>
    '[' :: layout.gap (depth + 1) ++ write layout (depth + 1) j ++
      writeItems layout (depth + 1) rest ++ layout.gap depth ++ [']']
  | object [] => ['\x7b', '\x7d']
  | object ((key, j) :: rest) =>
    '\x7b' :: layout.gap (depth + 1) ++ stringText key ++ layout.colon ++
      write layout (depth + 1) j ++ writeMembers layout (depth + 1) rest ++ layout.gap depth ++
      ['\x7d']

/-- The items after the first, each after a comma. -/
def writeItems (layout : Layout) (depth : Nat) : List Json → List Char
  | [] => []
  | j :: rest => ',' :: layout.gap depth ++ write layout depth j ++ writeItems layout depth rest

/-- The members after the first, each after a comma. -/
def writeMembers (layout : Layout) (depth : Nat) : List (String × Json) → List Char
  | [] => []
  | (key, j) :: rest =>
    ',' :: layout.gap depth ++ stringText key ++ layout.colon ++ write layout depth j ++
      writeMembers layout depth rest

end

/-- The text of a value in a layout. -/
def text (layout : Layout) (j : Json) : String := String.ofList (write layout 0 j)

/-- The text of a value in one line. -/
def compactText (j : Json) : String := j.text .compact

end Json

end ToolSchema
