import ToolSchema.Json.Printer
import ToolSchema.Text.Quoted

/-!
# Faults

Why a JSON value or text cannot be read. A `Grammar` fault is one of the text, a `Mismatch` one
between a value and what was expected there. In a text every fault has a `Position`; it is settled by
the number of bytes that are left behind the place, because a reader only ever sees the rest of its
text.

A mismatch may arise where nothing is being read, in a value that was read whole before its parts were
looked at. It is `pending` until the innermost list or object around it gives it the place where it
stops reading (`Fault.settled`).
-/

namespace ToolSchema

/-- What is wrong with a JSON text. -/
inductive Grammar where
  | endInValue
  | endInList
  | endInObject
  | endInString
  | expectedValue
  | expectedIdent
  | expectedListEnd
  | expectedObjectEnd
  | expectedColon
  | keyNotString
  | trailingComma
  | trailingCharacters
  | invalidNumber
  | numberOutOfRange
  | invalidEscape
  | controlCharacter
  | loneSurrogate
  | unfinishedSurrogate
  | tooDeep
  deriving DecidableEq, Repr, Inhabited

namespace Grammar

/-- The fault in words. -/
def message : Grammar → String
  | endInValue => "EOF while parsing a value"
  | endInList => "EOF while parsing a list"
  | endInObject => "EOF while parsing an object"
  | endInString => "EOF while parsing a string"
  | expectedValue => "expected value"
  | expectedIdent => "expected ident"
  | expectedListEnd => "expected `,` or `]`"
  | expectedObjectEnd => "expected `,` or `\x7d`"
  | expectedColon => "expected `:`"
  | keyNotString => "key must be a string"
  | trailingComma => "trailing comma"
  | trailingCharacters => "trailing characters"
  | invalidNumber => "invalid number"
  | numberOutOfRange => "number out of range"
  | invalidEscape => "invalid escape"
  | controlCharacter => "control character (\\u0000-\\u001F) found while parsing a string"
  | loneSurrogate => "lone leading surrogate in hex escape"
  | unfinishedSurrogate => "unexpected end of hex escape"
  | tooDeep => "recursion limit exceeded"

end Grammar

/-- What was found instead of an expected value. -/
inductive Found where
  | null
  | bool (value : Bool)
  | number (value : Number)
  | string (value : String)
  | sequence
  | map
  /-- The name of a case without its value. -/
  | bareCase
  deriving DecidableEq, Repr, Inhabited

namespace Found

/-- What a value is found to be. -/
def ofJson : Json → Found
  | .null => null
  | .bool b => bool b
  | .number n => number n
  | .string s => string s
  | .array _ => sequence
  | .object _ => map

/-- The find in words. -/
def message : Found → String
  | null => "null"
  | bool true => "boolean `true`"
  | bool false => "boolean `false`"
  | number (.integer i) => "integer `" ++ String.ofList i.text ++ "`"
  | number (.double x) => "floating point `" ++ String.ofList x.text ++ "`"
  | string s => "string " ++ quoted s
  | sequence => "sequence"
  | map => "map"
  | bareCase => "unit variant"

end Found

/-- How a value differs from what was expected. -/
inductive Mismatch where
  | invalidType (found : Found) (expected : String)
  | invalidValue (found : Found) (expected : String)
  | invalidLength (length : Nat) (expected : String)
  | missingField (name : String)
  | duplicateField (name : String)
  | unknownCase (name : String) (known : List String)
  deriving DecidableEq, Repr, Inhabited

namespace Mismatch

/-- The names that were expected, in words. -/
def oneOf (names : List String) : String :=
  match names.map fun name ↦ "`" ++ name ++ "`" with
  | [a] => a
  | [a, b] => a ++ " or " ++ b
  | all => "one of " ++ String.intercalate ", " all

/-- The mismatch in words. -/
def message : Mismatch → String
  | invalidType found expected => "invalid type: " ++ found.message ++ ", expected " ++ expected
  | invalidValue found expected => "invalid value: " ++ found.message ++ ", expected " ++ expected
  | invalidLength length expected =>
    "invalid length " ++ toString length ++ ", expected " ++ expected
  | missingField name => "missing field `" ++ name ++ "`"
  | duplicateField name => "duplicate field `" ++ name ++ "`"
  | unknownCase name known => "unknown variant `" ++ name ++ "`, expected " ++ oneOf known

end Mismatch

/-- Why a value or text is refused. -/
inductive Complaint where
  | grammar (fault : Grammar)
  | mismatch (fault : Mismatch)
  deriving DecidableEq, Repr, Inhabited

/-- The complaint in words. -/
def Complaint.message : Complaint → String
  | grammar fault => fault.message
  | mismatch fault => fault.message

/-- The number of bytes that a text takes. -/
def byteCount : List Char → Nat
  | [] => 0
  | c :: rest => c.utf8Size + byteCount rest

/-- A fault while reading a text. -/
inductive Fault where
  /-- A fault with this many bytes left behind its place. -/
  | placed (complaint : Complaint) (left : Nat)
  /-- A mismatch without a place; reading stopped before `rest`. -/
  | pending (mismatch : Mismatch) (rest : List Char)
  deriving DecidableEq, Repr, Inhabited

namespace Fault

/-- A fault of the text just before its rest. -/
def before (fault : Grammar) (rest : List Char) : Fault := placed (.grammar fault) (byteCount rest)

/-- A fault of the text at the first byte of its rest; at the end of the text, just there. -/
def onNext (fault : Grammar) (rest : List Char) : Fault := placed (.grammar fault) (byteCount rest - 1)

/-- The fault with its place: a pending one gets the place at which reading stops once `close` has
been passed. -/
def settled (close : List Char → List Char) : Fault → Fault
  | pending mismatch rest => placed (.mismatch mismatch) (byteCount (close rest))
  | fault => fault

end Fault

/-- A place in a text: its line, and the bytes of that line up to it. -/
structure Position where
  line : Nat
  column : Nat
  deriving DecidableEq, Repr, Inhabited

namespace Position

/-- Walks over a text until `steps` bytes have been passed. A line starts behind a line feed. -/
def advance (p : Position) (steps : Nat) : List Char → Position
  | [] => p
  | c :: rest =>
    if steps = 0 then p
    else if c = '\n' then advance ⟨p.line + 1, 0⟩ (steps - 1) rest
    else advance ⟨p.line, p.column + min steps c.utf8Size⟩ (steps - c.utf8Size) rest

/-- The place in a text that has `left` bytes behind it. -/
def ofLeft (cs : List Char) (left : Nat) : Position := advance ⟨1, 0⟩ (byteCount cs - left) cs

end Position

/-- A complaint about a text, and its place if it has one. -/
structure TextError where
  complaint : Complaint
  position : Option Position
  deriving DecidableEq, Repr, Inhabited

namespace TextError

/-- The error of a fault in the text `cs`. -/
def ofFault (cs : List Char) : Fault → TextError
  | .placed complaint left => ⟨complaint, some (.ofLeft cs left)⟩
  | .pending mismatch _ => ⟨.mismatch mismatch, none⟩

/-- The error in words. -/
def message (e : TextError) : String :=
  match e.position with
  | some p =>
    e.complaint.message ++ " at line " ++ toString p.line ++ " column " ++ toString p.column
  | none => e.complaint.message

end TextError

end ToolSchema
