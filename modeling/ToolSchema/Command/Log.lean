import ToolSchema.Manifest

/-!
# Log lines

How the events of a conversion are shown: each has a level, a source, a message and named values, and
becomes one line of text, one line of JSON, or a paragraph that also says where in the program it is
written. That place is known to whoever builds the program and to nobody else, so it is handed over.
-/

namespace ToolSchema

/-- A value in a log line. -/
inductive LogValue where
  /-- A text that stands as it is. -/
  | plain (text : String)
  /-- A text in quotes. -/
  | quoted (text : String)
  | count (n : Nat)
  deriving DecidableEq, Repr

namespace LogValue

/-- The value in a line of text. -/
def text : LogValue → String
  | plain s => s
  | quoted s => ToolSchema.quoted s
  | count n => toString n

/-- The value in a line of JSON. -/
def toJson : LogValue → Json
  | plain s => .string s
  | quoted s => .string s
  | count n => .ofUInt64 (UInt64.ofNat n)

end LogValue

/-- A line of a log. -/
structure LogEntry where
  level : LogLevel
  /-- Where the line comes from. -/
  source : String
  message : String
  values : List (String × LogValue)
  deriving DecidableEq, Repr

namespace LogEntry

/-- The level in capitals. -/
def levelName (e : LogEntry) : String :=
  match e.level with
  | .silent => "ERROR"
  | .warn => "WARN"
  | .debug => "DEBUG"

/-- How a character of a message is written in a line of text. Those that steer a terminal are
escaped, so that a message cannot do so. -/
def shownChar (c : Char) : List Char :=
  let n := c.toNat
  if n == 0x1B || n == 0x7 || n == 0x8 || n == 0xC || n == 0x7F then
    "\\x".toList ++ List.replicate (2 - (hexDigits n).length) '0' ++ hexDigits n
  else if 0x80 ≤ n && n ≤ 0x9F then "\\u\x7b".toList ++ hexDigits n ++ ['\x7d']
  else [c]

/-- The message as a line of text shows it. -/
def shownMessage (e : LogEntry) : String := String.ofList (e.message.toList.flatMap shownChar)

/-- The line as text. -/
def line (e : LogEntry) : String :=
  e.levelName ++ " " ++ e.source ++ ": " ++ e.shownMessage ++
    String.join (e.values.map fun v ↦ " " ++ v.1 ++ "=" ++ v.2.text)

/-- The line as a paragraph: the level aligned to the right, the values behind commas, and the place in
the program on a line of its own, if there is one. The paragraph ends with its last line. -/
def paragraph (place? : Option String) (e : LogEntry) : String :=
  "  " ++ "".pushn ' ' (5 - e.levelName.length) ++ e.levelName ++ " " ++ e.source ++ ": " ++
    e.shownMessage ++ String.join (e.values.map fun v ↦ ", " ++ v.1 ++ ": " ++ v.2.text) ++ "\n" ++
    place?.elim "" fun place ↦ "    at " ++ place ++ "\n"

/-- The values by their names. -/
def valuesJson (e : LogEntry) : List (String × Json) := e.values.map fun v ↦ (v.1, v.2.toJson)

/-- The line as JSON. -/
def toJson (e : LogEntry) : Json :=
  .object [("level", .string e.levelName),
    ("fields", .object (("message", .string e.message) :: e.valuesJson))]

end LogEntry

/-- The line of an event. -/
def Event.entry (e : Event) : LogEntry :=
  let callable : String × LogValue := ("callable", .quoted e.callable)
  let shownCallable : String × LogValue := ("callable", .plain e.callable)
  match e.note with
  | .started => ⟨.debug, "doctool_schema::convert", "Converting target", [callable]⟩
  | .loaded location tags =>
    ⟨.debug, "doctool_schema::convert", "Loaded documentation",
      [shownCallable, ("location", .plain location.text), ("tags", .count tags)]⟩
  | .warning w => ⟨.warn, "doctool_schema::report", w.message, [shownCallable]⟩
  | .applied parameter kind type =>
    ⟨.debug, "doctool_schema::assemble", "Applied documentation tag",
      [callable, ("parameter", .quoted parameter), ("tag", .plain kind.tagName),
        ("json_type", .plain type.name)]⟩
  | .assembled parameters =>
    ⟨.debug, "doctool_schema::convert", "Assembled schema",
      [callable, ("parameters", .count parameters)]⟩

/-- The lines of the events that are told at a level. -/
def logEntries (level : LogLevel) (events : List Event) : List LogEntry :=
  (Event.told level events).map Event.entry

/-- The line about a target that is passed over. -/
def Skipped.entry (s : Skipped) : LogEntry :=
  ⟨.debug, "doctool_cli", "Skipping failed target",
    [("index", .count s.index), ("target", .quoted s.target)]⟩

end ToolSchema
