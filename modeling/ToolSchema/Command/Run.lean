import ToolSchema.Command.Args
import ToolSchema.Command.Log

/-!
# Running the command

What the command writes and how it ends, as a function of its arguments and of what reading files
gives. The configuration is loaded before the manifest, and options on the command line go before the
configuration. Lines about targets that were passed over come after all lines of the log.
-/

namespace ToolSchema

/-- A line that the command writes beside its result. -/
inductive Remark where
  | log (entry : LogEntry)
  | text (line : String)
  deriving DecidableEq, Repr

/-- How the command ends. -/
structure Ending where
  exitCode : UInt32
  /-- What is written as the result. -/
  output : String := ""
  /-- What is written beside it. -/
  remarks : List Remark := []
  /-- How the lines of the log are shown. -/
  logFormat : LogFormat := .compact

/-- A text with every line after the first indented. -/
def indented (indent text : String) : String :=
  String.ofList (text.toList.flatMap fun c ↦ if c == '\n' then c :: indent.toList else [c])

/-- The number of a cause, aligned to the right. -/
def causeNumber (n : Nat) : String :=
  let digits := toString n
  String.ofList (List.replicate (5 - digits.length) ' ') ++ digits ++ ": "

/-- The lines of several causes, the outermost first. -/
def numberedCauses (n : Nat) : List String → String
  | [] => ""
  | cause :: rest =>
    "\n" ++ causeNumber n ++ indented "       " cause ++ numberedCauses (n + 1) rest

/-- The text about an error and its causes. -/
def failureText (message : String) (causes : List String) : String :=
  "Error: " ++ message ++
    match causes with
    | [] => ""
    | [cause] => "\n\nCaused by:\n    " ++ indented "    " cause
    | causes => "\n\nCaused by:" ++ numberedCauses 0 causes

/-- The command fails with an error. -/
def Ending.failure (message : String) (causes : List String) : Ending :=
  { exitCode := 1, remarks := [.text (failureText message causes)] }

/-- The command fails because a document cannot be loaded. -/
def Ending.ofLoadError (e : LoadError) : Ending := .failure e.message [e.cause]

/-- The ending with remarks before its own. -/
def Ending.after (remarks : List Remark) (logFormat : LogFormat) (e : Ending) : Ending :=
  { e with remarks := remarks ++ e.remarks, logFormat }

namespace Args

/-- The configuration that the options and the configuration file make up. -/
def settings (args : Args) (disk : Disk) : Except LoadError Config := do
  let config ←
    match args.config with
    | none => pure {}
    | some p => Config.load disk p
  return { config with
    logLevel := args.logLevel.getD config.logLevel
    pretty := args.pretty || config.pretty }

/-- The first line of the log. -/
def openingEntry (args : Args) : LogEntry :=
  ⟨.debug, "doctool_core::tracing_setup", "Tracing initialized",
    [("level", .plain "DEBUG"), ("format", .plain args.logFormat.label)]⟩

/-- The remarks about targets that were passed over. -/
def skipRemarks (level : LogLevel) (skipped : List Skipped) : List Remark :=
  skipped.flatMap fun s ↦
    (if level.enables .debug then [.log s.entry] else []) ++ [.text s.line]

/-- Converts the manifest with a configuration. -/
def convert (args : Args) (config : Config) (disk : Disk) : Ending :=
  let opening : List Remark :=
    if config.logLevel.enables .debug then [.log args.openingEntry] else []
  match Manifest.load disk args.manifest with
  | .error e => (Ending.ofLoadError e).after opening args.logFormat
  | .ok manifest =>
    let run := manifest.run config disk {} args.keepGoing
    let remarks := opening ++ (logEntries config.logLevel run.events).map Remark.log ++
      skipRemarks config.logLevel run.skipped
    let ending : Ending :=
      match run.result with
      | .error e => .failure e.message [e.error.message]
      | .ok tools => { exitCode := 0, output := renderTools config.pretty tools ++ "\n" }
    ending.after remarks args.logFormat

/-- Does what the arguments ask for. -/
def run (args : Args) (disk : Disk) : Ending :=
  match args.settings disk with
  | .error e => (Ending.ofLoadError e).after [] args.logFormat
  | .ok config => args.convert config disk

end Args

/-- Runs the command. -/
def runCommand (args : List String) (disk : Disk) : Ending :=
  match Request.ofArgs args with
  | .help => { exitCode := 0, output := helpText }
  | .version => { exitCode := 0, output := versionText }
  | .misuse => { exitCode := 2, remarks := [.text misuseText] }
  | .run args => args.run disk

/-- The text of a remark, with the lines of the log in a format. `place?` says where in the program a
line is written. -/
def Remark.shown (place? : LogEntry → Option String) (logFormat : LogFormat) : Remark → String
  | .log entry =>
    match logFormat with
    | .pretty => entry.paragraph (place? entry)
    | .compact => entry.line
    | .json => entry.toJson.compactText
  | .text line => line

namespace Request

/-- The files that a request names itself. -/
def files : Request → List Path
  | run args => args.config.toList ++ [args.manifest]
  | _ => []

/-- The files that the targets of a request are documented in, which its manifest names. -/
def documentedFiles (request : Request) (disk : Disk) : List Path :=
  match request with
  | run args =>
    match Manifest.load disk args.manifest with
    | .error _ => []
    | .ok manifest => manifest.targets.flatMap fun t ↦ t.locations.map Location.file
  | _ => []

end Request

end ToolSchema
