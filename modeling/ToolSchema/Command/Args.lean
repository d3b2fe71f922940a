import ToolSchema.Convert.Config
import ToolSchema.Source.Path

/-!
# Arguments

The arguments of the command: one manifest and options that may stand before and behind it. Arguments
are taken up from left to right, and the first one that is wrong, or that asks for help or the version,
ends the reading.
-/

namespace ToolSchema

/-- How log lines are shown. -/
inductive LogFormat where
  | pretty
  | compact
  | json
  deriving DecidableEq, Repr, Inhabited

namespace LogFormat

/-- All formats. -/
def all : List LogFormat := [pretty, compact, json]

/-- The name of the format on the command line. -/
def name : LogFormat → String
  | pretty => "pretty"
  | compact => "compact"
  | json => "json"

/-- The name of the format in log lines. -/
def label : LogFormat → String
  | pretty => "Pretty"
  | compact => "Compact"
  | json => "Json"

open Json in
/-- Reads a format. -/
def decoder : Decoder LogFormat := .names (all.map fun f ↦ (f.name, f))

end LogFormat

/-- What the command is asked to do. -/
structure Args where
  manifest : Path
  config : Option Path := none
  pretty : Bool := false
  keepGoing : Bool := false
  logLevel : Option LogLevel := none
  logFormat : LogFormat := .compact
  deriving DecidableEq, Repr, Inhabited

/-- What arguments ask for. -/
inductive Request where
  | run (args : Args)
  | help
  | version
  /-- The arguments are wrong. -/
  | misuse
  deriving DecidableEq, Repr, Inhabited

/-- The options that have been read. -/
structure Options where
  manifest : Option Path := none
  config : Option Path := none
  pretty : Bool := false
  keepGoing : Bool := false
  logLevel : Option LogLevel := none
  logFormat : Option LogFormat := none

/-- The options that take a value. -/
inductive ValueOption where
  | config
  | logLevel
  | logFormat

/-- The option of a name that takes a value. -/
def ValueOption.ofName? : String → Option ValueOption
  | "config" => some config
  | "log-level" => some logLevel
  | "log-format" => some logFormat
  | _ => none

namespace Options

/-- A path, which may not be empty. -/
def path? (text : String) : Option Path := if text.isEmpty then none else some ⟨text⟩

/-- The options with a value, which must be one that the option takes, and be its first. -/
def setValue? (o : Options) (name : ValueOption) (value : String) : Option Options :=
  match name with
  | .config =>
    if o.config.isSome then none else (path? value).map fun p ↦ { o with config := some p }
  | .logLevel =>
    if o.logLevel.isSome then none
    else (LogLevel.all.find? fun l ↦ l.name == value).map fun l ↦ { o with logLevel := some l }
  | .logFormat =>
    if o.logFormat.isSome then none
    else (LogFormat.all.find? fun f ↦ f.name == value).map fun f ↦ { o with logFormat := some f }

/-- The options with a manifest, which must be the only one. -/
def setManifest? (o : Options) (value : String) : Option Options :=
  if o.manifest.isSome then none else (path? value).map fun p ↦ { o with manifest := some p }

/-- The request of options that have been read to the end. -/
def finish (o : Options) : Request :=
  match o.manifest with
  | none => .misuse
  | some manifest =>
    .run
      { manifest
        config := o.config
        pretty := o.pretty
        keepGoing := o.keepGoing
        logLevel := o.logLevel
        logFormat := o.logFormat.getD .compact }

end Options

/-- The text looks like an option, so that it is no value of one. A single dash does not. -/
def looksLikeOption (text : String) : Bool :=
  text.toList.head? == some '-' && text.length != 1

/-- The name and, after an equals sign, the value of a long option without its dashes. -/
def splitOption (cs : List Char) : String × Option String :=
  let isName (c : Char) : Bool := !(c == '=')
  (String.ofList (cs.takeWhile isName),
    match cs.dropWhile isName with
    | [] => none
    | _ :: value => some (String.ofList value))

/-- Reads arguments behind the mark that ends the options. -/
def readPlain (o : Options) : List String → Request
  | [] => o.finish
  | arg :: rest =>
    match o.setManifest? arg with
    | none => .misuse
    | some o => readPlain o rest

/-- Reads arguments. -/
def readArgs (o : Options) : List String → Request
  | [] => o.finish
  | arg :: rest =>
    match arg.toList with
    | ['-', '-'] => readPlain o rest
    | '-' :: '-' :: cs =>
      let (name, value) := splitOption cs
      match ValueOption.ofName? name, value with
      | some option, some value =>
        match o.setValue? option value with
        | none => .misuse
        | some o => readArgs o rest
      | some option, none =>
        match rest with
        | [] => .misuse
        | value :: rest =>
          if looksLikeOption value then .misuse
          else
            match o.setValue? option value with
            | none => .misuse
            | some o => readArgs o rest
      | none, some _ => .misuse
      | none, none =>
        if name == "pretty" then
          if o.pretty then .misuse else readArgs { o with pretty := true } rest
        else if name == "keep-going" then
          if o.keepGoing then .misuse else readArgs { o with keepGoing := true } rest
        else if name == "help" then .help
        else if name == "version" then .version
        else .misuse
    | '-' :: 'h' :: _ => .help
    | '-' :: 'V' :: _ => .version
    | '-' :: _ :: _ => .misuse
    | _ =>
      match o.setManifest? arg with
      | none => .misuse
      | some o => readArgs o rest

/-- What the arguments of the command ask for. -/
def Request.ofArgs (args : List String) : Request := readArgs {} args

/-- The text about the version. -/
def versionText : String := "doctool 0.0.1\n"

/-- Lines as one text, each with a line break behind it. -/
def textOfLines (lines : List String) : String := String.join (lines.map fun line ↦ line ++ "\n")

/-- The line that shows the form of the arguments. -/
def usageLine : String := "Usage: doctool [OPTIONS] <MANIFEST>"

/-- The text about arguments that are wrong. -/
def misuseText : String :=
  "error: invalid arguments\n\n" ++ usageLine ++ "\n\nFor more information, try '--help'."

/-- The text that explains the arguments. -/
def helpText : String :=
  textOfLines
    ["Convert documented callables into JSON Schema tool definitions",
      "",
      usageLine,
      "",
      "Arguments:",
      "  <MANIFEST>  Manifest file listing the targets to convert",
      "",
      "Options:",
      "      --config <FILE>            Converter configuration file (JSON)",
      "      --pretty                   Pretty-print the output",
      "      --keep-going               Report failing targets on stderr and continue with the rest",
      "      --log-level <LOG_LEVEL>    Converter log level (overrides the config file) " ++
        "[possible values: silent, warn, debug]",
      "      --log-format <LOG_FORMAT>  Log output format [default: compact] " ++
        "[possible values: pretty, compact, json]",
      "  -h, --help                     Print help",
      "  -V, --version                  Print version"]

end ToolSchema
