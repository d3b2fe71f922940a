import ToolSchema.Tag.Values

/-!
# Configuration

How strictly a conversion takes documentation, how much it tells about its work, and how its result is
laid out.
-/

namespace ToolSchema

/-- How much a conversion tells about its work. -/
inductive LogLevel where
  /-- Nothing. -/
  | silent
  /-- Its warnings. -/
  | warn
  /-- Its warnings and every step. -/
  | debug
  deriving DecidableEq, Repr, Inhabited

namespace LogLevel

/-- All levels. -/
def all : List LogLevel := [silent, warn, debug]

/-- The name of the level. -/
def name : LogLevel → String
  | silent => "silent"
  | warn => "warn"
  | debug => "debug"

/-- The place of the level in the order of levels. -/
def rank : LogLevel → Nat
  | silent => 0
  | warn => 1
  | debug => 2

/-- What is told at `level` is told. -/
def enables (self level : LogLevel) : Bool := level != silent && level.rank ≤ self.rank

end LogLevel

/-- What is done about documentation that does not fit. -/
inductive Policy where
  /-- It is left out with a warning. -/
  | lenient
  /-- The conversion fails. -/
  | strict
  deriving DecidableEq, Repr, Inhabited

namespace Policy

/-- The name of the policy. -/
def name : Policy → String
  | lenient => "lenient"
  | strict => "strict"

end Policy

namespace ValuesParsing

/-- The name of the mode. -/
def name : ValuesParsing → String
  | strict => "strict"
  | permissive => "permissive"

end ValuesParsing

/-- What a conversion gives. -/
inductive Format where
  /-- A JSON text. -/
  | serialized
  /-- The schema itself. -/
  | structured
  deriving DecidableEq, Repr, Inhabited

namespace Format

/-- The name of the format. -/
def name : Format → String
  | serialized => "serialized"
  | structured => "structured"

end Format

/-- The settings of a converter. -/
structure Config where
  logLevel : LogLevel := .warn
  /-- What is done about tags that do not follow their grammar. -/
  tagPolicy : Policy := .lenient
  /-- What is done about type names that stand for no type. -/
  typePolicy : Policy := .lenient
  valuesParsing : ValuesParsing := .permissive
  /-- Texts are laid out. -/
  pretty : Bool := false
  deriving DecidableEq, Repr, Inhabited

namespace Config

/-- The strictest reading of documentation. -/
def strict (c : Config) : Config :=
  { c with tagPolicy := .strict, typePolicy := .strict, valuesParsing := .strict }

/-- The layout of texts. -/
def layout (c : Config) : Layout := if c.pretty then .pretty else .compact

open Json in
/-- Reads a policy. -/
def policyDecoder : Decoder Policy := .names [("lenient", .lenient), ("strict", .strict)]

open Json in
/-- Reads a mode of value lists. -/
def valuesDecoder : Decoder ValuesParsing :=
  .names [("strict", .strict), ("permissive", .permissive)]

open Json in
/-- Reads a level. -/
def logLevelDecoder : Decoder LogLevel := .names (LogLevel.all.map fun l ↦ (l.name, l))

open Json in
/-- Reads a configuration. Every setting has a default. -/
def decoder : Decoder Config :=
  .record "ConverterConfig" {}
    [.defaulted "log_level" logLevelDecoder fun v c ↦ { c with logLevel := v },
      .defaulted "tag_policy" policyDecoder fun v c ↦ { c with tagPolicy := v },
      .defaulted "type_policy" policyDecoder fun v c ↦ { c with typePolicy := v },
      .defaulted "values_parsing" valuesDecoder fun v c ↦ { c with valuesParsing := v },
      .defaulted "pretty" .bool fun v c ↦ { c with pretty := v }]

/-- The configuration as JSON. -/
def toJson (c : Config) : Json :=
  .object [("log_level", .string c.logLevel.name), ("tag_policy", .string c.tagPolicy.name),
    ("type_policy", .string c.typePolicy.name), ("values_parsing", .string c.valuesParsing.name),
    ("pretty", .bool c.pretty)]

end Config

open Json in
/-- Reads a format. -/
def Format.decoder : Decoder Format :=
  .names [("serialized", .serialized), ("structured", .structured)]

end ToolSchema
