import Conformance.Decimal.Reading

/-!
# Settings

## Main Definitions

* `Settings` — what can be configured
* `Settings.ofEnvironment` — the settings that named texts of the environment give
-/

namespace Conformance

/-- What can be configured. -/
structure Settings where
  /-- The characters of a string builder that names none. -/
  defaultCharset : String
  /-- How far a remainder may be from a multiple of a step. -/
  stepTolerance : Binary64
  /-- The dialect that descriptors declare. -/
  schemaDialect : String
  /-- Descriptors declare their dialect. -/
  emitSchemaDialect : Bool
  debug : Bool
  /-- The least level of events that are logged. -/
  logLevel : String
  deriving DecidableEq, Repr, Inhabited

namespace Settings

/-- The settings of an empty environment. -/
def standard : Settings where
  defaultCharset := "a-zA-Z0-9"
  stepTolerance := .ofDecimal false 1 (-9)
  schemaDialect := "https://json-schema.org/draft/2020-12/schema"
  emitSchemaDialect := true
  debug := false
  logLevel := "info"

/-- A truth value as the environment spells it. -/
def readBool? (text : String) : Option Bool :=
  let word := String.ofList (text.toList.map Char.toLower)
  if ["1", "on", "t", "true", "y", "yes"].contains word then some true
  else if ["0", "off", "f", "false", "n", "no"].contains word then some false
  else none

/-- One named text of the environment taken over; unknown names and texts that do not read are
ignored. -/
def update (s : Settings) (name text : String) : Settings :=
  match name with
  | "DEFAULT_CHARSET" => { s with defaultCharset := text }
  | "STEP_TOLERANCE" =>
    match Decimal.readFloat? text with
    | some x => { s with stepTolerance := x }
    | none => s
  | "SCHEMA_DIALECT" => { s with schemaDialect := text }
  | "EMIT_SCHEMA_DIALECT" =>
    match readBool? text with
    | some b => { s with emitSchemaDialect := b }
    | none => s
  | "DEBUG" =>
    match readBool? text with
    | some b => { s with debug := b }
    | none => s
  | "LOG_LEVEL" => { s with logLevel := text }
  | _ => s

/-- The settings that an environment gives. -/
def ofEnvironment (names : List (String × String)) : Settings :=
  names.foldl (fun s (name, text) => s.update name text) standard

end Settings

end Conformance
