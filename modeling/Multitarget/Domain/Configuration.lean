import Multitarget.Domain.Completion
import Multitarget.Domain.Reference
import Multitarget.Text.UpperCase

/-!
# Configurations

Which backends are used, under which version their results are reported, where
telemetry goes and how the log looks.
-/

namespace Multitarget

open Schema (Checked Field)
open Json (Document)

/-- Where telemetry goes. -/
inductive TelemetryMode where
  | none
  | log
  | span
  deriving DecidableEq, Repr

namespace TelemetryMode

/-- All modes. -/
def all : List TelemetryMode := [.none, .log, .span]

/-- The name of a mode. -/
def name : TelemetryMode → String
  | .none => "none"
  | .log => "log"
  | .span => "span"

end TelemetryMode

/-- References to the backends, and to a source of scratch contexts if it is not the usual one. -/
structure BackendReferences where
  jvm : String
  js : String
  wasm : String
  completion : String
  environment : Option String
  deriving DecidableEq, Repr

namespace BackendReferences

/-- Reads a reference. -/
def checkReference : Value → Checked String :=
  Schema.matching Reference.pattern Reference.isReference

/-- The fields of the references. -/
def fields : List Field :=
  [.simple "jvm", .simple "js", .simple "wasm", .simple "completion", .simple "environment"]

/-- Reads the references. -/
def check : Value → Checked BackendReferences :=
  Schema.record "BackendsConfig" fields fun entries =>
    BackendReferences.mk
      <$> Schema.required entries (.simple "jvm") checkReference
      <*> Schema.required entries (.simple "js") checkReference
      <*> Schema.required entries (.simple "wasm") checkReference
      <*> Schema.required entries (.simple "completion") checkReference
      <*> Schema.defaulted entries (.simple "environment") none (Schema.optional checkReference)

/-- The wire form of the references. -/
def toDocument (references : BackendReferences) : Document :=
  .object [
    ("jvm", .text references.jvm),
    ("js", .text references.js),
    ("wasm", .text references.wasm),
    ("completion", .text references.completion),
    ("environment", .ofText? references.environment)]

end BackendReferences

/-- How the log looks: the least level that is written, in upper case, and the format. -/
structure LogSettings where
  level : String
  asJson : Bool
  deriving DecidableEq, Repr

namespace LogSettings

/-- The settings in effect where none are given. -/
def default : LogSettings := ⟨"INFO", false⟩

/-- The names of the levels. -/
def levelNames : List String := ["DEBUG", "INFO", "WARNING", "ERROR", "CRITICAL"]

/-- Reads a level, in any case. -/
def checkLevel (value : Value) : Checked String :=
  (Schema.text value).bind fun name =>
    if levelNames.contains (Text.upper name) then .valid (Text.upper name)
    else .fail (.rule ("Unknown log level: " ++ name))

/-- Reads the settings. -/
def check : Value → Checked LogSettings :=
  Schema.record "LoggingConfig" [.simple "level", ⟨"jsonFormat", "json_format"⟩] fun entries =>
    LogSettings.mk
      <$> Schema.defaulted entries (.simple "level") "INFO" checkLevel
      <*> Schema.defaulted entries ⟨"jsonFormat", "json_format"⟩ false Schema.bool

/-- The wire form of the settings. -/
def toDocument (settings : LogSettings) : Document :=
  .object [("level", .text settings.level), ("jsonFormat", .bool settings.asJson)]

end LogSettings

/-- A configuration. -/
structure Configuration where
  version : Version
  backends : BackendReferences
  telemetry : TelemetryMode
  logging : LogSettings
  deriving DecidableEq, Repr

namespace Configuration

/-- Reads a configuration. -/
def check : Value → Checked Configuration :=
  Schema.record "KompileConfig"
    [.simple "version", .simple "backends", .simple "telemetry", .simple "logging"] fun entries =>
      Configuration.mk
        <$> Schema.required entries (.simple "version") Version.check
        <*> Schema.required entries (.simple "backends") BackendReferences.check
        <*> Schema.defaulted entries (.simple "telemetry") .none
          (Schema.choice (TelemetryMode.all.map fun mode => (mode.name, mode)))
        <*> Schema.defaulted entries (.simple "logging") .default LogSettings.check

/-- The wire form of a configuration. -/
def toDocument (configuration : Configuration) : Document :=
  .object [
    ("version", configuration.version.toDocument),
    ("backends", configuration.backends.toDocument),
    ("telemetry", .text configuration.telemetry.name),
    ("logging", configuration.logging.toDocument)]

end Configuration

end Multitarget
