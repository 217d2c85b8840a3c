/-
The settings of a configuration file: three sections, each with a default for whatever the file
leaves out. Unknown keys inside a section are ignored, unknown sections are not accepted.
-/
import FieldRules.Batch
import FieldRules.Report.Format

namespace FieldRules

/-- The settings of the output. -/
structure OutputSettings where
  format : Option OutputFormat
  color : Bool
  progress : Bool
deriving DecidableEq

/-- The settings of the log. -/
structure LogSection where
  level : Option String
  format : Option String
  threadIds : Bool
deriving DecidableEq

/-- The content of a configuration file. -/
structure Settings where
  output : OutputSettings
  logging : LogSection
  validation : BatchSettings
deriving DecidableEq

/-- The flag under a key of a section. -/
def flagOr (default : Bool) (key : String) (v : Json) : Bool :=
  ((v.get? key).bind Json.bool?).getD default

/-- The text under a key of a section; null counts as none. -/
def textUnder (key : String) (v : Json) : Option String :=
  (v.get? key).bind Json.text?

namespace OutputSettings

def standard : OutputSettings := ⟨none, true, true⟩

def shape : Json.Shape :=
  .record "OutputConfig" false false
    [("format", .optional (.choice (OutputFormat.all.map OutputFormat.name))), ("color", .flag), ("progress", .flag)]

def ofShaped (v : Json) : OutputSettings :=
  ⟨(textUnder "format" v).bind OutputFormat.ofName?, flagOr standard.color "color" v,
    flagOr standard.progress "progress" v⟩

def toJson (s : OutputSettings) : Json :=
  .object [("format", Json.ofOption (fun f => .text (OutputFormat.name f)) s.format), ("color", .bool s.color),
    ("progress", .bool s.progress)]

end OutputSettings

namespace LogSection

def standard : LogSection := ⟨none, none, false⟩

def shape : Json.Shape :=
  .record "LoggingSection" false false
    [("level", .optional .text), ("format", .optional .text), ("thread_ids", .flag)]

def ofShaped (v : Json) : LogSection :=
  ⟨textUnder "level" v, textUnder "format" v, flagOr standard.threadIds "thread_ids" v⟩

def toJson (s : LogSection) : Json :=
  .object [("level", Json.ofOption .text s.level), ("format", Json.ofOption .text s.format),
    ("thread_ids", .bool s.threadIds)]

end LogSection

namespace Settings

def standard : Settings := ⟨.standard, .standard, .standard⟩

def shape : Json.Shape :=
  .record "Config" false true
    [("output", OutputSettings.shape), ("logging", LogSection.shape), ("validation", BatchSettings.shape)]

/-- The settings in a value of the shape; what is missing is standard. -/
def ofShaped (v : Json) : Settings :=
  ⟨((v.get? "output").map OutputSettings.ofShaped).getD .standard,
    ((v.get? "logging").map LogSection.ofShaped).getD .standard,
    ((v.get? "validation").map BatchSettings.ofShaped).getD .standard⟩

def toJson (s : Settings) : Json :=
  .object [("output", s.output.toJson), ("logging", s.logging.toJson), ("validation", s.validation.toJson)]

/-- The settings that a JSON text holds. -/
def ofText (s : String) : Except Json.Fault Settings :=
  (shape.parse s).map ofShaped

end Settings

end FieldRules
