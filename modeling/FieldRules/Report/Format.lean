/-
The four forms of output. Every document has a JSON form, compact or indented, and a YAML form; for
people reports have a form of their own, and other documents are shown as indented JSON.
-/
import FieldRules.Yaml.Writer
import FieldRules.Json.Writer

namespace FieldRules

/-- A form of output. -/
inductive OutputFormat where
  | human
  | json
  | yaml
  | jsonPretty
deriving DecidableEq

namespace OutputFormat

def all : List OutputFormat :=
  [human, json, yaml, jsonPretty]

def name : OutputFormat → String
  | human => "human"
  | json => "json"
  | yaml => "yaml"
  | jsonPretty => "json-pretty"

def ofName? (s : String) : Option OutputFormat :=
  all.find? fun f => f.name = s

theorem ofName?_name (f : OutputFormat) : ofName? f.name = some f := by cases f <;> decide

/-- The text of a document. -/
def render (v : Json) : OutputFormat → String
  | json => v.compact
  | jsonPretty | human => v.indented
  | yaml => Yaml.write v

/-- The text of a document that has a form for people. -/
def renderFor (v : Json) (text : String) : OutputFormat → String
  | human => text
  | f => f.render v

end OutputFormat

end FieldRules
